import Acceptance.Proofs.Access

namespace Acceptance.FileTree

-- The places that a path leads through. A walk is decided by what it finds at these places alone:
-- trees that agree on them lead it to the same end, and where some of them become dead ends, it
-- comes no further than before.

variable {tree left right before after : FileTree} {current start place : Place} {purpose : Purpose}
  {part path : String} {parts rest more : List String} {links : Nat}

-- The places that a walk looks at until it meets a link.
def trail (tree : FileTree) : Place → List String → List Place
  | current, [] => [current]
  | current, part :: rest =>
      if !tree.isDirectoryAt current then [current]
      else if part = "" || part = "." then trail tree current rest
      else if part = ".." then current :: trail tree current.tail rest
      else if nameLimit < Text.size part then [current]
      else
        match tree.entry? (part :: current) with
        | none => [current, part :: current]
        | some (.link _) => [current, part :: current]
        | some _ => current :: trail tree (part :: current) rest

-- A place that a walk looks at when it follows at most `links` links.
inductive Visits (tree : FileTree) : Nat → Place → List String → Place → Prop where
  | near {links : Nat} {start place : Place} {parts : List String}
      (seen : place ∈ tree.trail start parts) : Visits tree links start parts place
  | far {links : Nat} {start directory place : Place} {target : String} {parts rest : List String}
      (met : tree.advance .target start parts = .detour directory target rest)
      (seen : Visits tree links (if isAbsolute target then [] else directory)
        (partsOf target ++ rest) place) : Visits tree (links + 1) start parts place

def Passes (tree : FileTree) (path : String) (place : Place) : Prop :=
  tree.Visits linkLimit (if isAbsolute path then [] else tree.cwd) (partsOf path) place

theorem start_mem_trail : current ∈ tree.trail current parts := by
  fun_induction tree.trail current parts <;> simp_all

-- Without a link on the way, the first trail is all.
theorem Visits.of_arrived {found : Found} (seen : tree.Visits links start parts place)
    (arrived : tree.advance .target start parts = .arrived found) :
    place ∈ tree.trail start parts := by
  cases seen with
  | near seen => exact seen
  | far met seen => cases arrived.symm.trans met

theorem advance_detour {directory : Place} {target : String}
    (met : tree.advance purpose current parts = .detour directory target rest) :
    tree.advance .target current parts = .detour directory target rest := by
  fun_induction tree.advance purpose current parts with
  | case1 | case2 | case5 | case6 | case7 | case8 | case9 => cases met
  | case3 current part more inside stay ih => simp_all [advance]
  | case4 current more inside stay ih => simp_all [advance]
  | case10 current part more inside stay up goes long link present stays => simp_all [advance]
  | case11 current part more inside stay up goes long entry passable present ih =>
      have onward := ih met
      cases entry <;> simp_all [advance]

theorem advance_arrives {found : Found}
    (reached : tree.advance purpose current parts = .arrived found)
    (spot : spot? (.ok found) = some place) : place ∈ tree.trail current parts := by
  fun_induction tree.advance purpose current parts with
  | case2 | case5 | case6 | case8 | case10 => cases reached
  | case1 current =>
      cases reached
      simp_all [trail]
  | case3 current part rest inside stay ih => simp_all [trail]
  | case4 current rest inside stay ih => simp_all [trail]
  | case7 current part rest inside stay up goes long absent final =>
      cases reached
      cases rest <;> simp_all [trail, spot?, Nat.not_lt_of_le]
  | case9 current part rest inside stay up goes long target present last =>
      cases reached
      simp_all [trail, Nat.not_lt_of_le]
  | case11 current part rest inside stay up goes long entry passable present ih =>
      have onward := ih reached
      cases entry <;> simp_all [trail, Nat.not_lt_of_le]

theorem resolve_visits (spot : spot? (tree.resolve purpose links start parts) = some place) :
    tree.Visits links start parts place := by
  induction links generalizing start parts with
  | zero =>
      rw [resolve] at spot
      cases walked : tree.advance purpose start parts with
      | arrived found => exact .near (advance_arrives walked (by simpa [walked] using spot))
      | failed cause => simp [walked] at spot
      | detour directory target rest => simp [walked] at spot
  | succ links ih =>
      rw [resolve] at spot
      cases walked : tree.advance purpose start parts with
      | arrived found => exact .near (advance_arrives walked (by simpa [walked] using spot))
      | failed cause => simp [walked] at spot
      | detour directory target rest =>
          exact .far (advance_detour walked) (ih (by simpa [walked] using spot))

theorem find_passes (spot : spot? (tree.find purpose path) = some place) :
    tree.Passes path place := by
  rw [find_eq] at spot
  cases refused : refusal? path with
  | some cause => simp [refused] at spot
  | none => exact resolve_visits (by simpa [refused] using spot)

theorem passes_of_locate (found : tree.locate path = .ok place) : tree.Passes path place :=
  find_passes (lead_of_locate found)

theorem advance_vacant {directory : Place} {name : String} {slash : Bool}
    (reached : tree.advance purpose current parts = .arrived (.vacant directory name slash)) :
    tree.entry? (name :: directory) = none := by
  fun_induction tree.advance purpose current parts with
  | case1 | case2 | case5 | case6 | case8 | case9 | case10 => cases reached
  | case3 current part rest inside stay ih => exact ih reached
  | case4 current rest inside stay ih => exact ih reached
  | case7 current part rest inside stay up goes long absent final =>
      cases reached
      exact absent
  | case11 current part rest inside stay up goes long entry passable present ih =>
      exact ih reached

theorem find_vacant {directory : Place} {name : String} {slash : Bool}
    (reached : tree.find purpose path = .ok (.vacant directory name slash)) :
    tree.entry? (name :: directory) = none := by
  rw [find_eq] at reached
  split at reached
  · cases reached
  generalize linkLimit = links, partsOf path = parts,
    (if isAbsolute path then [] else tree.cwd) = start at reached
  fun_induction tree.resolve purpose links start parts with
  | case1 links start parts found walked =>
      cases reached
      exact advance_vacant walked
  | case2 | case3 => cases reached
  | case4 start parts directory target rest walked links origin ih => exact ih reached

theorem isDirectoryAt_congr (same : right.entry? place = left.entry? place) :
    right.isDirectoryAt place = left.isDirectoryAt place := by
  rw [isDirectoryAt, isDirectoryAt, same]

theorem advance_agree (purpose : Purpose)
    (agree : ∀ spot ∈ left.trail current parts, right.entry? spot = left.entry? spot) :
    right.advance purpose current parts = left.advance purpose current parts ∧
      right.trail current parts = left.trail current parts := by
  fun_induction left.trail current parts with
  | case1 current => exact ⟨rfl, rfl⟩
  | case2 current part rest outside =>
      have here := isDirectoryAt_congr (agree current (by simp))
      simp_all [advance, trail]
  | case3 current part rest inside stay ih =>
      have here := isDirectoryAt_congr (agree current start_mem_trail)
      have onward := ih agree
      simp_all [advance, trail]
  | case4 current rest inside stay ih =>
      have here := isDirectoryAt_congr (agree current (by simp))
      have onward := ih fun spot member => agree spot (List.mem_cons_of_mem _ member)
      simp_all [advance, trail]
  | case5 current part rest inside stay up long =>
      have here := isDirectoryAt_congr (agree current (by simp))
      simp_all [advance, trail]
  | case6 current part rest inside stay up long absent =>
      have here := isDirectoryAt_congr (agree current (by simp))
      have there := agree (part :: current) (by simp)
      simp_all [advance, trail]
  | case7 current part rest inside stay up long target present =>
      have here := isDirectoryAt_congr (agree current (by simp))
      have there := agree (part :: current) (by simp)
      simp_all [advance, trail]
  | case8 current part rest inside stay up long entry passable present ih =>
      have here := isDirectoryAt_congr (agree current (by simp))
      have onward := ih fun spot member => agree spot (List.mem_cons_of_mem _ member)
      have there := agree (part :: current) (List.mem_cons_of_mem _ start_mem_trail)
      cases entry <;> simp_all [advance, trail, Nat.not_lt_of_le]

theorem resolve_agree
    (agree : ∀ spot, left.Visits links start parts spot → right.entry? spot = left.entry? spot) :
    right.resolve purpose links start parts = left.resolve purpose links start parts := by
  induction links generalizing start parts with
  | zero =>
      rw [resolve, resolve, (advance_agree purpose fun spot member => agree spot (.near member)).1]
  | succ links ih =>
      rw [resolve, resolve, (advance_agree purpose fun spot member => agree spot (.near member)).1]
      cases met : left.advance purpose start parts with
      | arrived found => rfl
      | failed cause => rfl
      | detour directory target rest =>
          exact ih fun spot seen => agree spot (.far (advance_detour met) seen)

theorem find_agree (cwd : right.cwd = left.cwd)
    (agree : ∀ spot, left.Passes path spot → right.entry? spot = left.entry? spot) :
    right.find purpose path = left.find purpose path := by
  rw [find_eq, find_eq, cwd, resolve_agree agree]

theorem Visits.agree
    (agree : ∀ spot, left.Visits links start parts spot → right.entry? spot = left.entry? spot)
    (seen : right.Visits links start parts place) : left.Visits links start parts place := by
  induction seen with
  | near seen =>
      rw [(advance_agree .target fun spot member => agree spot (.near member)).2] at seen
      exact .near seen
  | far met seen ih =>
      rw [(advance_agree .target fun spot member => agree spot (.near member)).1] at met
      exact .far met (ih fun spot seen => agree spot (.far met seen))

theorem Passes.agree (cwd : right.cwd = left.cwd)
    (agree : ∀ spot, left.Passes path spot → right.entry? spot = left.entry? spot)
    (passes : right.Passes path place) : left.Passes path place := by
  unfold Passes at passes
  rw [cwd] at passes
  exact Visits.agree agree passes

theorem trail_append : tree.trail current parts ⊆ tree.trail current (parts ++ more) := by
  fun_induction tree.trail current parts with
  | case1 current => simp [start_mem_trail]
  | case8 current part rest inside stay up long entry passable present ih =>
      cases entry <;> simp_all [trail, Nat.not_lt_of_le]
  | case2 | case3 | case4 | case5 | case6 | case7 => simp_all [trail, Nat.not_lt_of_le]

theorem advance_detour_append {directory : Place} {target : String}
    (follows : purpose = .target ∨ purpose = .itself ∧ more ≠ [])
    (met : tree.advance .target current parts = .detour directory target rest) :
    tree.advance purpose current (parts ++ more) = .detour directory target (rest ++ more) := by
  have proper : purpose ≠ .newFile := by rintro rfl; simp at follows
  fun_induction tree.advance .target current parts with
  | case1 | case2 | case5 | case6 | case7 | case8 | case9 => cases met
  | case3 current part rest inside stay ih => simp_all [advance]
  | case4 current rest inside stay ih => simp_all [advance]
  | case10 current part rest inside stay up goes long link present stays =>
      rcases follows with rfl | ⟨rfl, filled⟩ <;> simp_all [advance]
  | case11 current part rest inside stay up goes long entry passable present ih =>
      have onward := ih met
      cases entry <;> simp_all [advance]

theorem Visits.append (seen : tree.Visits links start parts place) :
    tree.Visits links start (parts ++ more) place := by
  induction seen with
  | near seen => exact .near (trail_append seen)
  | far met seen ih =>
      rw [List.append_assoc] at ih
      exact .far (advance_detour_append (.inl rfl) met) ih

-- Separators at the end of a path only make its way longer.
theorem Passes.of_ownPath (passes : tree.Passes (ownPath path) place) : tree.Passes path place := by
  unfold ownPath trimSlashes at passes
  split at passes
  · exact passes
  rename_i filled
  have whole := congrArg List.reverse
    (List.takeWhile_append_dropWhile (p := (· == '/')) (l := path.toList.reverse))
  rw [List.reverse_append, List.reverse_reverse] at whole
  have slashes : ∀ letter ∈ (path.toList.reverse.takeWhile (· == '/')).reverse, letter = '/' := by
    intro letter member
    simpa using List.all_eq_true.mp List.all_takeWhile letter (List.mem_reverse.mp member)
  generalize (path.toList.reverse.dropWhile (· == '/')).reverse = front at passes filled whole
  generalize (path.toList.reverse.takeWhile (· == '/')).reverse = back at slashes whole
  have text : path = String.ofList (front ++ back) := by rw [whole, String.ofList_toList]
  have absolute : isAbsolute path = isAbsolute (String.ofList front) := by
    rw [text, isAbsolute, isAbsolute, String.toList_ofList, String.toList_ofList]
    cases front with
    | nil => simp at filled
    | cons letter letters => rfl
  have longer : ∃ more, partsOf path = partsOf (String.ofList front) ++ more := by
    cases back with
    | nil => exact ⟨[], by rw [text, List.append_nil, List.append_nil]⟩
    | cons letter letters =>
        rw [text, slashes letter (by simp), partsOf_slash]
        exact ⟨_, rfl⟩
  obtain ⟨more, longer⟩ := longer
  unfold Passes at passes ⊢
  rw [absolute, longer]
  exact passes.append

-- Where something has changed, a walk does not go on any more.
structure Pruned (changed : Place → Prop) (before after : FileTree) : Prop where
  cwd : after.cwd = before.cwd
  entry : ∀ place, after.entry? place = before.entry? place ∨
    changed place ∧ Leaf (after.entry? place)

theorem Pruned.erase (tree : FileTree) (place : Place) :
    Pruned (· = place) tree (tree.erase place) := by
  refine ⟨rfl, fun other => ?_⟩
  rw [entry?_erase]
  split
  · rename_i here
    exact .inr ⟨here.1, trivial⟩
  · exact .inl rfl

theorem Pruned.mono {changed wide : Place → Prop} (pruned : Pruned changed before after)
    (more : ∀ place, changed place → wide place) : Pruned wide before after :=
  ⟨pruned.cwd, fun place => (pruned.entry place).imp_right (And.imp_left (more place))⟩

theorem Leaf.outside (leaf : Leaf (tree.entry? place)) : tree.isDirectoryAt place = false := by
  unfold isDirectoryAt
  cases found : tree.entry? place with
  | none => rfl
  | some entry =>
      rw [found] at leaf
      cases entry <;> first | rfl | exact leaf.elim

theorem trail_stuck (outside : tree.isDirectoryAt current = false) :
    tree.trail current parts = [current] := by
  cases parts <;> simp [trail, outside]

theorem trail_leaf (inside : tree.isDirectoryAt current)
    (plain : (part = "" || part = ".") = false) (down : part ≠ "..")
    (leaf : Leaf (tree.entry? (part :: current))) :
    tree.trail current (part :: rest) ⊆ [current, part :: current] := by
  rw [trail]
  simp only [inside, plain, down, Bool.not_true, Bool.false_eq_true, if_false]
  split
  · simp
  · split <;> simp [trail_stuck leaf.outside]

-- The place that a part names is looked at, whatever is there.
theorem part_mem_trail (inside : tree.isDirectoryAt current)
    (plain : (part = "" || part = ".") = false) (down : part ≠ "..")
    (short : ¬nameLimit < Text.size part) :
    part :: current ∈ tree.trail current (part :: rest) := by
  rw [trail]
  simp only [inside, plain, down, short, Bool.not_true, Bool.false_eq_true, if_false]
  split <;> simp [start_mem_trail]

namespace Pruned

variable {changed : Place → Prop}

theorem advance (pruned : Pruned changed before after) (purpose : Purpose) (current : Place)
    (parts : List String) : after.trail current parts ⊆ before.trail current parts ∧
      (after.advance purpose current parts = before.advance purpose current parts ∨
        ∃ result, after.advance purpose current parts = .ofResult result ∧
          ∀ place, spot? result = some place → changed place) := by
  induction parts generalizing current with
  | nil => exact ⟨by simp [trail], .inl rfl⟩
  | cons part rest ih =>
      rcases pruned.entry current with same | ⟨_, leaf⟩
      · have here := isDirectoryAt_congr same
        by_cases outside : before.isDirectoryAt current = false
        · simp [trail, FileTree.advance, outside, here]
        have inside : before.isDirectoryAt current := by simpa using outside
        have within : after.isDirectoryAt current := here.trans inside
        by_cases stay : (part = "" || part = ".")
        · simpa [trail, FileTree.advance, inside, within, stay] using ih current
        by_cases up : part = ".."
        · obtain ⟨seen, walked⟩ := ih current.tail
          subst up
          simp only [trail, FileTree.advance, inside, within, stay]
          exact ⟨List.cons_subset_cons _ seen, walked⟩
        simp only [Bool.not_eq_true] at stay
        by_cases long : nameLimit < Text.size part
        · simp [trail, FileTree.advance, inside, within, stay, up, long]
        rcases pruned.entry (part :: current) with same | ⟨altered, leaf⟩
        · obtain ⟨seen, walked⟩ := ih (part :: current)
          simp only [trail, FileTree.advance, inside, within, stay, up, long, same]
          cases before.entry? (part :: current) with
          | none => simp
          | some entry =>
              by_cases goes : (purpose = .newFile && isFinal rest && !rest.isEmpty)
              · cases entry <;> simp [goes, seen]
              · cases entry <;> simp [goes, seen, walked]
        · refine ⟨fun spot member => ?_, ?_⟩
          · have few := trail_leaf within stay up leaf member
            simp only [List.mem_cons, List.not_mem_nil, or_false] at few
            rcases few with rfl | rfl
            · exact start_mem_trail
            · exact part_mem_trail inside stay up long
          by_cases goes : (purpose = .newFile && isFinal rest && !rest.isEmpty)
          · exact .inl (by simp [FileTree.advance, inside, within, stay, up, goes])
          obtain ⟨result, walked, ends⟩ :=
            advance_leaf within stay up (by simpa using goes) long leaf
          refine .inr ⟨result, walked, fun spot found => ?_⟩
          split at ends
          · cases Option.some.inj (ends.spot.symm.trans found)
            exact altered
          · simp [ends.spot] at found
      · refine ⟨?_, .inr ⟨.error .notDirectory, ?_, by simp⟩⟩
        · rw [trail_stuck leaf.outside]
          simp [start_mem_trail]
        · simp [FileTree.advance, leaf.outside, Progress.ofResult]

theorem visits (pruned : Pruned changed before after)
    (seen : after.Visits links start parts place) : before.Visits links start parts place := by
  induction seen with
  | near seen => exact .near ((pruned.advance .target _ _).1 seen)
  | @far _ start directory _ target parts rest met seen ih =>
      rcases (pruned.advance .target start parts).2 with same | ⟨result, walked, _⟩
      · exact .far (same.symm.trans met) ih
      · rw [walked] at met
        cases result <;> cases met

theorem passes (pruned : Pruned changed before after) (passes : after.Passes path place) :
    before.Passes path place := by
  unfold Passes at passes
  rw [pruned.cwd] at passes
  exact pruned.visits passes

theorem resolve (pruned : Pruned changed before after)
    (spot : spot? (after.resolve purpose links start parts) = some place) :
    spot? (before.resolve purpose links start parts) = some place ∨ changed place := by
  induction links generalizing start parts with
  | zero =>
      rw [FileTree.resolve] at spot ⊢
      rcases (pruned.advance purpose start parts).2 with same | ⟨result, walked, far⟩
      · rw [same] at spot
        exact .inl spot
      · rw [walked] at spot
        cases result <;> exact .inr (far place spot)
  | succ links ih =>
      rw [FileTree.resolve] at spot ⊢
      rcases (pruned.advance purpose start parts).2 with same | ⟨result, walked, far⟩
      · rw [same] at spot
        cases met : before.advance purpose start parts with
        | arrived found => exact .inl (by simpa [met] using spot)
        | failed cause => simp [met] at spot
        | detour directory target rest => exact ih (by simpa [met] using spot)
      · rw [walked] at spot
        cases result <;> exact .inr (far place spot)

theorem find (pruned : Pruned changed before after)
    (spot : spot? (after.find purpose path) = some place) :
    spot? (before.find purpose path) = some place ∨ changed place := by
  rw [find_eq, pruned.cwd] at spot
  rw [find_eq]
  cases refused : refusal? path with
  | some cause => simp [refused] at spot
  | none => exact pruned.resolve (by simpa [refused] using spot)

end Pruned

def Below (home place : Place) : Prop := home <:+ place ∧ place ≠ home

theorem below_cons {home : Place} (within : home <:+ current) : Below home (part :: current) := by
  refine ⟨within.trans (List.suffix_cons _ _), ?_⟩
  rintro rfl
  have short := within.length_le
  rw [List.length_cons] at short
  omega

theorem trail_within {home : Place} (within : home <:+ current) (down : ".." ∉ parts) :
    ∀ place ∈ tree.trail current parts, home <:+ place := by
  fun_induction tree.trail current parts with
  | case1 | case2 | case5 => simpa using within
  | case3 current part rest inside stay ih => exact ih within (by simp_all)
  | case4 => simp at down
  | case6 | case7 => simpa using ⟨within, (below_cons within).1⟩
  | case8 current part rest inside stay up long entry passable present ih =>
      simpa using ⟨within, ih (below_cons within).1 (by simp_all)⟩

theorem advance_within {home : Place} (unlinked : ∀ place, Below home place → tree.NotLink place)
    (within : home <:+ current) (down : ".." ∉ parts) (directory : Place) (target : String)
    (rest : List String) : tree.advance .target current parts ≠ .detour directory target rest := by
  fun_induction tree.advance .target current parts with
  | case1 | case2 | case5 | case6 | case7 | case8 | case9 =>
      intro met
      cases met
  | case3 current part rest inside stay ih => exact ih within (by simp_all)
  | case4 => simp at down
  | case10 current part rest inside stay up goes long link present =>
      exact (unlinked _ (below_cons within) link present).elim
  | case11 current part rest inside stay up goes long entry passable present ih =>
      exact ih (below_cons within).1 (by simp_all)

theorem advance_enter {home : Place} (more : List String) (proper : purpose ≠ .newFile)
    (entered : tree.advance .target current parts = .arrived (.entry home)) :
    tree.advance purpose current (parts ++ more) = tree.advance purpose home more ∧
      tree.trail current (parts ++ more) ⊆
        tree.trail current parts ++ tree.trail home more := by
  fun_induction tree.advance .target current parts with
  | case2 | case5 | case6 | case7 | case8 | case10 => cases entered
  | case1 current =>
      cases entered
      simp
  | case3 current part rest inside stay ih => simp_all [advance, trail]
  | case4 current rest inside stay ih => simp_all [advance, trail]
  | case9 current part rest inside stay up goes long target present last => simp at last
  | case11 current part rest inside stay up goes long entry passable present ih =>
      obtain ⟨walked, seen⟩ := ih entered
      cases entry <;> simp_all [advance, trail, Nat.not_lt_of_le]

-- One that has met a link looks no further before it has followed the link.
theorem trail_detour {directory : Place} {target : String}
    (met : tree.advance .target current parts = .detour directory target rest) :
    tree.trail current (parts ++ more) = tree.trail current parts := by
  fun_induction tree.advance .target current parts with
  | case1 | case2 | case5 | case6 | case7 | case8 | case9 => cases met
  | case3 current part rest inside stay ih => simp_all [trail]
  | case4 current rest inside stay ih => simp_all [trail]
  | case10 current part rest inside stay up goes long link present stays =>
      simp_all [trail, Nat.not_lt_of_le]
  | case11 current part rest inside stay up goes long entry passable present ih =>
      have onward := ih met
      cases entry <;> simp_all [trail, Nat.not_lt_of_le]

section Entered

-- A path that leads to a place, and the parts of a longer one behind it, which meet no link.
variable {home : Place} (entered : tree.resolve .target links start parts = .ok (.entry home))
  (straight : ∀ directory target rest, tree.advance .target home more ≠
    .detour directory target rest)
include entered straight

theorem Visits.enter (seen : tree.Visits links start (parts ++ more) place) :
    tree.Visits links start parts place ∨ place ∈ tree.trail home more := by
  fun_induction tree.resolve .target links start parts with
  | case2 | case3 => cases entered
  | case1 links start parts found walked =>
      cases entered
      have proper : Purpose.target ≠ .newFile := by decide
      obtain ⟨onward, trails⟩ := advance_enter more proper walked
      cases seen with
      | near seen => exact (List.mem_append.mp (trails seen)).imp_left .near
      | far met seen => exact (straight _ _ _ (onward.symm.trans met)).elim
  | case4 start parts directory target rest walked links origin ih =>
      cases seen with
      | near seen =>
          rw [trail_detour walked] at seen
          exact .inl (.near seen)
      | far met seen =>
          cases (advance_detour_append (.inl rfl) walked).symm.trans met
          rw [← List.append_assoc] at seen
          exact (ih entered seen).imp_left (.far walked)

theorem resolve_enter (follows : purpose = .target ∨ purpose = .itself ∧ more ≠ [])
    (spot : spot? (tree.resolve purpose links start (parts ++ more)) = some place) :
    place ∈ tree.trail home more := by
  rw [resolve] at spot
  fun_induction tree.resolve .target links start parts with
  | case2 | case3 => cases entered
  | case1 links start parts found walked =>
      cases entered
      have proper : purpose ≠ .newFile := by rintro rfl; simp at follows
      rw [(advance_enter more proper walked).1] at spot
      cases reached : tree.advance purpose home more with
      | arrived found => exact advance_arrives reached (by simpa [reached] using spot)
      | failed cause => simp [reached] at spot
      | detour directory target rest => exact (straight _ _ _ (advance_detour reached)).elim
  | case4 start parts directory target rest walked links origin ih =>
      rw [advance_detour_append follows walked] at spot
      simp only at spot
      rw [← List.append_assoc, resolve] at spot
      exact ih entered spot

end Entered

theorem join_relative {dir name : String} (filled : dir ≠ "")
    (unslashed : dir.toList.getLast? ≠ some '/') (relative : name.toList.head? ≠ some '/') :
    partsOf (Path.join dir name) = partsOf dir ++ partsOf name ∧
      isAbsolute (Path.join dir name) = isAbsolute dir := by
  have joined : Path.join dir name = String.ofList (dir.toList ++ '/' :: name.toList) := by
    apply String.toList_inj.mp
    simp [Path.join, filled, unslashed, relative]
  constructor
  · rw [joined, partsOf_slash, String.ofList_toList, String.ofList_toList]
  · rw [joined, isAbsolute, isAbsolute, String.toList_ofList]
    cases text : dir.toList with
    | nil => exact (filled (String.toList_eq_nil_iff.mp text)).elim
    | cons letter letters => rfl

-- A relative name without `..` stays in the directory that it is joined to, if no link in there
-- is in its way.
theorem join_within {dir name : String} {home : Place} (found : tree.locate dir = .ok home)
    (unslashed : dir.toList.getLast? ≠ some '/') (relative : name.toList.head? ≠ some '/')
    (down : ".." ∉ partsOf name) (unlinked : ∀ place, Below home place → tree.NotLink place) :
    (∀ place, tree.Passes (Path.join dir name) place → tree.Passes dir place ∨ home <:+ place) ∧
      ∀ purpose, purpose ≠ .newFile → ∀ place,
        spot? (tree.find purpose (Path.join dir name)) = some place → home <:+ place := by
  rw [locate_eq_ok, find_eq] at found
  cases refused : refusal? dir with
  | some cause => simp [refused] at found
  | none =>
      simp only [refused] at found
      have filled : dir ≠ "" := by
        rintro rfl
        cases refused
      have straight := advance_within unlinked (List.suffix_refl _) down
      have inside : ∀ place ∈ tree.trail home (partsOf name), home <:+ place :=
        trail_within (List.suffix_refl home) down
      obtain ⟨parts, absolute⟩ := join_relative filled unslashed relative
      constructor
      · intro place passes
        unfold Passes at passes ⊢
        rw [parts, absolute] at passes
        exact (Visits.enter found straight passes).imp_right (inside place)
      · intro purpose proper place spot
        rw [find_eq, parts, absolute] at spot
        cases refused : refusal? (Path.join dir name) with
        | some cause => simp [refused] at spot
        | none =>
            refine inside place (resolve_enter found straight ?_ (by simpa [refused] using spot))
            have more : partsOf name ≠ [] := by simp [partsOf, Path.parts]
            cases purpose with
            | itself => exact .inr ⟨rfl, more⟩
            | target => exact .inl rfl
            | newFile => exact (proper rfl).elim

end Acceptance.FileTree
