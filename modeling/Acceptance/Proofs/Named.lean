import Acceptance.Proofs.Ways

namespace Acceptance.FileTree

-- Paths that end in a name. Such a path is looked up in two steps: its other parts lead to a
-- directory, and the name is looked up there.

variable {tree left right : FileTree} {place current directory : Place} {purpose : Purpose}
  {name path : String} {parts : List String}

def IsName (name : String) : Prop := name ≠ "" ∧ name ≠ "." ∧ name ≠ ".."

instance : DecidablePred IsName := fun name =>
  inferInstanceAs (Decidable (name ≠ "" ∧ name ≠ "." ∧ name ≠ ".."))

def NotLink (tree : FileTree) (place : Place) : Prop :=
  ∀ target, tree.entry? place ≠ some (.link target)

def look (tree : FileTree) (directory : Place) (name : String) : Except IoError Found :=
  if !tree.isDirectoryAt directory then .error .notDirectory
  else if nameLimit < Text.size name then .error .nameTooLong
  else
    match tree.entry? (name :: directory) with
    | none => .ok (.vacant directory name false)
    | some _ => .ok (.entry (name :: directory))

theorem look_ends {found : Found} (seen : tree.look directory name = .ok found) :
    tree.Ends (name :: directory) (.ok found) := by
  unfold look at seen
  split at seen
  · cases seen
  split at seen
  · cases seen
  unfold Ends
  cases present : tree.entry? (name :: directory) with
  | none =>
      rw [present] at seen
      exact ⟨directory, name, rfl, seen.symm⟩
  | some entry =>
      rw [present] at seen
      exact seen.symm

theorem advance_name (proper : IsName name) (straight : purpose = .itself ∨
      (tree.look directory name = .ok (.entry (name :: directory)) →
        tree.NotLink (name :: directory))) :
    tree.advance purpose directory [name] = .ofResult (tree.look directory name) := by
  by_cases outside : tree.isDirectoryAt directory = false
  · simp [advance, look, outside, Progress.ofResult]
  have inside : tree.isDirectoryAt directory := by simpa using outside
  by_cases long : nameLimit < Text.size name
  · simp [advance, look, inside, proper.1, proper.2.1, proper.2.2, long, Progress.ofResult]
  cases present : tree.entry? (name :: directory) with
  | none =>
      simp [advance, look, inside, proper.1, proper.2.1, proper.2.2, long, present, isFinal,
        Progress.ofResult]
  | some entry =>
      have seen : tree.look directory name = .ok (.entry (name :: directory)) := by
        simp [look, inside, long, present]
      rw [seen, advance]
      simp only [inside, proper.1, proper.2.1, proper.2.2, long, present]
      cases entry with
      | link target =>
          rcases straight with rfl | straight
          · simp [Progress.ofResult]
          · exact (straight seen target present).elim
      | file content mode => simp [advance, Progress.ofResult]
      | directory => simp [advance, Progress.ofResult]
      | device device => simp [advance, Progress.ofResult]

def Progress.onward (tree : FileTree) (purpose : Purpose) (name : String) : Progress → Progress
  | .arrived (.entry directory) => tree.advance purpose directory [name]
  | .arrived (.vacant _ _ _) => .failed .noEntry
  | .failed cause => .failed cause
  | .detour directory target rest => .detour directory target (rest ++ [name])

theorem advance_concat (proper : IsName name) :
    tree.advance purpose current (parts ++ [name]) =
      (tree.advance .target current parts).onward tree purpose name := by
  induction parts generalizing current with
  | nil => rfl
  | cons part rest ih =>
      -- The name keeps what follows a part from being only separators.
      have goes : isFinal (rest ++ [name]) = false := by simp [isFinal, proper.1]
      have more : (rest ++ [name]).isEmpty = false := by simp
      rw [List.cons_append, advance, advance]
      by_cases outside : tree.isDirectoryAt current = false
      · simp [outside, Progress.onward]
      have inside : tree.isDirectoryAt current := by simpa using outside
      by_cases plain : (part = "" || part = ".")
      · simpa [inside, plain] using ih
      by_cases down : part = ".."
      · simpa [inside, plain, down] using ih
      by_cases long : nameLimit < Text.size part
      · simp [inside, plain, down, goes, long, Progress.onward]
      simp only [inside, plain, down, long, goes, more]
      cases tree.entry? (part :: current) with
      | none =>
          by_cases final : isFinal rest <;> simp [final, Progress.onward]
      | some entry =>
          cases entry with
          | link target => simp [Progress.onward]
          | file content mode => simpa using ih
          | directory => simpa using ih
          | device device => simpa using ih

def enter (tree : FileTree) (links : Nat) (start : Place) (parts : List String) :
    Except IoError Place :=
  match tree.resolve .target links start parts with
  | .ok (.entry directory) => .ok directory
  | .ok (.vacant _ _ _) => .error .noEntry
  | .error cause => .error cause

-- Unless a link stands under the name, the purpose of the walk does not matter.
theorem resolve_concat (proper : IsName name) (links : Nat) (start : Place)
    (straight : purpose = .itself ∨ ∀ directory, tree.enter links start parts = .ok directory →
      tree.look directory name = .ok (.entry (name :: directory)) →
        tree.NotLink (name :: directory)) :
    tree.resolve purpose links start (parts ++ [name]) =
      match tree.enter links start parts with
      | .ok directory => tree.look directory name
      | .error cause => .error cause := by
  unfold enter at straight ⊢
  rw [resolve, advance_concat proper]
  fun_induction tree.resolve .target links start parts with
  | case1 links start parts found walked =>
      rw [walked]
      cases found with
      | entry directory =>
          simp only [Progress.onward, advance_name proper (straight.imp_right fun s => s _ rfl)]
          cases tree.look directory name <;> rfl
      | vacant directory part slash => rfl
  | case2 links start parts cause walked =>
      rw [walked]
      rfl
  | case3 start parts directory target rest walked =>
      rw [walked]
      rfl
  | case4 start parts directory target rest walked links origin ih =>
      rw [walked]
      have onward := ih straight
      rw [← advance_concat proper, ← resolve] at onward
      simpa [Progress.onward, origin] using onward

def EndsIn (path name : String) : Prop := IsName name ∧ ∃ parts, partsOf path = parts ++ [name]

-- Such a path is not empty, which would be the one text that no tree can have.
theorem EndsIn.not_refused (ends : EndsIn path name) : refusal? path ≠ some .noEntry := by
  obtain ⟨proper, parts, split_⟩ := ends
  have filled : path ≠ "" := by
    rintro rfl
    have last := congrArg List.getLast? split_
    simp [partsOf, Path.parts] at last
    exact proper.1 last
  unfold refusal?
  repeat' split
  · decide
  · simp_all
  · decide
  · decide

theorem find_straight (ends : EndsIn path name)
    (straight : ∀ place, tree.find .itself path = .ok (.entry place) → tree.NotLink place) :
    tree.find purpose path = tree.find .itself path := by
  obtain ⟨proper, parts, split_⟩ := ends
  rw [find_eq, split_] at straight ⊢
  rw [find_eq, split_]
  cases refused : refusal? path with
  | some cause => rfl
  | none =>
      simp only [refused, resolve_concat proper _ _ (.inl rfl)] at straight ⊢
      apply resolve_concat proper
      refine .inr fun directory entered seen => straight _ ?_
      simpa [entered] using seen

-- The place at which a walk has ended: that of an entry, or one where an entry could be made.
def spot? : Except IoError Found → Option Place
  | .ok (.entry place) => some place
  | .ok (.vacant directory name false) => some (name :: directory)
  | _ => none

@[simp] theorem spot_error (cause : IoError) : spot? (.error cause) = none := rfl
@[simp] theorem spot_entry : spot? (.ok (.entry place)) = some place := rfl
@[simp] theorem spot_vacant :
    spot? (.ok (.vacant directory name false)) = some (name :: directory) := rfl

theorem Lost.spot {result : Except IoError Found} (lost : Lost result) : spot? result = none := by
  cases result with
  | error cause => rfl
  | ok found =>
      obtain ⟨directory, name, rfl⟩ := lost
      rfl

theorem Ends.spot {result : Except IoError Found} (ends : tree.Ends place result) :
    spot? result = some place := by
  unfold Ends at ends
  split at ends
  · rw [ends]
    rfl
  · obtain ⟨directory, name, rfl, rfl⟩ := ends
    rfl

-- Where a path leads if a link at its end is not followed.
def site? (tree : FileTree) (path : String) : Option Place := spot? (tree.find .itself path)

-- Where it leads if all links are followed.
def lead? (tree : FileTree) (path : String) : Option Place := spot? (tree.find .target path)

theorem SameWays.spot (ways : SameWays left right) (purpose : Purpose) (path : String) :
    spot? (left.find purpose path) = spot? (right.find purpose path) := by
  have akin := find_akin ways purpose path
  generalize left.find purpose path = one, right.find purpose path = other at akin
  cases akin with
  | same => rfl
  | lost lostLeft lostRight => rw [lostLeft.spot, lostRight.spot]
  | ends place endsLeft endsRight => rw [endsLeft.spot, endsRight.spot]

theorem SameWays.site (ways : SameWays left right) (path : String) :
    left.site? path = right.site? path := ways.spot .itself path

theorem SameWays.lead (ways : SameWays left right) (path : String) :
    left.lead? path = right.lead? path := ways.spot .target path

theorem find_itself_cases (tree : FileTree) (ends : EndsIn path name) :
    (∃ cause, tree.find .itself path = .error cause) ∨
      ∃ directory, tree.Ends (name :: directory) (tree.find .itself path) := by
  obtain ⟨proper, parts, split_⟩ := ends
  rw [find_eq, split_]
  cases refusal? path with
  | some cause => exact .inl ⟨cause, rfl⟩
  | none =>
      simp only [resolve_concat proper _ _ (.inl rfl)]
      cases tree.enter linkLimit (if isAbsolute path then [] else tree.cwd) parts with
      | error cause => exact .inl ⟨cause, rfl⟩
      | ok directory =>
          simp only
          cases seen : tree.look directory name with
          | error cause => exact .inl ⟨cause, rfl⟩
          | ok found => exact .inr ⟨directory, look_ends seen⟩

theorem find_of_site (ends : EndsIn path name) (site : tree.site? path = some place) :
    tree.Ends place (tree.find .itself path) := by
  rcases find_itself_cases tree ends with ⟨cause, failed⟩ | ⟨directory, arrived⟩
  · simp [site?, failed] at site
  · have same := arrived.spot.symm.trans site
    cases Option.some.inj same
    exact arrived

theorem find_of_no_site (ends : EndsIn path name) (lost : tree.site? path = none) :
    ∃ cause, tree.find .itself path = .error cause := by
  rcases find_itself_cases tree ends with failed | ⟨directory, arrived⟩
  · exact failed
  · simp [site?, arrived.spot] at lost

theorem site_named (ends : EndsIn path name) (site : tree.site? path = some place) :
    ∃ directory, place = name :: directory := by
  rcases find_itself_cases tree ends with ⟨cause, failed⟩ | ⟨directory, arrived⟩
  · simp [site?, failed] at site
  · exact ⟨directory, Option.some.inj (site.symm.trans arrived.spot)⟩

-- The parts of a directory path that come before a name joined to it.
def leadOf (dir : String) : List String :=
  if dir.isEmpty then []
  else if dir.toList.getLast? = some '/' then (partsOf dir).dropLast
  else partsOf dir

theorem partsOf_single (plain : '/' ∉ name.toList) : partsOf name = [name] := by
  simp [partsOf, Path.parts, List.splitOn_eq_singleton plain]

theorem partsOf_slash (dir rest : List Char) :
    partsOf (String.ofList (dir ++ '/' :: rest)) =
      partsOf (String.ofList dir) ++ partsOf (String.ofList rest) := by
  simp [partsOf, Path.parts, List.splitOn_append_cons_self]

theorem partsOf_join (dir : String) (plain : '/' ∉ name.toList) :
    partsOf (Path.join dir name) = leadOf dir ++ [name] := by
  have relative : name.toList.head? ≠ some '/' := by
    intro head
    exact plain (List.mem_of_mem_head? head)
  unfold Path.join leadOf
  by_cases empty : dir.isEmpty
  · simp [empty, partsOf_single plain]
  by_cases slash : dir.toList.getLast? = some '/'
  · obtain ⟨front, whole⟩ := List.getLast?_eq_some_iff.mp slash
    have text : dir = String.ofList (front ++ '/' :: []) := by rw [← whole, String.ofList_toList]
    have joined : dir ++ name = String.ofList (front ++ '/' :: name.toList) := by
      rw [text, ← String.ofList_toList (s := name), ← String.ofList_append]
      simp
    simp only [relative, empty, slash, decide_false, Bool.or_self, Bool.false_eq_true, if_false,
      if_true]
    rw [joined, partsOf_slash, String.ofList_toList, partsOf_single plain, text, partsOf_slash]
    simp [partsOf_single]
  · have joined : dir ++ "/" ++ name = String.ofList (dir.toList ++ '/' :: name.toList) := by
      apply String.toList_inj.mp
      simp
    simp only [relative, empty, slash, decide_false, Bool.or_self, Bool.false_eq_true, if_false]
    rw [joined, partsOf_slash, String.ofList_toList, String.ofList_toList, partsOf_single plain]

theorem isAbsolute_join (dir : String) (plain : '/' ∉ name.toList) :
    isAbsolute (Path.join dir name) = isAbsolute dir := by
  have relative : name.toList.head? ≠ some '/' := by
    intro head
    exact plain (List.mem_of_mem_head? head)
  unfold Path.join isAbsolute
  by_cases empty : dir.isEmpty
  · have nothing : dir = "" := by simpa using empty
    subst nothing
    simp [relative]
  have first : ∀ rest, (dir.toList ++ rest).head? = dir.toList.head? := by
    intro rest
    cases text : dir.toList with
    | nil => simp_all
    | cons letter letters => rfl
  by_cases slash : dir.toList.getLast? = some '/' <;> simp [relative, empty, slash, first]

theorem endsIn_join (dir : String) (proper : IsName name) (plain : '/' ∉ name.toList) :
    EndsIn (Path.join dir name) name := ⟨proper, leadOf dir, partsOf_join dir plain⟩

theorem site_join (dir : String) (proper : IsName name) (plain : '/' ∉ name.toList) :
    tree.site? (Path.join dir name) = some place ↔
      refusal? (Path.join dir name) = none ∧ Text.size name ≤ nameLimit ∧
        ∃ directory, tree.enter linkLimit (if isAbsolute dir then [] else tree.cwd) (leadOf dir) =
            .ok directory ∧ tree.isDirectoryAt directory ∧ place = name :: directory := by
  unfold site?
  rw [find_eq, partsOf_join dir plain, isAbsolute_join dir plain]
  cases refusal? (Path.join dir name) with
  | some cause => simp
  | none =>
      simp only [resolve_concat proper _ _ (.inl rfl)]
      cases tree.enter linkLimit (if isAbsolute dir then [] else tree.cwd) (leadOf dir) with
      | error cause => simp
      | ok directory =>
          simp only
          by_cases outside : tree.isDirectoryAt directory = false
          · simp [look, outside]
          have inside : tree.isDirectoryAt directory := by simpa using outside
          by_cases long : nameLimit < Text.size name
          · simp [look, inside, long, Nat.not_le.mpr long]
          have site : spot? (tree.look directory name) = some (name :: directory) := by
            cases present : tree.entry? (name :: directory) <;> simp [look, inside, long, present]
          simp only [site, inside, Nat.not_lt.mp long, Option.some.injEq, Except.ok.injEq,
            true_and, exists_eq_left']
          exact eq_comm

theorem site_sibling {dir name' : String} {place' : Place} (proper : IsName name)
    (plain : '/' ∉ name.toList) (proper' : IsName name') (plain' : '/' ∉ name'.toList)
    (first : left.site? (Path.join dir name) = some place)
    (second : left.site? (Path.join dir name') = some place')
    (kept : right.site? (Path.join dir name) = some place) :
    right.site? (Path.join dir name') = some place' := by
  obtain ⟨_, _, directory, entered, _, rfl⟩ := (site_join dir proper plain).mp first
  obtain ⟨allowed, fits, directory', entered', _, rfl⟩ := (site_join dir proper' plain').mp second
  obtain ⟨_, _, above, entered'', inside, same⟩ := (site_join dir proper plain).mp kept
  cases entered.symm.trans entered'
  cases (List.cons.inj same).2
  exact (site_join dir proper' plain').mpr ⟨allowed, fits, directory, entered'', inside, rfl⟩

theorem trimSlashes_named (ends : EndsIn path name) : trimSlashes path = (path, false) := by
  obtain ⟨proper, parts, split_⟩ := ends
  have kept : path.toList.reverse.dropWhile (· == '/') = path.toList.reverse := by
    cases text : path.toList.reverse with
    | nil => rfl
    | cons letter letters =>
        have differ : letter ≠ '/' := by
          intro slash
          have whole : path = String.ofList (letters.reverse ++ '/' :: []) := by
            rw [← String.ofList_toList (s := path), ← List.reverse_reverse path.toList, text, slash]
            simp
          rw [whole, partsOf_slash] at split_
          have last := congrArg List.getLast? split_
          simp [partsOf_single] at last
          exact proper.1 last
        simp [differ]
  unfold trimSlashes
  simp [kept, String.length_toList]

end Acceptance.FileTree
