import Acceptance.Proofs.Places

namespace Acceptance.FileTree

-- Which parts of a tree decide where a path leads. A walk goes through directories and is
-- diverted by links; everything else can only stop it.

variable {left right tree : FileTree} {place current : Place} {purpose : Purpose}

-- What a walk cannot go through: nothing, a file, a device.
def Leaf : Option Entry → Prop
  | some .directory | some (.link _) => False
  | _ => True

structure SameWays (left right : FileTree) : Prop where
  cwd : left.cwd = right.cwd
  entry : ∀ place, left.entry? place = right.entry? place ∨
    Leaf (left.entry? place) ∧ Leaf (right.entry? place)

theorem SameWays.refl (tree : FileTree) : SameWays tree tree := ⟨rfl, fun _ => .inl rfl⟩

theorem SameWays.symm (ways : SameWays left right) : SameWays right left :=
  ⟨ways.cwd.symm, fun place => (ways.entry place).imp Eq.symm And.symm⟩

theorem SameWays.trans {middle : FileTree} (first : SameWays left middle)
    (second : SameWays middle right) : SameWays left right := by
  refine ⟨first.cwd.trans second.cwd, fun place => ?_⟩
  rcases first.entry place with same | ⟨one, other⟩
  · rw [same]
    exact second.entry place
  · rcases second.entry place with same | ⟨_, last⟩
    · rw [← same]
      exact .inr ⟨one, other⟩
    · exact .inr ⟨one, last⟩

theorem SameWays.put {entry : Entry} (leaf : Leaf (tree.entry? place)) (fresh : Leaf (some entry)) :
    SameWays tree (tree.put place entry) := by
  refine ⟨rfl, fun other => ?_⟩
  rw [entry?_put]
  split
  · rename_i here
    rw [here.1]
    exact .inr ⟨leaf, fresh⟩
  · exact .inl rfl

theorem SameWays.erase (leaf : Leaf (tree.entry? place)) : SameWays tree (tree.erase place) := by
  refine ⟨rfl, fun other => ?_⟩
  rw [entry?_erase]
  split
  · rename_i here
    rw [here.1]
    exact .inr ⟨leaf, trivial⟩
  · exact .inl rfl

theorem SameWays.isDirectoryAt (ways : SameWays left right) (place : Place) :
    left.isDirectoryAt place = right.isDirectoryAt place := by
  unfold FileTree.isDirectoryAt
  rcases ways.entry place with same | ⟨one, other⟩
  · rw [same]
  · have stuck : ∀ {found : Option Entry}, Leaf found → (found == some .directory) = false := by
      intro found leaf
      cases found with
      | none => rfl
      | some entry => cases entry <;> first | rfl | exact leaf.elim
    rw [stuck one, stuck other]

-- The walk ends at a place, where the tree has something or nothing.
def Ends (tree : FileTree) (place : Place) (result : Except IoError Found) : Prop :=
  match tree.entry? place with
  | some _ => result = .ok (.entry place)
  | none => ∃ directory name, place = name :: directory ∧
      result = .ok (.vacant directory name false)

-- The walk is stopped before its end, or demands a directory where there is none.
def Lost : Except IoError Found → Prop
  | .error cause => cause = .noEntry ∨ cause = .notDirectory
  | .ok found => ∃ directory name, found = .vacant directory name true

inductive Akin (left right : FileTree) : Except IoError Found → Except IoError Found → Prop where
  | same (result : Except IoError Found) : Akin left right result result
  | lost {one other : Except IoError Found} : Lost one → Lost other → Akin left right one other
  | ends {one other : Except IoError Found} (place : Place) :
      Ends left place one → Ends right place other → Akin left right one other

def Progress.ofResult : Except IoError Found → Progress
  | .ok found => .arrived found
  | .error cause => .failed cause

theorem advance_leaf {part : String} {rest : List String} (inside : tree.isDirectoryAt current)
    (plain : (part = "" || part = ".") = false) (down : part ≠ "..")
    (open_ : (purpose = .newFile && isFinal rest && !rest.isEmpty) = false)
    (short : ¬nameLimit < Text.size part) (leaf : Leaf (tree.entry? (part :: current))) :
    ∃ result, tree.advance purpose current (part :: rest) = .ofResult result ∧
      if rest = [] then tree.Ends (part :: current) result else Lost result := by
  -- Every part after a leaf that is there finds no directory.
  have stopped : ∀ entry, tree.entry? (part :: current) = some entry → rest ≠ [] →
      tree.advance purpose (part :: current) rest = .failed .notDirectory := by
    intro entry present more
    cases rest with
    | nil => exact (more rfl).elim
    | cons next rest =>
        have outside : tree.isDirectoryAt (part :: current) = false := by
          unfold isDirectoryAt
          rw [present] at leaf ⊢
          cases entry <;> first | rfl | exact leaf.elim
        simp [advance, outside]
  have entered : ∀ entry, tree.entry? (part :: current) = some entry → Leaf (some entry) →
      ∃ result, tree.advance purpose (part :: current) rest = .ofResult result ∧
        if rest = [] then tree.Ends (part :: current) result else Lost result := by
    intro entry present _
    by_cases last : rest = []
    · subst last
      exact ⟨.ok (.entry (part :: current)), rfl, by simp [Ends, present]⟩
    · exact ⟨.error .notDirectory, stopped entry present last, by simp [last, Lost]⟩
  rw [advance]
  simp only [inside, plain, down, open_, short, Bool.not_true, Bool.false_eq_true, if_false]
  cases found : tree.entry? (part :: current) with
  | none =>
      by_cases final : isFinal rest
      · refine ⟨.ok (.vacant current part !rest.isEmpty), by simp [final, Progress.ofResult], ?_⟩
        cases rest with
        | nil => simp [Ends, found]
        | cons next rest => simp [Lost]
      · refine ⟨.error .noEntry, by simp [final, Progress.ofResult], ?_⟩
        cases rest with
        | nil => simp [isFinal] at final
        | cons next rest => simp [Lost]
  | some entry =>
      rw [found] at leaf
      cases entry with
      | directory => exact leaf.elim
      | link target => exact leaf.elim
      | file content mode => exact entered _ found leaf
      | device device => exact entered _ found leaf

theorem advance_akin (ways : SameWays left right) (purpose : Purpose) (current : Place)
    (parts : List String) :
    left.advance purpose current parts = right.advance purpose current parts ∨
      ∃ one other, left.advance purpose current parts = .ofResult one ∧
        right.advance purpose current parts = .ofResult other ∧ Akin left right one other := by
  induction parts generalizing current with
  | nil => exact .inl rfl
  | cons part rest ih =>
      by_cases outside : left.isDirectoryAt current = false
      · have outside' : right.isDirectoryAt current = false := by rwa [← ways.isDirectoryAt]
        exact .inl (by simp [advance, outside, outside'])
      have inside : left.isDirectoryAt current := by simpa using outside
      have within : right.isDirectoryAt current := by rwa [← ways.isDirectoryAt]
      by_cases plain : (part = "" || part = ".")
      · simpa [advance, inside, within, plain] using ih current
      by_cases down : part = ".."
      · simpa [advance, inside, within, plain, down] using ih current.tail
      by_cases open_ : (purpose = .newFile && isFinal rest && !rest.isEmpty)
      · exact .inl (by simp [advance, inside, within, plain, down, open_])
      by_cases short : nameLimit < Text.size part
      · exact .inl (by simp [advance, inside, within, plain, down, open_, short])
      rcases ways.entry (part :: current) with same | ⟨one, other⟩
      · rw [advance, advance]
        simp only [inside, within, plain, down, open_, short, Bool.not_true, Bool.false_eq_true,
          if_false, same]
        cases right.entry? (part :: current) with
        | none => exact .inl rfl
        | some entry =>
            cases entry with
            | link target => exact .inl rfl
            | file content mode => exact ih (part :: current)
            | directory => exact ih (part :: current)
            | device device => exact ih (part :: current)
      · simp only [Bool.not_eq_true] at plain open_
        obtain ⟨first, ranLeft, endsLeft⟩ := advance_leaf inside plain down open_ short one
        obtain ⟨second, ranRight, endsRight⟩ := advance_leaf within plain down open_ short other
        refine .inr ⟨first, second, ranLeft, ranRight, ?_⟩
        by_cases last : rest = []
        · exact .ends _ (by simpa [last] using endsLeft) (by simpa [last] using endsRight)
        · exact .lost (by simpa [last] using endsLeft) (by simpa [last] using endsRight)

theorem resolve_akin (ways : SameWays left right) (links : Nat) (start : Place)
    (parts : List String) : Akin left right (left.resolve purpose links start parts)
      (right.resolve purpose links start parts) := by
  induction links generalizing start parts with
  | zero =>
      rw [resolve, resolve]
      rcases advance_akin ways purpose start parts with
        same | ⟨one, other, ranLeft, ranRight, akin⟩
      · rw [same]
        exact .same _
      · rw [ranLeft, ranRight]
        cases one <;> cases other <;> exact akin
  | succ links ih =>
      rw [resolve, resolve]
      rcases advance_akin ways purpose start parts with
        same | ⟨one, other, ranLeft, ranRight, akin⟩
      · rw [same]
        cases right.advance purpose start parts with
        | arrived found => exact .same _
        | failed cause => exact .same _
        | detour directory target rest => exact ih _ _
      · rw [ranLeft, ranRight]
        cases one <;> cases other <;> exact akin

-- Why a path is refused as a whole, before the first step.
def refusal? (path : String) : Option IoError :=
  if pathLimit ≤ Text.size path && !path.toList.contains '\x00' then some .nameTooLong
  else if path.isEmpty then some .noEntry
  else if path.toList.contains '\x00' then some .nulInPath
  else none

theorem find_eq (tree : FileTree) (purpose : Purpose) (path : String) :
    tree.find purpose path =
      match refusal? path with
      | some cause => .error cause
      | none => tree.resolve purpose linkLimit (if isAbsolute path then [] else tree.cwd)
          (partsOf path) := by
  unfold find trace refusal?
  split
  · rfl
  split
  · rfl
  split <;> rfl

theorem find_akin (ways : SameWays left right) (purpose : Purpose) (path : String) :
    Akin left right (left.find purpose path) (right.find purpose path) := by
  rw [find_eq, find_eq]
  cases refusal? path with
  | some cause => exact .same _
  | none =>
      rw [ways.cwd]
      exact resolve_akin ways _ _ _

end Acceptance.FileTree
