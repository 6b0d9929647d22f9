import Acceptance.FileTree.Access

namespace Acceptance.FileTree

open Text (Bytes)

-- What is at a place after the tree has changed. Every change of the tree goes through `put` and
-- `erase`, so the lookups after these two decide all others.

variable {tree : FileTree} {place other : Place} {entry : Entry}

theorem lookup_replaceEntry {entries : List (Place × Entry)}
    (present : (entries.lookup place).isSome) :
    (replaceEntry entries place entry).lookup other =
      if other = place then some entry else entries.lookup other := by
  induction entries with
  | nil => simp at present
  | cons head rest ih =>
      obtain ⟨key, old⟩ := head
      by_cases here : key = place
      · subst here
        by_cases equal : other = key
        · simp [replaceEntry, equal]
        · simp [replaceEntry, List.lookup_cons, beq_false_of_ne equal, equal]
      · have further : (rest.lookup place).isSome := by
          simpa [List.lookup_cons, beq_false_of_ne (Ne.symm here)] using present
        by_cases equal : other = key
        · subst equal
          simp [replaceEntry, here]
        · simp [replaceEntry, here, List.lookup_cons, beq_false_of_ne equal, ih further]

-- The root stays a directory whatever is put there.
theorem entry?_put : entry? (tree.put place entry) other =
    if other = place ∧ place ≠ [] then some entry else tree.entry? other := by
  cases other with
  | nil => by_cases root : place = [] <;> simp [ entry?, root, eq_comm]
  | cons name above =>
      unfold entry? put
      by_cases present : (tree.entries.lookup place).isSome
      · by_cases equal : name :: above = place
        · subst equal
          simp [present, lookup_replaceEntry present]
        · simp [present, lookup_replaceEntry present, equal]
      · by_cases equal : name :: above = place
        · subst equal
          simp [present]
        · simp [present, List.lookup_cons, beq_false_of_ne equal, equal]

@[simp] theorem put_cwd : (tree.put place entry).cwd = tree.cwd := rfl
@[simp] theorem put_shared : (tree.put place entry).shared = tree.shared := rfl

theorem lookup_filter_ne (entries : List (Place × Entry)) :
    (entries.filter fun (place', _) => place' != place).lookup other =
      if other = place then none else entries.lookup other := by
  induction entries with
  | nil => simp
  | cons head rest ih =>
      obtain ⟨key, old⟩ := head
      by_cases here : key = place
      · subst here
        by_cases equal : other = key
        · simpa [equal] using ih
        · simp [ih, equal, List.lookup_cons, beq_false_of_ne equal]
      · by_cases equal : other = key
        · subst equal
          simp [here]
        · simp [here, List.lookup_cons, beq_false_of_ne equal, ih]

theorem entry?_erase : entry? (tree.erase place) other =
    if other = place ∧ place ≠ [] then none else tree.entry? other := by
  cases other with
  | nil => by_cases root : place = [] <;> simp [ entry?, root, eq_comm]
  | cons name above =>
      unfold entry? erase
      by_cases equal : name :: above = place
      · subst equal
        simp [lookup_filter_ne]
      · simp [lookup_filter_ne, equal]

def Alone (tree : FileTree) (place : Place) : Prop := ∀ group ∈ tree.shared, place ∉ group

instance : Decidable (tree.Alone place) :=
  inferInstanceAs (Decidable (∀ group ∈ tree.shared, place ∉ group))

def Together (tree : FileTree) (place other : Place) : Prop :=
  place ≠ other ∧ ∃ group ∈ tree.shared, place ∈ group ∧ other ∈ group

theorem Alone.apart (alone : tree.Alone place) (other : Place) : ¬tree.Together place other := by
  rintro ⟨_, group, member, inside, _⟩
  exact alone group member inside

theorem mem_twins : place ∈ tree.twins place := by
  unfold twins
  cases found : tree.shared.find? (·.contains place) with
  | none => simp
  | some group => simpa using List.find?_some found

theorem twins_alone (alone : tree.Alone place) : tree.twins place = [place] := by
  have missing : tree.shared.find? (·.contains place) = none := by
    rw [List.find?_eq_none]
    intro group member
    simpa using alone group member
  rw [twins, missing]
  rfl

theorem not_mem_twins (alone : tree.Alone other) (differ : other ≠ place) :
    other ∉ tree.twins place := by
  unfold twins
  cases found : tree.shared.find? (·.contains place) with
  | none => simpa using differ
  | some group => exact alone group (List.mem_of_find?_eq_some found)

theorem Alone.erase (alone : tree.Alone other) : (tree.erase place).Alone other := by
  intro group member inside
  simp only [FileTree.erase, forget, List.mem_filter, List.mem_map] at member
  obtain ⟨⟨old, present, rfl⟩, _⟩ := member
  exact alone old present (List.mem_filter.mp inside).1

theorem one_lt_length {places : List Place} (differ : place ≠ other) (first : place ∈ places)
    (second : other ∈ places) : 1 < places.length := by
  match places with
  | [] => cases first
  | [single] =>
      rw [List.mem_singleton] at first second
      exact (differ (first.trans second.symm)).elim
  | _ :: _ :: _ => simp

theorem together_erase {one : Place} : (tree.erase place).Together one other ↔
    one ≠ place ∧ other ≠ place ∧ tree.Together one other := by
  unfold Together
  simp only [FileTree.erase, forget, List.mem_filter, List.mem_map, decide_eq_true_eq]
  constructor
  · rintro ⟨differ, group, ⟨⟨old, member, rfl⟩, _⟩, inside, inside'⟩
    simp only [List.mem_filter] at inside inside'
    exact ⟨by simpa using inside.2, by simpa using inside'.2, differ, old, member, inside.1,
      inside'.1⟩
  · rintro ⟨kept, kept', differ, group, member, inside, inside'⟩
    have stays : ∀ {spot}, spot ≠ place → spot ∈ group →
        spot ∈ group.filter fun spot => !(spot == place) := fun differs there =>
      List.mem_filter.mpr ⟨there, by simpa using differs⟩
    exact ⟨differ, _, ⟨⟨group, member, rfl⟩,
      one_lt_length differ (stays kept inside) (stays kept' inside')⟩,
      stays kept inside, stays kept' inside'⟩

-- When a file is removed that has no other name, no file loses one.
theorem together_erase_apart (apart : ∀ other, ¬tree.Together place other) (one other : Place) :
    (tree.erase place).Together one other ↔ tree.Together one other := by
  rw [together_erase]
  refine ⟨fun facts => facts.2.2, fun together => ⟨?_, ?_, together⟩⟩
  · rintro rfl
    exact apart other together
  · rintro rfl
    obtain ⟨differ, group, member, inside, inside'⟩ := together
    exact apart one ⟨differ.symm, group, member, inside', inside⟩

theorem entry?_foldl_put (places : List Place) :
    entry? (places.foldl (fun tree place => tree.put place entry) tree) other =
      if other ∈ places ∧ other ≠ [] then some entry else tree.entry? other := by
  induction places generalizing tree with
  | nil => simp
  | cons first rest ih =>
      rw [List.foldl_cons, ih, entry?_put]
      by_cases inRest : other ∈ rest <;> by_cases equal : other = first <;>
        by_cases root : other = [] <;> simp_all

theorem entry?_store {content : Bytes} {mode : Nat} :
    entry? (tree.store place content mode) other =
      if other ∈ tree.twins place ∧ other ≠ [] then some (.file content mode)
      else tree.entry? other := entry?_foldl_put _

theorem foldl_put_frame (places : List Place) :
    (places.foldl (fun tree place => tree.put place entry) tree).cwd = tree.cwd ∧
      (places.foldl (fun tree place => tree.put place entry) tree).shared = tree.shared := by
  induction places generalizing tree with
  | nil => exact ⟨rfl, rfl⟩
  | cons first rest ih => exact ih

@[simp] theorem store_cwd {content : Bytes} {mode : Nat} :
    (tree.store place content mode).cwd = tree.cwd := (foldl_put_frame _).1
@[simp] theorem store_shared {content : Bytes} {mode : Nat} :
    (tree.store place content mode).shared = tree.shared := (foldl_put_frame _).2

theorem store_alone {content : Bytes} {mode : Nat} (alone : tree.Alone place) :
    tree.store place content mode = tree.put place (.file content mode) := by
  rw [store, twins_alone alone]
  rfl

end Acceptance.FileTree
