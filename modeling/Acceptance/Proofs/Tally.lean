import Mathlib.Data.List.Nodup
import Acceptance.Summary

namespace Acceptance.Summary

-- What a summary says about the records it was built from. Every record counts once, and where no
-- two records have the same name, names can be looked up.

variable {total : Nat} {records : List Record} {record : Record} {outcome other : Outcome}

theorem namesOf_append (outcome : Outcome) (earlier later : List Record) :
    namesOf outcome (earlier ++ later) = namesOf outcome earlier ++ namesOf outcome later := by
  simp [namesOf]

theorem add_ofRecords (total : Nat) (records : List Record) (record : Record) :
    (ofRecords total records).add record = ofRecords total (records ++ [record]) := by
  unfold ofRecords
  simp only [namesOf_append]
  cases outcome : record.outcome <;> simp [add, namesOf, outcome]

theorem foldl_add (total : Nat) (earlier later : List Record) :
    later.foldl add (ofRecords total earlier) = ofRecords total (earlier ++ later) := by
  induction later generalizing earlier with
  | nil => rw [List.foldl_nil, List.append_nil]
  | cons record later ih =>
      rw [List.foldl_cons, add_ofRecords, ih, List.append_assoc, List.singleton_append]

theorem recorded_ofRecords (total : Nat) (records : List Record) :
    (ofRecords total records).recorded = records.length := by
  unfold recorded ofRecords namesOf
  simp only [List.length_map]
  induction records with
  | nil => rfl
  | cons record records ih => cases outcome : record.outcome <;> simp [outcome] <;> omega

theorem namesOf_nodup (once : (records.map (·.name)).Nodup) : (namesOf outcome records).Nodup :=
  once.sublist (List.filter_sublist.map _)

theorem namesOf_disjoint (once : (records.map (·.name)).Nodup) (differ : outcome ≠ other) :
    (namesOf outcome records).Disjoint (namesOf other records) := by
  intro name member member'
  simp only [namesOf, List.mem_map, List.mem_filter, beq_iff_eq] at member member'
  obtain ⟨one, ⟨inside, rfl⟩, rfl⟩ := member
  obtain ⟨two, ⟨inside', rfl⟩, same⟩ := member'
  exact differ (congrArg Record.outcome (List.inj_on_of_nodup_map once inside inside' same.symm))

theorem outcomeOf_own (once : (records.map (·.name)).Nodup) (member : record ∈ records) :
    (ofRecords total records).outcomeOf? record.name = some record.outcome := by
  unfold outcomeOf? ofRecords
  cases found : records.find? (·.name == record.name) with
  | none => simpa using List.find?_eq_none.mp found record member
  | some first =>
      have same : first.name = record.name := by simpa using List.find?_some found
      have inside := List.mem_of_find?_eq_some found
      rw [Option.map_some, List.inj_on_of_nodup_map once inside member same]

end Acceptance.Summary

namespace Acceptance

def Record.told (record : Record) : String × Outcome := (record.name, record.outcome)

structure Summary.Reordered (one other : Summary) : Prop where
  total : other.total = one.total
  passed : other.passed = one.passed
  compileFailed : other.compileFailed.Perm one.compileFailed
  runtimeMismatch : other.runtimeMismatch.Perm one.runtimeMismatch
  records : (other.records.map (·.told)).Perm (one.records.map (·.told))

theorem Summary.namesOf_told (outcome : Outcome) (records : List Record) :
    namesOf outcome records = ((records.map (·.told)).filter (·.2 == outcome)).map (·.1) := by
  simp only [namesOf, List.filter_map, List.map_map]
  rfl

theorem Summary.Reordered.of_records {total : Nat} {one other : List Record}
    (permuted : (other.map (·.told)).Perm (one.map (·.told))) :
    (ofRecords total one).Reordered (ofRecords total other) := by
  have names : ∀ outcome, (namesOf outcome other).Perm (namesOf outcome one) := by
    intro outcome
    rw [namesOf_told, namesOf_told]
    exact (permuted.filter _).map _
  exact ⟨rfl, (names .passed).length_eq, names .compileFailed, names .runtimeMismatch, permuted⟩

end Acceptance
