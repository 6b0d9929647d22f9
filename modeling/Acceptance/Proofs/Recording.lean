import Acceptance.Proofs.Tally

namespace Acceptance.Summary

variable {total : Nat} {records : List Record}

-- The summary that is reached by recording one after the other, in place or in a new value.
def recording (total : Nat) (records : List Record) : Summary := records.foldl add (empty total)

theorem recording_eq (total : Nat) (records : List Record) :
    recording total records = ofRecords total records := foldl_add total [] records

def First (records : List Record) (record : Record) : Prop :=
  ∃ earlier later, records = earlier ++ record :: later ∧
    ∀ one ∈ earlier, one.name ≠ record.name

theorem outcomeOf_eq_some {name : String} {outcome : Outcome} :
    (ofRecords total records).outcomeOf? name = some outcome ↔
      ∃ record, First records record ∧ record.name = name ∧ record.outcome = outcome := by
  unfold outcomeOf? ofRecords
  simp only [Option.map_eq_some_iff, List.find?_eq_some_iff_append, beq_iff_eq, Bool.not_eq_true',
    beq_eq_false_iff_ne]
  constructor
  · rintro ⟨record, ⟨rfl, earlier, later, split, fresh⟩, rfl⟩
    exact ⟨record, ⟨earlier, later, split, fresh⟩, rfl, rfl⟩
  · rintro ⟨record, ⟨earlier, later, split, fresh⟩, rfl, rfl⟩
    exact ⟨record, ⟨rfl, earlier, later, split, fresh⟩, rfl⟩

theorem outcomeOf_eq_none {name : String} :
    (ofRecords total records).outcomeOf? name = none ↔ ∀ record ∈ records, record.name ≠ name := by
  simp [outcomeOf?, ofRecords]

-- A count that misses a record cannot reach the total unless there are too many records.
theorem allPassed_iff {summary : Summary} (bounded : summary.recorded ≤ summary.total) :
    summary.allPassed = true ↔ summary.isComplete = true ∧ summary.compileFailed = [] ∧
      summary.runtimeMismatch = [] := by
  unfold allPassed isComplete
  unfold recorded at bounded ⊢
  rw [beq_iff_eq, beq_iff_eq, ← List.length_eq_zero_iff, ← List.length_eq_zero_iff]
  omega

example : (recording 1 [⟨"a", .passed, {}⟩, ⟨"b", .compileFailed, {}⟩]).allPassed = true := by
  decide

-- What a summary of so many cases says about the records it was given.
structure Reflects (summary : Summary) (cases : Nat) (given : List Record) : Prop where
  total : summary.total = cases
  records : summary.records = given
  passed : summary.passed = given.countP (·.outcome = .passed)
  compileFailed : summary.compileFailed = namesOf .compileFailed given
  runtimeMismatch : summary.runtimeMismatch = namesOf .runtimeMismatch given
  recorded : summary.recorded = given.length
  known : ∀ name outcome, summary.outcomeOf? name = some outcome ↔
    ∃ record, First given record ∧ record.name = name ∧ record.outcome = outcome
  unknown : ∀ name, summary.outcomeOf? name = none ↔ ∀ record ∈ given, record.name ≠ name
  allPassed : summary.recorded ≤ summary.total →
    (summary.allPassed = true ↔ summary.isComplete = true ∧ summary.compileFailed = [] ∧
      summary.runtimeMismatch = [])

theorem ofRecords_reflects (total : Nat) (records : List Record) :
    (ofRecords total records).Reflects total records where
  total := rfl
  records := rfl
  passed := by
    rw [List.countP_eq_length_filter]
    exact List.length_map _
  compileFailed := rfl
  runtimeMismatch := rfl
  recorded := recorded_ofRecords total records
  known _ _ := outcomeOf_eq_some
  unknown _ := outcomeOf_eq_none
  allPassed := allPassed_iff

theorem Reordered.recorded {one other : Summary} (same : one.Reordered other) :
    other.recorded = one.recorded := by
  unfold Summary.recorded
  rw [same.passed, same.compileFailed.length_eq, same.runtimeMismatch.length_eq]

theorem Reordered.isComplete {one other : Summary} (same : one.Reordered other) :
    other.isComplete = one.isComplete := by
  unfold Summary.isComplete
  rw [same.recorded, same.total]

theorem Reordered.allPassed {one other : Summary} (same : one.Reordered other) :
    other.allPassed = one.allPassed := by
  unfold Summary.allPassed
  rw [same.passed, same.total]

theorem summary_reflects_records (total : Nat) (records : List Record) :
    recording total records = ofRecords total records ∧
      (recording total records).Reflects total records ∧
      ∀ other, other.Perm records →
        (recording total records).Reordered (recording total other) ∧
        (recording total other).recorded = (recording total records).recorded ∧
        (recording total other).isComplete = (recording total records).isComplete ∧
        (recording total other).allPassed = (recording total records).allPassed := by
  simp only [recording_eq]
  refine ⟨trivial, ofRecords_reflects total records, fun other permuted => ?_⟩
  have same : (ofRecords total records).Reordered (ofRecords total other) :=
    .of_records (permuted.map _)
  exact ⟨same, same.recorded, same.isComplete, same.allPassed⟩

theorem summary_reflects_records_overfull :
    let records : List Record :=
      [⟨"a", .runtimeMismatch, {}⟩, ⟨"b", .compileFailed, {}⟩, ⟨"a", .passed, {}⟩]
    let reached := recording 2 records
    reached.outcomeOf? "a" = some .runtimeMismatch ∧ reached.recorded = 3 ∧
      reached.Reflects 2 records ∧ reached.Reordered (recording 2 records.reverse) := by
  intro records reached
  obtain ⟨_, reflects, reordered⟩ := summary_reflects_records 2 records
  exact ⟨by decide, reflects.recorded, reflects, (reordered _ records.reverse_perm).1⟩

end Acceptance.Summary
