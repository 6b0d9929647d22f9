import Acceptance.Proofs.JsonReading
import Acceptance.Report.Document
import Mathlib.Data.List.Forall2

namespace Acceptance

namespace Decimal

-- The JSON report read back. Its text is a JSON document that says what the summary holds, so
-- that summaries which differ in more than their durations have different texts.

theorem zeros_digit (count : Nat) : ∀ c ∈ zeros count, c.isDigit := by
  intro c member
  rw [List.eq_of_mem_replicate member]
  decide

theorem Numeral.digits_digit (numeral : Numeral) : ∀ c ∈ numeral.digits, c.isDigit :=
  Toml.toDigits_digit

theorem Numeral.digits_ne_nil (numeral : Numeral) : numeral.digits ≠ [] := Nat.toDigits_ne_nil

def Numeral.Settled (numeral : Numeral) : Prop := numeral.coefficient = 0 → numeral = ⟨0, 0⟩

theorem Numeral.stripZeros_ne_zero {numeral : Numeral} (positive : numeral.coefficient ≠ 0)
    (fuel : Nat) : (stripZeros fuel numeral).coefficient ≠ 0 := by
  induction fuel generalizing numeral with
  | zero => exact positive
  | succ fuel ih =>
      rw [stripZeros, if_neg positive]
      split
      · rename_i ten
        exact ih (by simp only; omega)
      · exact positive

theorem Numeral.stripZeros_settled (fuel : Nat) (numeral : Numeral) :
    (stripZeros (fuel + 1) numeral).Settled := by
  by_cases zero : numeral.coefficient = 0
  · intro _
    rw [stripZeros, if_pos zero]
  · exact fun stripped => absurd stripped (stripZeros_ne_zero zero (fuel + 1))

theorem Binary64.shortest_settled (tie : Tie) (number : Binary64) :
    (number.shortest tie).Settled := by
  unfold shortest
  split
  · exact fun _ => rfl
  · exact Numeral.stripZeros_settled 399 _

end Decimal

namespace Json

theorem integer?_broken {whole tail : List Char} {c : Char} (digits : ∀ c ∈ whole, c.isDigit)
    (proper : isWhole whole) (member : c ∈ tail) (other : c.isDigit = false) :
    integer? (whole ++ tail) = none := by
  cases whole with
  | nil => simp [isWhole] at proper
  | cons d whole =>
      have mixed : ¬isDigits (d :: whole ++ tail) := by
        intro all
        rw [isDigits, Bool.and_eq_true, List.all_eq_true] at all
        have digit := all.2 c (List.mem_append_right _ member)
        rw [other] at digit
        cases digit
      rw [List.cons_append] at mixed ⊢
      rw [integer?_digit (digits d List.mem_cons_self), if_neg mixed]

theorem isDecimal_marked {whole tail : List Char} {mark : Char} (digits : ∀ c ∈ whole, c.isDigit)
    (proper : isWhole whole) (other : mark.isDigit = false) (fraction : isFraction (mark :: tail))
    (numeric : ∀ c ∈ mark :: tail, isNumeric c) : IsDecimal (whole ++ mark :: tail) where
  number := by rw [isNumber_whole digits proper (by simpa using other), fraction]
  numeric := by
    intro c member
    rcases List.mem_append.mp member with front | back
    · exact digit_numeric (digits c front)
    · exact numeric c back
  broken := integer?_broken digits proper List.mem_cons_self other

theorem isDecimal_point {whole fraction : List Char} (digits : ∀ c ∈ whole, c.isDigit)
    (proper : isWhole whole) (more : ∀ c ∈ fraction, c.isDigit) (filled : fraction ≠ []) :
    IsDecimal (whole ++ '.' :: fraction) := by
  have none : ∀ c ∈ ([] : List Char).head?, c.isDigit = false := by simp
  have point := isFraction_point more filled none
  rw [List.append_nil] at point
  refine isDecimal_marked digits proper (by decide) (by rw [point]; rfl) ?_
  rw [List.forall_mem_cons]
  exact ⟨by decide, fun c member => digit_numeric (more c member)⟩

theorem isWhole_single (digit : Char) : isWhole [digit] := by
  by_cases zero : digit = '0' <;> simp [isWhole, zero]

theorem isExponent_signed {sign : Char} (signed : sign = '+' ∨ sign = '-') (n : Nat) :
    isExponent ('e' :: sign :: Nat.toDigits 10 n) ∧
      ∀ c ∈ 'e' :: sign :: Nat.toDigits 10 n, isNumeric c := by
  have each := Toml.toDigits_digit (n := n)
  have digits : isDigits (Nat.toDigits 10 n) := by simpa [isDigits, Nat.toDigits_ne_nil] using each
  have numeric : ∀ c ∈ Nat.toDigits 10 n, isNumeric c := fun c member =>
    digit_numeric (each c member)
  rw [List.forall_mem_cons, List.forall_mem_cons]
  rcases signed with rfl | rfl
  · exact ⟨by simp [isExponent, digits], by decide, by decide, numeric⟩
  · exact ⟨by simp [isExponent, digits], by decide, by decide, numeric⟩

theorem isDecimal_scientific (numeral : Decimal.Numeral) : IsDecimal numeral.scientific := by
  obtain ⟨first, more, form⟩ := List.exists_cons_of_ne_nil numeral.digits_ne_nil
  have digits := numeral.digits_digit
  rw [form, List.forall_mem_cons] at digits
  obtain ⟨sign, signed, chosen⟩ : ∃ sign, (sign = '+' ∨ sign = '-') ∧
      (if numeral.magnitude < 0 then '-' else '+') = sign := by
    split <;> simp
  obtain ⟨proper, numeric⟩ := isExponent_signed signed numeral.magnitude.natAbs
  have single : ∀ c ∈ [first], c.isDigit := by simpa using digits.1
  unfold Decimal.Numeral.scientific
  simp only [form, chosen]
  cases more with
  | nil => exact isDecimal_marked single (isWhole_single first) (by decide) proper numeric
  | cons second more =>
      have ends : ∀ c ∈ ('e' :: sign :: Nat.toDigits 10 numeral.magnitude.natAbs).head?,
          c.isDigit = false := by simp
      have fraction := isFraction_point digits.2 (by simp) ends
      rw [proper] at fraction
      have inside : ∀ c ∈ '.' :: ((second :: more) ++
          'e' :: sign :: Nat.toDigits 10 numeral.magnitude.natAbs), isNumeric c := by
        rw [List.forall_mem_cons, List.forall_mem_append]
        exact ⟨by decide, fun c member => digit_numeric (digits.2 c member), numeric⟩
      have marked := isDecimal_marked single (isWhole_single first) (by decide) fraction inside
      simpa using marked

theorem isWhole_head {whole : List Char} (filled : whole ≠ []) (head : whole.head? ≠ some '0') :
    isWhole whole := by
  simp [isWhole, filled, head]

theorem isDecimal_positional {numeral : Decimal.Numeral} (settled : numeral.Settled) :
    IsDecimal numeral.positional := by
  have digits := numeral.digits_digit
  have filled := numeral.digits_ne_nil
  have head : numeral.coefficient ≠ 0 → numeral.digits.head? ≠ some '0' := fun positive =>
    Toml.toDigits_head (Nat.pos_of_ne_zero positive)
  unfold Decimal.Numeral.positional
  simp only
  split
  · have whole : isWhole (numeral.digits ++ Decimal.zeros numeral.exponent.toNat) := by
      by_cases zero : numeral.coefficient = 0
      · rw [settled zero]
        decide
      · refine isWhole_head (by simp [filled]) ?_
        rw [List.head?_append_of_ne_nil _ filled]
        exact head zero
    refine isDecimal_point ?_ whole (List.forall_mem_singleton.mpr rfl) (by decide)
    exact List.forall_mem_append.mpr ⟨digits, Decimal.zeros_digit _⟩
  · rename_i negative
    have positive : numeral.coefficient ≠ 0 := by
      intro zero
      exact negative (Int.le_of_eq (congrArg Decimal.Numeral.exponent (settled zero)).symm)
    split
    · rename_i inside
      have front : numeral.digits.length - (-numeral.exponent).toNat ≠ 0 := by omega
      have back : numeral.digits.length - (-numeral.exponent).toNat < numeral.digits.length := by
        omega
      refine isDecimal_point (fun c member => digits c (List.mem_of_mem_take member))
        (isWhole_head ?_ ?_) (fun c member => digits c (List.mem_of_mem_drop member)) ?_
      · simp [filled, front]
      · rw [List.head?_take, if_neg front]
        exact head positive
      · simpa using back
    · have fraction : ∀ c ∈ Decimal.zeros ((-numeral.exponent).toNat - numeral.digits.length) ++
          numeral.digits, c.isDigit := List.forall_mem_append.mpr ⟨Decimal.zeros_digit _, digits⟩
      have zero : ∀ c ∈ ['0'], c.isDigit := List.forall_mem_singleton.mpr rfl
      exact isDecimal_point zero (by decide) fraction (by simp [filled])

theorem isDecimal_shortest (duration : Duration) : IsDecimal duration.shortest := by
  unfold Duration.shortest
  simp only
  split
  · exact isDecimal_positional (Decimal.Binary64.shortest_settled _ _)
  · exact isDecimal_scientific _

end Json

namespace Report

open Json (Datum)

def recordDatum (record : Record) : Datum :=
  .object [("name", .text record.name), ("outcome", .text record.outcome.name),
    ("duration", .decimal record.duration.shortest)]

theorem reads_record (record : Record) : Json.Reads (recordJson record) (recordDatum record) := by
  have each : ∀ field ∈ [("name", Json.text record.name, Datum.text record.name),
      ("outcome", .text record.outcome.name, .text record.outcome.name),
      ("duration", .decimal record.duration.shortest, .decimal record.duration.shortest)],
      Json.Reads field.2.1 field.2.2 := by
    simp only [List.forall_mem_cons, List.not_mem_nil, false_implies, implies_true, and_true]
    exact ⟨Json.reads_text _, Json.reads_text _,
      Json.reads_decimal (Json.isDecimal_shortest record.duration)⟩
  have fields := Json.reads_object each
  simp only [List.map_cons, List.map_nil] at fields
  exact fields

def summaryDatum (summary : Summary) : Datum :=
  .object [("total", .integer summary.total), ("passed", .integer summary.passed),
    ("compile_failed", .array (summary.compileFailed.map .text)),
    ("runtime_mismatch", .array (summary.runtimeMismatch.map .text)),
    ("records", .array (summary.records.map recordDatum))]

theorem reads_summary (summary : Summary) :
    Json.Reads (summaryJson summary) (summaryDatum summary) := by
  have failed := Json.reads_array (fun name (_ : name ∈ summary.compileFailed) =>
    Json.reads_text name)
  have mismatched := Json.reads_array (fun name (_ : name ∈ summary.runtimeMismatch) =>
    Json.reads_text name)
  have records := Json.reads_array (fun record (_ : record ∈ summary.records) =>
    reads_record record)
  have each : ∀ field ∈ [("total", Json.natural summary.total, Datum.integer summary.total),
      ("passed", .natural summary.passed, .integer summary.passed),
      ("compile_failed", .array (summary.compileFailed.map .text),
        .array (summary.compileFailed.map .text)),
      ("runtime_mismatch", .array (summary.runtimeMismatch.map .text),
        .array (summary.runtimeMismatch.map .text)),
      ("records", .array (summary.records.map recordJson),
        .array (summary.records.map recordDatum))], Json.Reads field.2.1 field.2.2 := by
    simp only [List.forall_mem_cons, List.not_mem_nil, false_implies, implies_true, and_true]
    exact ⟨Json.reads_natural _, Json.reads_natural _, failed, mismatched, records⟩
  have fields := Json.reads_object each
  simp only [List.map_cons, List.map_nil] at fields
  exact fields

theorem read_json (summary : Summary) :
    Json.read (json summary).toList = some (summaryDatum summary) :=
  Json.read_render (reads_summary summary)

theorem name_inj {one other : Outcome} (same : one.name = other.name) : one = other := by
  cases one <;> cases other <;> first | rfl | (exact absurd same (by decide))

theorem recordDatum_told {one other : Record} (same : recordDatum one = recordDatum other) :
    (one.name, one.outcome) = (other.name, other.outcome) := by
  simp only [recordDatum, Datum.object.injEq, List.cons.injEq, Prod.mk.injEq, Datum.text.injEq,
    true_and] at same
  rw [same.1, name_inj same.2.1]

theorem records_told {left right : List Record}
    (same : left.map recordDatum = right.map recordDatum) :
    (left.map fun record => (record.name, record.outcome)) =
      right.map fun record => (record.name, record.outcome) := by
  rw [← List.forall₂_eq_eq_eq, List.forall₂_map_left_iff, List.forall₂_map_right_iff] at same ⊢
  exact same.imp fun _ _ => recordDatum_told

theorem texts_inj {left right : List String}
    (same : left.map Datum.text = right.map Datum.text) : left = right :=
  List.map_inj_right (fun _ _ => Datum.text.inj) |>.mp same

def Told (record : Record) (datum : Datum) : Prop :=
  ∃ duration, Json.isNumber duration ∧
    datum = .object [("name", .text record.name), ("outcome", .text record.outcome.name),
      ("duration", .decimal duration)]

-- The text of the JSON report says what the summary holds, and so tells summaries apart.
theorem json_reads_back (summary : Summary) :
    (∃ records : List Datum, List.Forall₂ Told summary.records records ∧
      Json.read (json summary).toList =
        some (.object [("total", .integer summary.total), ("passed", .integer summary.passed),
          ("compile_failed", .array (summary.compileFailed.map .text)),
          ("runtime_mismatch", .array (summary.runtimeMismatch.map .text)),
          ("records", .array records)])) ∧
      ∀ other : Summary, json other = json summary →
        other.total = summary.total ∧ other.passed = summary.passed ∧
          other.compileFailed = summary.compileFailed ∧
          other.runtimeMismatch = summary.runtimeMismatch ∧
          other.records.map (fun record => (record.name, record.outcome)) =
            summary.records.map fun record => (record.name, record.outcome) := by
  refine ⟨⟨summary.records.map recordDatum, ?_, read_json summary⟩, fun other same => ?_⟩
  · rw [List.forall₂_map_right_iff]
    exact List.forall₂_same.mpr fun record _ =>
      ⟨record.duration.shortest, (Json.isDecimal_shortest record.duration).number, rfl⟩
  · have data : summaryDatum other = summaryDatum summary := by
      rw [← Option.some.injEq, ← read_json, ← read_json, same]
    simp only [summaryDatum, Datum.object.injEq, List.cons.injEq, Prod.mk.injEq, Datum.array.injEq,
      Datum.integer.injEq, Int.natCast_inj, true_and, and_true] at data
    obtain ⟨total, passed, failed, mismatched, records⟩ := data
    exact ⟨total, passed, texts_inj failed, texts_inj mismatched, records_told records⟩

def awkwardSummary (duration : Duration) : Summary where
  total := 3
  passed := 1
  compileFailed := ["\"\\/\n\x01"]
  records := [⟨"\"\\/\n\x01", .compileFailed, duration⟩, ⟨"é😀", .passed, {}⟩]

theorem json_reads_back_awkward :
    json (awkwardSummary ⟨0, 1000000000⟩) = json (awkwardSummary ⟨1, 0⟩) ∧
      (awkwardSummary ⟨0, 1000000000⟩).records.map (fun record => (record.name, record.outcome)) =
        (awkwardSummary ⟨1, 0⟩).records.map fun record => (record.name, record.outcome) := by
  have digits : Duration.shortest ⟨0, 1000000000⟩ = Duration.shortest ⟨1, 0⟩ := by decide +kernel
  have same : json (awkwardSummary ⟨0, 1000000000⟩) = json (awkwardSummary ⟨1, 0⟩) := by
    simp only [json, summaryJson, awkwardSummary, List.map_cons, recordJson, digits]
  obtain ⟨_, apart⟩ := json_reads_back (awkwardSummary ⟨1, 0⟩)
  exact ⟨same, (apart _ same).2.2.2.2⟩

end Report
end Acceptance
