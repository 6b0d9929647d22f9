import Mathlib.Data.List.Forall2
import Mathlib.Data.List.TakeWhile
import Acceptance.Proofs.DefaultCommand

namespace Acceptance.Cli

-- Options as they are written. An option can be written out or given by its letter, and its value
-- attached or in an argument of its own.

variable {level : Level} {found : Matches} {name : Name} {value : String} {c : Char}
  {rest : List String} {entries : List (Name × String)} {pieces : List (List String)}

-- An option with its value, and the arguments that say so. A value in an argument of its own must
-- not begin like an option.
inductive Written : Name × String → List String → Prop where
  | attached {name : Name} {value : String} (valued : name.operand?.isSome) :
      Written (name, value) ["--" ++ name.long ++ "=" ++ value]
  | separate {name : Name} {value : String} (valued : name.operand?.isSome)
      (plain : value.toList.head? ≠ some '-') :
      Written (name, value) ["--" ++ name.long, value]
  | letter {name : Name} {value : String} {c : Char} (valued : name.operand?.isSome)
      (short : name.short? = some c) (plain : value.toList.head? ≠ some '-') :
      Written (name, value) [String.ofList ['-', c], value]
  | flag {name : Name} (raised : name ∈ [.verbose, .nonInteractive, .force]) :
      Written (name, "true") ["--" ++ name.long]
  | flagLetter {name : Name} {c : Char} (raised : name ∈ [.verbose, .nonInteractive, .force])
      (short : name.short? = some c) : Written (name, "true") [String.ofList ['-', c]]

theorem Name.long_spelled (name : Name) :
    (∃ c text, name.long.toList = c :: text) ∧ ∀ c ∈ name.long.toList, (c != '=') = true := by
  cases name <;> simp [long]

theorem Name.short_letter (short : name.short? = some c) : c ≠ '-' := by
  cases name <;> cases short <;> decide

theorem longName_bare (name : Name) :
    longName name.long.toList = name.long ∧ longValue? name.long.toList = none := by
  have spelled := name.long_spelled.2
  rw [longName, longValue?, List.takeWhile_eq_self_iff.mpr spelled,
    List.dropWhile_eq_nil_iff.mpr spelled, String.ofList_toList]
  exact ⟨rfl, rfl⟩

theorem longName_attached (name : Name) (value : String) :
    longName (name.long.toList ++ '=' :: value.toList) = name.long ∧
      longValue? (name.long.toList ++ '=' :: value.toList) = some value := by
  have spelled := name.long_spelled.2
  rw [longName, longValue?, List.takeWhile_append_of_pos spelled,
    List.dropWhile_append_of_pos spelled]
  simp

theorem isWord_of_plain (plain : value.toList.head? ≠ some '-') : IsWord value := by
  intro c text form
  rw [form] at plain
  exact plain rfl

section Reading

variable (known : name ∈ level.options)

include known

theorem readArguments_attached (valued : name.operand?.isSome) (value : String) :
    readArguments level false found (("--" ++ name.long ++ "=" ++ value) :: rest) =
      begin found name (some value) >>= fun found => readArguments level false found rest := by
  obtain ⟨⟨c, text, form⟩, _⟩ := name.long_spelled
  have whole : ("--" ++ name.long ++ "=" ++ value).toList =
      '-' :: '-' :: c :: (text ++ '=' :: value.toList) := by
    simp [form]
  obtain ⟨own, after⟩ := longName_attached name value
  rw [form, List.cons_append] at own after
  rw [readArguments_long whole, readLong_eq, own, Level.ofLong?_eq_some.mpr ⟨known, rfl⟩, after]
  simp only [valued, if_true]

theorem readArguments_bare :
    readArguments level false found (("--" ++ name.long) :: rest) =
      (if name.operand?.isSome then begin found name none else raise level found name) >>=
        fun found => readArguments level false found rest := by
  obtain ⟨⟨c, text, form⟩, _⟩ := name.long_spelled
  have whole : ("--" ++ name.long).toList = '-' :: '-' :: c :: text := by
    simp [form]
  obtain ⟨own, after⟩ := longName_bare name
  rw [form] at own after
  rw [readArguments_long whole, readLong_eq, own, Level.ofLong?_eq_some.mpr ⟨known, rfl⟩, after]

theorem readArguments_letter (short : name.short? = some c) :
    readArguments level false found (String.ofList ['-', c] :: rest) =
      (if name.operand?.isSome then begin found name none else raise level found name) >>=
        fun found => readArguments level false found rest := by
  rw [readArguments_letters (Name.short_letter short) String.toList_ofList, readShort_cons,
    Level.ofShort?_eq_some.mpr ⟨known, short⟩]
  dsimp only
  by_cases valued : name.operand?.isSome
  · rw [if_pos valued, if_pos valued]
    rfl
  · rw [if_neg valued, if_neg valued]
    cases raise level found name <;> rfl

end Reading

def Matches.takeAll (found : Matches) (entries : List (Name × String)) :
    Except UsageError Matches :=
  entries.foldlM (fun found entry => found.take entry.1 entry.2) found

theorem take_eq {taken : Matches} (took : found.take name value = .ok taken) :
    taken = { found with taken := found.taken ++ [(name, value)] } := by
  unfold Matches.take at took
  split at took
  · cases took
  · cases checked : checkValue name value with
    | error cause => simp [checked, bind, Except.bind] at took
    | ok fine =>
        simp only [checked, bind, Except.bind, pure, Except.pure] at took
        cases took
        rfl

theorem take_pending {taken : Matches} (took : found.take name value = .ok taken) :
    taken.pending = found.pending := by
  rw [take_eq took]

theorem settle_pending {settled : Matches} (done : found.settle = .ok settled) :
    settled.pending = none := by
  unfold Matches.settle at done
  split at done
  · cases done
    assumption
  · cases done
  · exact take_pending done

theorem settle_idle (idle : found.pending = none) : found.settle = .ok found := by
  rw [Matches.settle, idle]

theorem settle_held (idle : found.pending = none) :
    ({ found with pending := some (name, some value) } : Matches).settle =
      found.take name value := by
  rw [Matches.settle]
  obtain ⟨taken, pending⟩ := found
  cases idle
  rfl

theorem raise_flag (level : Level) (found : Matches)
    (raised : name ∈ [.verbose, .nonInteractive, .force]) :
    name.operand?.isSome = false ∧
      raise level found name =
        usage found.settle >>= fun found => usage (found.take name "true") := by
  simp only [List.mem_cons, List.not_mem_nil, or_false] at raised
  rcases raised with rfl | rfl | rfl <;> exact ⟨rfl, rfl⟩

section Options

variable (ahead : Except UsageError Matches → Except Halt Reading)
  (failing : ∀ cause, ahead (.error cause) = .error (.usage cause))
  (reads : ∀ found, readArguments level false found rest = ahead found.settle)

include failing reads

theorem read_taken (found : Matches) (name : Name) (value : String) :
    ((usage found.settle >>= fun found => usage (found.take name value)) >>=
        fun found => readArguments level false found rest) =
      ahead (found.settle >>= fun found => found.take name value) := by
  cases settled : found.settle with
  | error cause => exact (failing cause).symm
  | ok found =>
      show (usage (found.take name value) >>= fun found => readArguments level false found rest) =
        ahead (found.take name value)
      cases took : found.take name value with
      | error cause => exact (failing cause).symm
      | ok taken =>
          show readArguments level false taken rest = ahead (.ok taken)
          rw [reads, settle_idle ((take_pending took).trans (settle_pending settled))]

theorem read_held (found : Matches) (name : Name) {value : String} (word : IsWord value) :
    (begin found name none >>= fun found => readArguments level false found (value :: rest)) =
      ahead (found.settle >>= fun found => found.take name value) := by
  unfold begin
  cases settled : found.settle with
  | error cause => exact (failing cause).symm
  | ok found =>
      show readArguments level false { found with pending := some (name, none) } (value :: rest) =
        ahead (found.take name value)
      rw [readArguments_value rfl word, reads]
      exact congrArg ahead (settle_held (settle_pending settled))

theorem readArguments_option {entry : Name × String} {piece : List String}
    (form : Written entry piece) (known : entry.1 ∈ level.options) (found : Matches) :
    readArguments level false found (piece ++ rest) =
      ahead (found.settle >>= fun found => found.take entry.1 entry.2) := by
  cases form with
  | @attached name value valued =>
      rw [List.cons_append, List.nil_append, readArguments_attached known valued]
      exact read_taken ahead failing reads found name value
  | @separate name value valued plain =>
      rw [List.cons_append, List.cons_append, List.nil_append, readArguments_bare known,
        if_pos valued]
      exact read_held ahead failing reads found name (isWord_of_plain plain)
  | @letter name value c valued short plain =>
      rw [List.cons_append, List.cons_append, List.nil_append, readArguments_letter known short,
        if_pos valued]
      exact read_held ahead failing reads found name (isWord_of_plain plain)
  | @flag name raised =>
      obtain ⟨bare, taken⟩ := raise_flag level found raised
      rw [List.cons_append, List.nil_append, readArguments_bare known, bare,
        if_neg Bool.false_ne_true, taken]
      exact read_taken ahead failing reads found name "true"
  | @flagLetter name c raised short =>
      obtain ⟨bare, taken⟩ := raise_flag level found raised
      rw [List.cons_append, List.nil_append, readArguments_letter known short, bare,
        if_neg Bool.false_ne_true, taken]
      exact read_taken ahead failing reads found name "true"

end Options

-- All options are taken one after the other, whether their values are attached or not.
theorem readArguments_written (written : List.Forall₂ Written entries pieces)
    (known : ∀ entry ∈ entries, entry.1 ∈ level.options) (found : Matches) :
    readArguments level false found pieces.flatten =
      (usage (found.settle >>= fun found => found.takeAll entries)).map .finished := by
  induction written generalizing found with
  | nil =>
      rw [List.flatten_nil, readArguments]
      cases found.settle <;> rfl
  | @cons entry piece entries pieces form written ih =>
      have later := ih fun entry member => known entry (List.mem_cons_of_mem _ member)
      rw [List.flatten_cons, readArguments_option
        (fun settled => (usage (settled >>= fun found => found.takeAll entries)).map .finished)
        (fun _ => rfl) later form (known entry List.mem_cons_self) found, bind_assoc]
      rfl

def valuesOf (entries : List (Name × String)) (name : Name) : List String :=
  (entries.filter (·.1 == name)).map (·.2)

-- No option that must not be repeated is there twice.
def Single (entries : List (Name × String)) : Prop :=
  ∀ name, name.repeats = false → (valuesOf entries name).length ≤ 1

theorem valuesOf_append (first second : List (Name × String)) (name : Name) :
    valuesOf (first ++ second) name = valuesOf first name ++ valuesOf second name := by
  simp [valuesOf]

theorem valuesOf_self (name : Name) (value : String) : valuesOf [(name, value)] name = [value] := by
  simp [valuesOf]

theorem has_iff : found.has name = true ↔ valuesOf found.taken name ≠ [] := by
  simp [Matches.has, valuesOf, List.filter_eq_nil_iff]

theorem value?_eq (found : Matches) (name : Name) :
    found.value? name = (valuesOf found.taken name).head? := by
  unfold Matches.value? valuesOf
  induction found.taken with
  | nil => rfl
  | cons entry taken ih =>
      rw [List.lookup_cons, List.filter_cons]
      by_cases here : entry.1 = name
      · simp [here]
      · simp [here, beq_false_of_ne (Ne.symm here), ih]

theorem Single.of_append {first second : List (Name × String)}
    (single : Single (first ++ second)) : Single first := by
  intro name once
  have bound := single name once
  rw [valuesOf_append, List.length_append] at bound
  omega

-- One more option may follow unless it is there already.
theorem single_concat_iff :
    Single (entries ++ [(name, value)]) ↔
      Single entries ∧ (valuesOf entries name ≠ [] → name.repeats = true) := by
  constructor
  · intro single
    refine ⟨single.of_append, fun there => ?_⟩
    by_contra once
    have bound := single name (eq_false_of_ne_true once)
    rw [valuesOf_append, valuesOf_self, List.length_append] at bound
    exact there (List.eq_nil_of_length_eq_zero (by simpa using bound))
  · rintro ⟨single, free⟩ other once
    rw [valuesOf_append, List.length_append]
    by_cases same : other = name
    · subst same
      have absent : valuesOf entries other = [] := by
        by_contra there
        rw [free there] at once
        cases once
      rw [absent, valuesOf_self]
      rfl
    · have none : valuesOf [(name, value)] other = [] := by
        simp [valuesOf, Ne.symm same]
      rw [none]
      exact single other once

theorem take_ok_iff {taken : Matches} (single : Single found.taken) :
    found.take name value = .ok taken ↔
      Single (found.taken ++ [(name, value)]) ∧ checkValue name value = .ok () ∧
        taken = { found with taken := found.taken ++ [(name, value)] } := by
  unfold Matches.take
  by_cases refused : (found.has name && !name.repeats) = true
  · rw [if_pos refused]
    rw [Bool.and_eq_true, has_iff, Bool.not_eq_true'] at refused
    constructor
    · intro took
      cases took
    · rintro ⟨allowed, _⟩
      rw [(single_concat_iff.mp allowed).2 refused.1] at refused
      cases refused.2
  · rw [if_neg refused]
    have allowed : Single (found.taken ++ [(name, value)]) := by
      refine single_concat_iff.mpr ⟨single, fun there => ?_⟩
      rw [Bool.and_eq_true, has_iff, Bool.not_eq_true', not_and] at refused
      exact eq_true_of_ne_false (refused there)
    cases checkValue name value with
    | error cause => simp [bind, Except.bind]
    | ok fine => simp [bind, Except.bind, pure, Except.pure, allowed, eq_comm]

theorem takeAll_ok_iff {taken : Matches} (single : Single found.taken) :
    found.takeAll entries = .ok taken ↔
      Single (found.taken ++ entries) ∧
        (∀ entry ∈ entries, checkValue entry.1 entry.2 = .ok ()) ∧
        taken = { found with taken := found.taken ++ entries } := by
  induction entries generalizing found with
  | nil => simp [Matches.takeAll, single, pure, Except.pure, eq_comm]
  | cons entry entries ih =>
      obtain ⟨name, value⟩ := entry
      have assoc : found.taken ++ (name, value) :: entries =
          found.taken ++ [(name, value)] ++ entries := by
        rw [List.append_assoc, List.singleton_append]
      have step : found.takeAll ((name, value) :: entries) =
          found.take name value >>= fun found => found.takeAll entries := rfl
      rw [step, assoc, List.forall_mem_cons]
      constructor
      · intro took
        cases first : found.take name value with
        | error cause =>
            rw [first] at took
            cases took
        | ok next =>
            obtain ⟨allowed, fine, rfl⟩ := (take_ok_iff single).mp first
            rw [first] at took
            obtain ⟨allowed, others, taken⟩ := (ih allowed).mp took
            exact ⟨allowed, ⟨fine, others⟩, taken⟩
      · rintro ⟨allowed, ⟨fine, others⟩, taken⟩
        rw [(take_ok_iff single).mpr ⟨allowed.of_append, fine, rfl⟩]
        exact (ih allowed.of_append).mpr ⟨allowed, others, taken⟩

end Acceptance.Cli
