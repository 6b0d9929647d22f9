import Acceptance.Cli.Arguments

namespace Acceptance.Cli

-- One argument at a time. An argument is an option written out, a group of letters, the mark
-- behind which there are no options, or a word.

variable {level : Level} {found : Matches} {argument : String} {rest : List String}
  {option other : Name} {c : Char} {text : List Char}

theorem Name.long_inj (same : option.long = other.long) : option = other := by
  cases option <;> cases other <;> simp_all [long]

theorem Name.short_inj (short : option.short? = some c) (short' : other.short? = some c) :
    option = other := by
  cases option <;> cases short <;> cases other <;> simp_all [short?]

theorem Level.ofLong?_eq_some {long : String} :
    level.ofLong? long = some option ↔ option ∈ level.options ∧ option.long = long := by
  unfold ofLong?
  constructor
  · intro found
    exact ⟨List.mem_of_find?_eq_some found, by simpa using List.find?_some found⟩
  · rintro ⟨member, rfl⟩
    cases found : level.options.find? (·.long == option.long) with
    | none => simpa using List.find?_eq_none.mp found option member
    | some first =>
        have same : first.long = option.long := by simpa using List.find?_some found
        rw [Name.long_inj same]

theorem Level.ofShort?_eq_some :
    level.ofShort? c = some option ↔ option ∈ level.options ∧ option.short? = some c := by
  unfold ofShort?
  constructor
  · intro found
    exact ⟨List.mem_of_find?_eq_some found, by simpa using List.find?_some found⟩
  · rintro ⟨member, short⟩
    cases found : level.options.find? (·.short? == some c) with
    | none => simpa [short] using List.find?_eq_none.mp found option member
    | some first =>
        have same : first.short? = some c := by simpa using List.find?_some found
        rw [Name.short_inj same short]

-- A word cannot be taken for an option. A dash on its own is a word.
def IsWord (argument : String) : Prop := ∀ c text, argument.toList ≠ '-' :: c :: text

theorem argument_cases (argument : String) :
    argument.toList = ['-', '-'] ∨
      (∃ c text, argument.toList = '-' :: '-' :: c :: text) ∨
      (∃ c text, c ≠ '-' ∧ argument.toList = '-' :: c :: text) ∨ IsWord argument := by
  by_cases word : IsWord argument
  · exact .inr (.inr (.inr word))
  obtain ⟨c, text, form⟩ : ∃ c text, argument.toList = '-' :: c :: text := by
    simpa [IsWord] using word
  by_cases dash : c = '-'
  · subst dash
    cases text with
    | nil => exact .inl form
    | cons c text => exact .inr (.inl ⟨c, text, form⟩)
  · exact .inr (.inr (.inl ⟨c, text, dash, form⟩))

theorem commands_plain (dashed : argument.toList = '-' :: text) :
    level.commands.contains argument = false := by
  rw [← Bool.not_eq_true, List.contains_iff_mem]
  intro command
  cases level with
  | root =>
      simp only [Level.commands, List.mem_cons, List.not_mem_nil, or_false] at command
      rcases command with rfl | rfl | rfl <;> exact absurd dashed (by simp)
  | run | init => cases command

theorem isWaiting_iff : found.isWaiting = true ↔ ∃ option, found.pending = some (option, none) := by
  unfold Matches.isWaiting
  split
  · rename_i option waits
    exact ⟨fun _ => ⟨option, waits⟩, fun _ => rfl⟩
  · rename_i idle
    exact ⟨fun waits => (by cases waits), fun ⟨option, waits⟩ => (idle option waits).elim⟩

-- What stands before the first `=` of an option written out, and what behind it.
def longName (text : List Char) : String := String.ofList (text.takeWhile (· != '='))

def longValue? (text : List Char) : Option String :=
  match text.dropWhile (· != '=') with
  | _ :: value => some (String.ofList value)
  | [] => none

def letterValue? (rest : List Char) : Option String :=
  match rest with
  | [] => none
  | '=' :: value => some (String.ofList value)
  | value => some (String.ofList value)

theorem readLong_eq (level : Level) (found : Matches) (text : List Char) :
    readLong level found text =
      match level.ofLong? (longName text) with
      | none => .error (.usage (.unexpectedArgument ("--" ++ longName text)))
      | some option =>
          if option.operand?.isSome then begin found option (longValue? text)
          else
            match longValue? text with
            | some value => .error (.usage (.unexpectedValue option value))
            | none => raise level found option := rfl

theorem readShort_cons (level : Level) (found : Matches) (c : Char) (rest : List Char) :
    readShort level found (c :: rest) =
      match level.ofShort? c with
      | none => .error (.usage (.unexpectedArgument (String.ofList ['-', c])))
      | some option =>
          if option.operand?.isSome then begin found option (letterValue? rest)
          else raise level found option >>= fun found => readShort level found rest := rfl

theorem readArguments_mark (mark : argument.toList = ['-', '-']) :
    readArguments level false found (argument :: rest) = readArguments level true found rest := by
  rw [readArguments, if_neg Bool.false_ne_true, commands_plain mark, mark]
  simp

theorem readArguments_long (form : argument.toList = '-' :: '-' :: c :: text) :
    readArguments level false found (argument :: rest) =
      readLong level found (c :: text) >>= fun found => readArguments level false found rest := by
  rw [readArguments, if_neg Bool.false_ne_true, commands_plain form, form]
  simp

theorem readArguments_letters (letter : c ≠ '-') (form : argument.toList = '-' :: c :: text) :
    readArguments level false found (argument :: rest) =
      readShort level found (c :: text) >>= fun found => readArguments level false found rest := by
  rw [readArguments, if_neg Bool.false_ne_true, commands_plain form, form]
  simp [letter]

theorem readArguments_word (word : IsWord argument) :
    readArguments level false found (argument :: rest) =
      if !found.isWaiting && level.commands.contains argument then
        .ok (.command found argument rest)
      else
        match found.pending with
        | some (option, none) =>
            readArguments level false { found with pending := some (option, some argument) } rest
        | _ => .error (.usage (refusal level false argument)) := by
  rw [readArguments, if_neg Bool.false_ne_true]
  split
  · rfl
  split
  · rename_i form
    exact (word _ _ form).elim
  · rename_i form
    exact (word _ _ form).elim
  · rename_i form
    exact (word _ _ form).elim
  · rfl

theorem readArguments_value (waits : found.pending = some (option, none))
    (word : IsWord argument) :
    readArguments level false found (argument :: rest) =
      readArguments level false { found with pending := some (option, some argument) } rest := by
  rw [readArguments_word word, isWaiting_iff.mpr ⟨option, waits⟩, waits]
  rfl

theorem readArguments_refused (idle : found.isWaiting = false) (word : IsWord argument)
    (unknown : level.commands.contains argument = false) :
    readArguments level false found (argument :: rest) =
      .error (.usage (refusal level false argument)) := by
  rw [readArguments_word word, unknown, Bool.and_false, if_neg Bool.false_ne_true]
  split
  · rename_i option waits
    rw [isWaiting_iff.mpr ⟨option, waits⟩] at idle
    cases idle
  · rfl

theorem readArguments_command (idle : found.isWaiting = false)
    (known : level.commands.contains argument = true) :
    readArguments level false found (argument :: rest) = .ok (.command found argument rest) := by
  rw [readArguments, if_neg Bool.false_ne_true, idle, known]
  rfl

theorem readArguments_plain :
    readArguments level true found (argument :: rest) =
      .error (.usage (refusal level true argument)) := by
  rw [readArguments, if_pos rfl]

end Acceptance.Cli
