import Acceptance.Cli.Program
import Acceptance.Proofs.Arguments

namespace Acceptance.Cli

-- The default command. Arguments without a command ask for the run that they ask for behind
-- `run`.

variable {found : Matches} {option : Name} {rest : List String}

theorem toOption_bind {ε α β : Type} (result : Except ε α) (next : α → Except ε β) :
    (result >>= next).toOption = result.toOption.bind fun value => (next value).toOption := by
  cases result <;> rfl

theorem run_options_iff :
    option ∈ Level.run.options ↔ option ∈ Level.root.options ∧ option ≠ .version := by
  cases option <;> decide

theorem ofLong?_run (long : String) :
    Level.run.ofLong? long = (Level.root.ofLong? long).filter (· != .version) := by
  ext option
  rw [Level.ofLong?_eq_some, Option.filter_eq_some_iff, Level.ofLong?_eq_some, run_options_iff,
    bne_iff_ne]
  grind

theorem ofShort?_run (c : Char) :
    Level.run.ofShort? c = (Level.root.ofShort? c).filter (· != .version) := by
  ext option
  rw [Level.ofShort?_eq_some, Option.filter_eq_some_iff, Level.ofShort?_eq_some, run_options_iff,
    bne_iff_ne]
  grind

-- Whether a flag is taken does not depend on the command; only its help does.
theorem raise_toOption (level other : Level) (found : Matches) (option : Name) :
    (raise level found option).toOption = (raise other found option).toOption := by
  unfold raise
  cases found.settle with
  | error cause => rfl
  | ok found => cases option <;> rfl

theorem raise_version (level : Level) (found : Matches) :
    (raise level found .version).toOption = none := by
  unfold raise
  cases found.settle <;> rfl

theorem filter_kept (other : option ≠ .version) :
    (some option).filter (· != .version) = some option := by
  simp [other]

theorem readLong_toOption (found : Matches) (text : List Char) :
    (readLong .run found text).toOption = (readLong .root found text).toOption := by
  rw [readLong_eq, readLong_eq, ofLong?_run]
  cases Level.root.ofLong? (longName text) with
  | none => rfl
  | some option =>
      by_cases ends : option = .version
      · subst ends
        cases value : longValue? text with
        | none => exact (raise_version .root found).symm
        | some value => rfl
      · rw [filter_kept ends]
        dsimp only
        by_cases valued : option.operand?.isSome
        · rw [if_pos valued, if_pos valued]
        · rw [if_neg valued, if_neg valued]
          cases longValue? text with
          | none => exact raise_toOption .run .root found option
          | some value => rfl

theorem readShort_toOption (found : Matches) (text : List Char) :
    (readShort .run found text).toOption = (readShort .root found text).toOption := by
  induction text generalizing found with
  | nil => rfl
  | cons c text ih =>
      rw [readShort_cons, readShort_cons, ofShort?_run]
      cases Level.root.ofShort? c with
      | none => rfl
      | some option =>
          by_cases ends : option = .version
          · subst ends
            show none = (raise .root found .version >>= _).toOption
            rw [toOption_bind, raise_version]
            rfl
          · rw [filter_kept ends]
            dsimp only
            by_cases valued : option.operand?.isSome
            · rw [if_pos valued, if_pos valued]
            · rw [if_neg valued, if_neg valued, toOption_bind, toOption_bind,
                raise_toOption .run .root]
              simp only [ih]

def Reading.finished? : Reading → Option Matches
  | .finished found => some found
  | .command _ _ _ => none

theorem readArguments_finished (plain : Bool) (found : Matches) (arguments : List String) :
    (readArguments .run plain found arguments).toOption.bind Reading.finished? =
      (readArguments .root plain found arguments).toOption.bind Reading.finished? := by
  induction arguments generalizing plain found with
  | nil => rfl
  | cons argument rest ih =>
      cases plain with
      | true => rw [readArguments_plain, readArguments_plain]; rfl
      | false =>
          rcases argument_cases argument with
            mark | ⟨c, text, form⟩ | ⟨c, text, letter, form⟩ | word
          · rw [readArguments_mark mark, readArguments_mark mark, ih]
          · rw [readArguments_long form, readArguments_long form, toOption_bind, toOption_bind,
              readLong_toOption, Option.bind_assoc, Option.bind_assoc]
            simp only [ih]
          · rw [readArguments_letters letter form, readArguments_letters letter form,
              toOption_bind, toOption_bind, readShort_toOption, Option.bind_assoc,
              Option.bind_assoc]
            simp only [ih]
          · cases waiting : found.isWaiting with
            | true =>
                obtain ⟨option, waits⟩ := isWaiting_iff.mp waiting
                rw [readArguments_value waits word, readArguments_value waits word, ih]
            | false =>
                have none : Level.run.commands.contains argument = false := rfl
                rw [readArguments_refused waiting word none]
                cases known : Level.root.commands.contains argument with
                | true => rw [readArguments_command waiting known]; rfl
                | false => rw [readArguments_refused waiting word known]; rfl

def Asks (level : Level) (arguments : List String) (options : RunOptions) : Prop :=
  ∃ parsed, parse arguments = .ok parsed ∧ parsed.level = level ∧
    runOptions parsed.own (scannedLanguage arguments) = options

theorem finished?_eq_some {result : Except Halt Reading} :
    result.toOption.bind Reading.finished? = some found ↔ result = .ok (.finished found) := by
  cases result with
  | error cause => simp [Except.toOption]
  | ok reading => cases reading <;> simp [Except.toOption, Reading.finished?]

theorem readCommand_level {level : Level} {outer : Matches} {parsed : Parsed}
    (accepted : readCommand level outer rest = .ok parsed) : parsed.level = level := by
  unfold readCommand at accepted
  cases read : readArguments level false {} rest with
  | error cause => simp [read, bind, Except.bind] at accepted
  | ok reading =>
      cases reading with
      | command found name rest => simp [read, bind, Except.bind] at accepted
      | finished own =>
          cases settled : usage outer.settle with
          | error cause => simp [read, settled, bind, Except.bind] at accepted
          | ok outer =>
              simp only [read, settled, bind, Except.bind, pure, Except.pure] at accepted
              cases accepted
              rfl

theorem parse_root {arguments : List String} {parsed : Parsed} :
    parse arguments = .ok parsed ∧ parsed.level = .root ↔
      ∃ own, readArguments .root false {} arguments = .ok (.finished own) ∧
        parsed = { level := .root, own } := by
  unfold parse
  cases readArguments .root false {} arguments with
  | error cause => simp [bind, Except.bind]
  | ok reading =>
      cases reading with
      | finished own =>
          simp only [bind, Except.bind, pure, Except.pure, Except.ok.injEq, Reading.finished.injEq]
          constructor
          · rintro ⟨rfl, _⟩
            exact ⟨own, rfl, rfl⟩
          · rintro ⟨_, rfl, rfl⟩
            exact ⟨rfl, rfl⟩
      | command outer name rest =>
          simp only [bind, Except.bind]
          constructor
          · rintro ⟨accepted, level⟩
            split at accepted
            · rename_i same
              cases same
            · rw [readCommand_level accepted] at level
              cases level
            · rw [readCommand_level accepted] at level
              cases level
            · cases accepted
          · rintro ⟨own, same, _⟩
            cases same

theorem parse_command (arguments : List String) :
    parse ("run" :: arguments) = readCommand .run {} arguments := by
  unfold parse
  rw [readArguments_command rfl (by decide)]
  rfl

theorem parse_run {arguments : List String} {parsed : Parsed} :
    parse ("run" :: arguments) = .ok parsed ↔
      ∃ own, readArguments .run false {} arguments = .ok (.finished own) ∧
        parsed = { level := .run, own } := by
  rw [parse_command]
  unfold readCommand
  cases readArguments .run false {} arguments with
  | error cause => simp [bind, Except.bind]
  | ok reading =>
      cases reading with
      | command found name rest => simp [bind, Except.bind]
      | finished own =>
          simp [bind, Except.bind, pure, Except.pure, Matches.settle, usage, eq_comm]

theorem scannedLanguage_run (arguments : List String) :
    scannedLanguage ("run" :: arguments) = scannedLanguage arguments := by
  unfold scannedLanguage
  rfl

theorem read_run_iff_root {arguments : List String} {own : Matches} :
    readArguments .run false {} arguments = .ok (.finished own) ↔
      readArguments .root false {} arguments = .ok (.finished own) := by
  rw [← finished?_eq_some, ← finished?_eq_some, readArguments_finished]

theorem asks_root {arguments : List String} {options : RunOptions} :
    Asks .root arguments options ↔
      ∃ own, readArguments .root false {} arguments = .ok (.finished own) ∧
        runOptions own (scannedLanguage arguments) = options := by
  constructor
  · rintro ⟨parsed, accepted, level, asked⟩
    obtain ⟨own, read, rfl⟩ := parse_root.mp ⟨accepted, level⟩
    exact ⟨own, read, asked⟩
  · rintro ⟨own, read, asked⟩
    obtain ⟨accepted, level⟩ := parse_root.mpr ⟨own, read, rfl⟩
    exact ⟨_, accepted, level, asked⟩

theorem asks_run {arguments : List String} {options : RunOptions} :
    Asks .run ("run" :: arguments) options ↔
      ∃ own, readArguments .run false {} arguments = .ok (.finished own) ∧
        runOptions own (scannedLanguage arguments) = options := by
  unfold Asks
  rw [scannedLanguage_run]
  constructor
  · rintro ⟨parsed, accepted, _, asked⟩
    obtain ⟨own, read, rfl⟩ := parse_run.mp accepted
    exact ⟨own, read, asked⟩
  · rintro ⟨own, read, asked⟩
    exact ⟨_, parse_run.mpr ⟨own, read, rfl⟩, rfl, asked⟩

theorem run_is_default_command (arguments : List String) :
    (∀ options, Asks .root arguments options ↔ Asks .run ("run" :: arguments) options) ∧
      -- The whole program then does the same.
      ∀ options, Asks .root arguments options → ∀ launch env keys session,
        program launch env keys ("run" :: arguments) session =
          program launch env keys arguments session := by
  constructor
  · intro options
    rw [asks_root, asks_run]
    simp only [read_run_iff_root]
  · intro options asked launch env keys session
    obtain ⟨own, read, _⟩ := asks_root.mp asked
    have accepted := (parse_root.mpr ⟨own, read, rfl⟩).1
    have accepted' := parse_run.mpr ⟨own, read_run_iff_root.mpr read, rfl⟩
    unfold program
    rw [scannedLanguage_run, accepted, accepted']
    rfl

theorem run_is_default_command_awkward :
    let arguments := ["--case", "run", "-vt", "init", "--case=help", "-c=--", "--lang", "run", "--"]
    let options : RunOptions :=
      { config := "--", configRequired := true, testsDir := some "init", cases := ["run", "help"],
        verbose := true, language := some "run" }
    Asks .root arguments options ∧ Asks .run ("run" :: arguments) options := by
  intro arguments options
  have asked : Asks .root arguments options := ⟨_, rfl, rfl, rfl⟩
  exact ⟨asked, ((run_is_default_command arguments).1 options).mp asked⟩

end Acceptance.Cli
