import Acceptance.Proofs.WrittenOptions

namespace Acceptance.Cli

-- Requests on the command line. Whatever a run can be asked for can be written in many ways, with
-- the options in any order, and all of them are read back as the same request.

variable {name : Name} {value : String} {entries : List (Name × String)}
  {pieces : List (List String)}

-- A number below `2 ^ 64` as it may be written: with a plus sign, and with zeros in front.
structure Numeral where
  plus : Bool := false
  zeros : Nat := 0
  value : UInt64
  deriving DecidableEq

namespace Numeral

def digits (numeral : Numeral) : List Char :=
  List.replicate numeral.zeros '0' ++ Nat.toDigits 10 numeral.value.toNat

def text (numeral : Numeral) : String :=
  String.ofList (if numeral.plus then '+' :: numeral.digits else numeral.digits)

end Numeral

theorem le_ofDigitChars (digits : List Char) (value : Nat) :
    value ≤ Nat.ofDigitChars 10 digits value := by
  induction digits generalizing value with
  | nil => rw [Nat.ofDigitChars_nil]
  | cons c digits ih =>
      rw [Nat.ofDigitChars_cons]
      exact Nat.le_trans (by omega) (ih _)

theorem readDigits_eq {digits : List Char} {value : Nat} (decimal : ∀ c ∈ digits, c.isDigit)
    (bounded : Nat.ofDigitChars 10 digits value < UInt64.size) :
    readDigits value digits = .ok (Nat.ofDigitChars 10 digits value) := by
  induction digits generalizing value with
  | nil => rfl
  | cons c digits ih =>
      rw [Nat.ofDigitChars_cons, Nat.mul_comm] at bounded ⊢
      have small := Nat.lt_of_le_of_lt (le_ofDigitChars digits _) bounded
      rw [readDigits, decimal c List.mem_cons_self]
      simp only [Bool.not_true, Bool.false_eq_true, if_false]
      rw [if_neg (Nat.not_le.mpr small)]
      exact ih (fun c member => decimal c (List.mem_cons_of_mem _ member)) bounded

theorem Numeral.digits_decimal (numeral : Numeral) : ∀ c ∈ numeral.digits, c.isDigit := by
  intro c member
  rcases List.mem_append.mp member with zero | digit
  · rw [(List.mem_replicate.mp zero).2]
    rfl
  · exact Nat.isDigit_of_mem_toDigits (by decide) (by decide) digit

theorem Numeral.digits_value (numeral : Numeral) :
    Nat.ofDigitChars 10 numeral.digits 0 = numeral.value.toNat := by
  have zeros : Nat.ofDigitChars 10 (List.replicate numeral.zeros '0') 0 = 0 := by
    induction numeral.zeros with
    | zero => rfl
    | succ zeros ih =>
        rw [List.replicate_succ, Nat.ofDigitChars_cons]
        exact ih
  rw [digits, Nat.ofDigitChars_append, zeros,
    Nat.ofDigitChars_toDigits (by decide) (by decide)]

theorem readNumber_text (numeral : Numeral) :
    readNumber numeral.text = .ok numeral.value.toNat := by
  have read : readDigits 0 numeral.digits = .ok numeral.value.toNat := by
    rw [← numeral.digits_value]
    refine readDigits_eq numeral.digits_decimal ?_
    rw [numeral.digits_value]
    exact numeral.value.toNat_lt_size
  obtain ⟨c, more, form⟩ : ∃ c more, numeral.digits = c :: more := by
    refine List.exists_cons_of_ne_nil ?_
    simp [Numeral.digits, Nat.toDigits_ne_nil]
  have digit := numeral.digits_decimal c (by simp [form])
  unfold readNumber Numeral.text
  rw [String.toList_ofList, form]
  rw [form] at read
  cases numeral.plus with
  | true => exact read
  | false =>
      simp only [Bool.false_eq_true, if_false]
      split
      · rename_i empty
        cases empty
      · rename_i sign
        cases sign
        cases digit
      · exact read

-- What a run can be asked for. A path is never empty.
structure RunRequest where
  config : Option { path : String // path ≠ "" } := none
  testsDir : Option { path : String // path ≠ "" } := none
  cases : List String := []
  timeout : Option Numeral := none
  html : Option { path : String // path ≠ "" } := none
  json : Option { path : String // path ≠ "" } := none
  verbose : Bool := false

namespace RunRequest

def options (request : RunRequest) : RunOptions where
  config := (request.config.map (·.val)).getD Config.defaultFile
  configRequired := request.config.isSome
  testsDir := request.testsDir.map (·.val)
  cases := request.cases
  timeoutSeconds := request.timeout.map (·.value.toNat)
  html := request.html.map (·.val)
  json := request.json.map (·.val)
  verbose := request.verbose
  language := none

def values (request : RunRequest) : Name → List String
  | .config => (request.config.map (·.val)).toList
  | .testsDir => (request.testsDir.map (·.val)).toList
  | .case => request.cases
  | .timeout => (request.timeout.map (·.text)).toList
  | .html => (request.html.map (·.val)).toList
  | .json => (request.json.map (·.val)).toList
  | .verbose => if request.verbose then ["true"] else []
  | _ => []

-- The options stand in any order; only the values of the same one keep their order.
def WrittenAs (request : RunRequest) (arguments : List String) : Prop :=
  ∃ entries pieces, List.Forall₂ Written entries pieces ∧ arguments = pieces.flatten ∧
    ∀ name, valuesOf entries name = request.values name

end RunRequest

variable {request : RunRequest}

theorem mem_valuesOf {entry : Name × String} :
    entry ∈ entries ↔ entry.2 ∈ valuesOf entries entry.1 := by
  obtain ⟨name, value⟩ := entry
  simp [valuesOf]

theorem RunRequest.values_length (name : Name) (once : name.repeats = false) :
    (request.values name).length ≤ 1 := by
  have optional : ∀ value? : Option String, value?.toList.length ≤ 1 := by
    intro value?
    cases value? <;> simp
  cases name with
  | case => cases once
  | config | testsDir | timeout | html | json => exact optional _
  | verbose =>
      show (if request.verbose then ["true"] else []).length ≤ 1
      split <;> simp
  | _ => exact Nat.zero_le 1

theorem checkValue_path {path? : Option { path : String // path ≠ "" }} {operand : String}
    (kind : name.operand? = some (operand, .path)) (given : value ∈ (path?.map (·.val)).toList) :
    checkValue name value = .ok () := by
  obtain ⟨path, _, rfl⟩ := Option.map_eq_some_iff.mp (Option.mem_toList.mp given)
  rw [checkValue, kind]
  exact if_neg (by simpa using path.property)

theorem RunRequest.values_checked (given : value ∈ request.values name) :
    name ∈ Level.run.options ∧ name ≠ .language ∧ checkValue name value = .ok () := by
  cases name with
  | config | testsDir | html | json =>
      exact ⟨by decide, by decide, checkValue_path rfl given⟩
  | case | verbose => exact ⟨by decide, by decide, rfl⟩
  | timeout =>
      obtain ⟨numeral, _, rfl⟩ : ∃ numeral, request.timeout = some numeral ∧
        numeral.text = value := by simpa [values] using given
      refine ⟨by decide, by decide, ?_⟩
      simp only [checkValue, Name.operand?, readNumber_text]
  | _ => cases given

theorem options_of_values {own : Matches}
    (same : ∀ name, valuesOf own.taken name = request.values name) :
    runOptions own none = request.options := by
  have value : ∀ name, own.value? name = (request.values name).head? := by
    intro name
    rw [value?_eq, same]
  have has : ∀ name, own.has name = (request.values name).head?.isSome := by
    intro name
    rw [Bool.eq_iff_iff, has_iff, same, List.isSome_head?]
  have named : own.values .case = request.cases := same .case
  unfold runOptions RunRequest.options
  rw [named]
  simp only [value, has, RunRequest.values, Option.head?_toList, Option.isSome_map,
    RunOptions.mk.injEq, true_and, and_true]
  constructor
  · cases request.timeout with
    | none => rfl
    | some numeral => simp [readNumber_text, Except.toOption]
  · cases request.verbose <;> rfl

theorem scannedLanguage_silent {arguments : List String}
    (silent : ∀ argument ∈ arguments, ¬"--lang".toList <+: argument.toList) :
    scannedLanguage arguments = none := by
  have apart : ∀ argument ∈ arguments, (argument != "--lang") = true := by
    intro argument member
    refine bne_iff_ne.mpr fun same => silent argument member ?_
    subst same
    exact List.prefix_rfl
  unfold scannedLanguage
  rw [List.dropWhile_eq_nil_iff.mpr apart]
  refine List.findSome?_eq_none_iff.mpr fun argument member => if_neg fun attached => ?_
  have whole : "--lang".toList <+: "--lang=".toList := by decide
  exact silent argument member (whole.trans (List.isPrefixOf_iff_prefix.mp attached))

theorem Name.long_silent (other : name ≠ .language) (text : List Char) :
    ¬"--lang".toList <+: '-' :: '-' :: (name.long.toList ++ text) := by
  cases name <;> simp_all [long, List.cons_prefix_cons]

theorem Written.silent {entry : Name × String} {piece : List String} (form : Written entry piece)
    (other : entry.1 ≠ .language) :
    ∀ argument ∈ piece, ¬"--lang".toList <+: argument.toList := by
  have plainly : ∀ value : String, value.toList.head? ≠ some '-' →
      ¬"--lang".toList <+: value.toList := by
    rintro value plain ⟨rest, form⟩
    exact plain (by rw [← form]; rfl)
  have letters : ∀ c, ¬"--lang".toList <+: (String.ofList ['-', c]).toList := by
    rintro c ⟨rest, form⟩
    simp at form
  have spelled : ∀ {name : Name}, name ≠ .language →
      ¬"--lang".toList <+: ("--" ++ name.long).toList := by
    intro name other
    simpa using Name.long_silent other []
  cases form with
  | @attached name value =>
      have whole := Name.long_silent other ('=' :: value.toList)
      exact List.forall_mem_singleton.mpr (by simpa using whole)
  | @separate name value _ plain =>
      exact List.forall_mem_cons.mpr
        ⟨spelled other, List.forall_mem_singleton.mpr (plainly value plain)⟩
  | @letter name value c _ _ plain =>
      exact List.forall_mem_cons.mpr
        ⟨letters c, List.forall_mem_singleton.mpr (plainly value plain)⟩
  | flag => exact List.forall_mem_singleton.mpr (spelled other)
  | @flagLetter name c => exact List.forall_mem_singleton.mpr (letters c)

theorem scannedLanguage_written (written : List.Forall₂ Written entries pieces)
    (other : ∀ entry ∈ entries, entry.1 ≠ .language) : scannedLanguage pieces.flatten = none := by
  refine scannedLanguage_silent ?_
  induction written with
  | nil => simp
  | @cons entry piece entries pieces form written ih =>
      rw [List.flatten_cons, List.forall_mem_append]
      exact ⟨form.silent (other entry List.mem_cons_self),
        ih fun entry member => other entry (List.mem_cons_of_mem _ member)⟩

theorem root_options (member : name ∈ Level.run.options) : name ∈ Level.root.options :=
  (run_options_iff.mp member).1

theorem repeats_iff : name.repeats = true ↔ name = .case := by
  cases name <;> decide

theorem empty_single : Single [] := fun _ _ => Nat.zero_le 1

theorem rejected_of_twice (written : List.Forall₂ Written entries pieces)
    (known : ∀ entry ∈ entries, entry.1 ∈ Level.run.options) (other : name ≠ .case)
    (twice : 2 ≤ (valuesOf entries name).length) :
    ∃ error, parse pieces.flatten = .error (.usage error) ∧
      parse ("run" :: pieces.flatten) = .error (.usage error) := by
  have root := readArguments_written written
    (fun entry member => root_options (known entry member)) {}
  have run := readArguments_written written known {}
  cases took : Matches.takeAll {} entries with
  | ok taken =>
      have once : name.repeats = false := eq_false_of_ne_true fun repeats =>
        other (repeats_iff.mp repeats)
      have bound := ((takeAll_ok_iff empty_single).mp took).1 name once
      rw [List.nil_append] at bound
      omega
  | error cause =>
      have failed : (usage (Matches.settle {} >>= fun found => found.takeAll entries)).map
          Reading.finished = .error (.usage cause) := by
        show (usage (Matches.takeAll {} entries)).map Reading.finished = _
        rw [took]
        rfl
      rw [failed] at root run
      refine ⟨cause, ?_, ?_⟩
      · rw [parse, root]
        rfl
      · rw [parse_command, readCommand, run]
        rfl

theorem written_request_read_back (request : RunRequest) (arguments : List String)
    (written : request.WrittenAs arguments) :
    (Asks .root arguments request.options ∧ Asks .run ("run" :: arguments) request.options) ∧
      -- No option is accepted twice, apart from those that name a case.
      ∀ entries pieces name, List.Forall₂ Written entries pieces →
        (∀ entry ∈ entries, entry.1 ∈ Level.run.options) → name ≠ .case →
        2 ≤ (valuesOf entries name).length →
        ∃ error, parse pieces.flatten = .error (.usage error) ∧
          parse ("run" :: pieces.flatten) = .error (.usage error) := by
  refine ⟨?_, fun entries pieces name => rejected_of_twice⟩
  obtain ⟨entries, pieces, written, rfl, same⟩ := written
  have given : ∀ entry ∈ entries, entry.1 ∈ Level.run.options ∧ entry.1 ≠ .language ∧
      checkValue entry.1 entry.2 = .ok () := by
    intro entry member
    rw [mem_valuesOf, same] at member
    exact RunRequest.values_checked member
  have single : Single entries := by
    intro name once
    rw [same]
    exact RunRequest.values_length name once
  have took : Matches.takeAll {} entries = .ok { taken := entries } :=
    (takeAll_ok_iff empty_single).mpr ⟨single, fun entry member => (given entry member).2.2, rfl⟩
  have read : readArguments .root false {} pieces.flatten =
      .ok (.finished { taken := entries }) := by
    rw [readArguments_written written fun entry member => root_options (given entry member).1]
    show (usage (Matches.takeAll {} entries)).map Reading.finished = _
    rw [took]
    rfl
  have language := scannedLanguage_written written fun entry member => (given entry member).2.1
  have asked : Asks .root pieces.flatten request.options := by
    refine asks_root.mpr ⟨_, read, ?_⟩
    rw [language]
    exact options_of_values same
  refine ⟨asked, asks_run.mpr ⟨_, read_run_iff_root.mpr read, ?_⟩⟩
  rw [language]
  exact options_of_values same

namespace Awkward

def wanted : RunRequest where
  config := some ⟨"GoldenRunner.toml", by decide⟩
  testsDir := some ⟨"run", by decide⟩
  cases := ["--lang=en", "", "help", "a=b"]
  timeout := some { plus := true, zeros := 2, value := 18446744073709551615 }
  html := some ⟨"-v", by decide⟩
  verbose := true

def arguments : List String :=
  ["--case=--lang=en", "-c", "GoldenRunner.toml", "--timeout", "+0018446744073709551615",
    "--case", "", "-v", "--case", "help", "-t", "run", "--html=-v", "--case=a=b"]

theorem written : wanted.WrittenAs arguments := by
  have spelled : List.Forall₂ Written
      [(.case, "--lang=en"), (.config, "GoldenRunner.toml"),
        (.timeout, "+0018446744073709551615"), (.case, ""), (.verbose, "true"), (.case, "help"),
        (.testsDir, "run"), (.html, "-v"), (.case, "a=b")] _ :=
    .cons (.attached rfl) <| .cons (.letter rfl rfl (by decide)) <|
      .cons (.separate rfl (by decide)) <| .cons (.separate rfl (by decide)) <|
      .cons (.flagLetter (by decide) rfl) <| .cons (.separate rfl (by decide)) <|
      .cons (.letter rfl rfl (by decide)) <| .cons (.attached rfl) <| .cons (.attached rfl) .nil
  refine ⟨_, _, spelled, rfl, fun name => ?_⟩
  cases name <;> rfl

theorem twice : List.Forall₂ Written [(.verbose, "true"), (.case, "a"), (.verbose, "true")]
    [["-v"], ["--case", "a"], ["--verbose"]] :=
  .cons (.flagLetter (by decide) rfl) <| .cons (.separate rfl (by decide)) <|
    .cons (.flag (by decide)) .nil

end Awkward

theorem written_request_read_back_awkward :
    Awkward.wanted.WrittenAs Awkward.arguments ∧
      Asks .root Awkward.arguments
        { config := Config.defaultFile, configRequired := true, testsDir := some "run",
          cases := ["--lang=en", "", "help", "a=b"], timeoutSeconds := some (UInt64.size - 1),
          html := some "-v", verbose := true } ∧
      ∃ error, parse ["-v", "--case", "a", "--verbose"] = .error (.usage error) := by
  obtain ⟨asked, refused⟩ :=
    written_request_read_back Awkward.wanted Awkward.arguments Awkward.written
  obtain ⟨error, failed, _⟩ :=
    refused _ _ .verbose Awkward.twice (by decide) (by decide) (by decide)
  exact ⟨Awkward.written, asked.1, error, failed⟩

end Acceptance.Cli
