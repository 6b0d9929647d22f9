import Mathlib.Data.List.Nodup
import Acceptance.Config.Decode
import Acceptance.Config.Render
import Acceptance.Proofs.DistinctKeys
import Acceptance.Proofs.WrittenDocuments
import Acceptance.Wizard

namespace Acceptance.Config

open Toml (Value Statement Lines Keyed)

-- A configuration is read back as it was written, alone or below the comment of a new file.

def textEntries (texts : List (String × String)) : List (String × Value) :=
  texts.map fun text => (text.1, .text text.2)

def layoutTexts (layout : Layout) : List (String × String) :=
  [("spec_input", layout.specInput), ("input", layout.input), ("expected", layout.expected),
    ("program", layout.program), ("actual_output", layout.actualOutput),
    ("actual_diagnostics", layout.actualDiagnostics)]

def settingTexts (config : Config) : List (String × String) :=
  [("tests_dir", config.testsDir), ("compiler", config.compiler), ("vm", config.vm),
    ("diff", config.diff), ("hint", config.hint)]

def languageEntry (config : Config) : List (String × Value) :=
  (config.language.map fun language => ("language", Value.text language)).toList

def timeoutEntry (config : Config) : List (String × Value) :=
  (config.timeoutSeconds.map fun seconds : Nat => ("timeout_secs", Value.integer seconds)).toList

def sortEntry (config : Config) : List (String × Value) :=
  [("sort_cases", .boolean config.sortCases)]

def settingEntries (config : Config) : List (String × Value) :=
  languageEntry config ++ textEntries (settingTexts config) ++ timeoutEntry config ++
    sortEntry config

theorem entryLine_line {key : String} {value : Value} {written : List Char}
    (named : key ∈ fields ++ layoutFields) (wrote : Toml.Written value written) :
    Toml.Line (.entry ⟨[], key⟩ value) (entryLine key written) := by
  have bare : ∀ key ∈ fields ++ layoutFields, key.toList ≠ [] ∧
      key.toList.all Toml.isBare := by decide
  obtain ⟨filled, bare⟩ := bare key named
  have line := Toml.Line.entry filled (List.all_eq_true.mp bare) wrote
  rwa [String.ofList_toList] at line

theorem textLines_lines {texts : List (String × String)}
    (named : ∀ key ∈ texts.map Prod.fst, key ∈ fields ++ layoutFields) :
    Lines (Toml.entryStatements (textEntries texts))
      (texts.flatMap fun text => textLine text.1 text.2) := by
  induction texts with
  | nil => exact .nil
  | cons text texts ih =>
      rw [List.flatMap_cons]
      exact .cons (entryLine_line (named text.1 List.mem_cons_self) (Toml.written_text text.2))
        (ih fun key member => named key (List.mem_cons_of_mem _ member))

theorem languageLine_lines (config : Config) :
    Lines (Toml.entryStatements (languageEntry config))
      (optionalLine (textLine "language") config.language) := by
  have named : "language" ∈ fields ++ layoutFields := by decide
  unfold languageEntry
  cases config.language with
  | none => exact .nil
  | some language => exact .single (entryLine_line named (Toml.written_text language))

theorem timeoutLine_lines (config : Config) :
    Lines (Toml.entryStatements (timeoutEntry config))
      (optionalLine (fun seconds => entryLine "timeout_secs" (Nat.toDigits 10 seconds))
        config.timeoutSeconds) := by
  have named : "timeout_secs" ∈ fields ++ layoutFields := by decide
  unfold timeoutEntry
  cases config.timeoutSeconds with
  | none => exact .nil
  | some seconds => exact .single (entryLine_line named (Toml.written_natural seconds))

theorem render_lines (config : Config) :
    Lines (Toml.entryStatements (settingEntries config) ++ .header ⟨[], "layout"⟩ ::
      Toml.entryStatements (textEntries (layoutTexts config.layout))) config.render.toList := by
  have texts : Lines (Toml.entryStatements (textEntries (settingTexts config))) _ :=
    textLines_lines (by simp [settingTexts, fields, layoutFields])
  have named : "sort_cases" ∈ fields ++ layoutFields := by decide
  have sort : Lines (Toml.entryStatements (sortEntry config)) _ :=
    .single (entryLine_line named (Toml.written_boolean config.sortCases)).blank
  have header : Toml.Line (.header ⟨[], String.ofList "layout".toList⟩) _ :=
    Toml.Line.header (by decide) (List.all_eq_true.mp (by decide))
  have layout : Lines (Toml.entryStatements (textEntries (layoutTexts config.layout))) _ :=
    textLines_lines (by simp [layoutTexts, fields, layoutFields])
  have lines := ((((languageLine_lines config).append texts).append
    (timeoutLine_lines config)).append sort).append (.cons header layout)
  simpa [settingEntries, settingTexts, layoutTexts, sortEntry, render, settingLines, layoutLines,
    Toml.entryStatements] using lines

def entriesOf (value? : String → Option Value) (keys : List String) : List (String × Value) :=
  keys.filterMap fun key => (value? key).map fun value => (key, value)

theorem entriesOf_keys (value? : String → Option Value) (keys : List String) :
    ((entriesOf value? keys).map Prod.fst).Sublist keys := by
  induction keys with
  | nil => exact .slnil
  | cons key keys ih =>
      rw [entriesOf, List.filterMap_cons]
      cases value? key with
      | none => exact ih.cons key
      | some value => exact ih.cons_cons key

theorem entriesOf_ascending (value? : String → Option Value) {keys : List String}
    (ascending : keys.Pairwise (· < ·)) :
    (entriesOf value? keys).Pairwise fun left right => left.1 < right.1 := by
  refine ascending.filterMap _ fun left right below entry member other member' => ?_
  obtain ⟨value, -, rfl⟩ := Option.map_eq_some_iff.mp member
  obtain ⟨value', -, rfl⟩ := Option.map_eq_some_iff.mp member'
  exact below

theorem sortEntries_rising (entries : List (String × Value)) :
    (sortEntries entries).Pairwise fun left right => left.1 ≤ right.1 := by
  refine (List.pairwise_mergeSort ?_ ?_ _).imp fun below => of_decide_eq_true below
  · intro left middle right below above
    exact decide_eq_true (String.le_trans (of_decide_eq_true below) (of_decide_eq_true above))
  · intro left right
    simpa using String.le_total left.1 right.1

theorem sortEntries_self (entries : List (String × Value)) : (sortEntries entries).Perm entries :=
  List.mergeSort_perm entries _

theorem sortEntries_unique {entries other : List (String × Value)} (keyed : Keyed entries)
    (permuted : other.Perm entries)
    (rising : other.Pairwise fun left right => left.1 ≤ right.1) : sortEntries entries = other := by
  have same : (sortEntries entries).Perm other := (sortEntries_self entries).trans permuted.symm
  refine List.Perm.eq_of_pairwise ?_ (sortEntries_rising entries) rising same
  intro left right member member' below above
  have once := keyed.perm permuted.symm
  exact List.inj_on_of_nodup_map once (same.subset member) member' (String.le_antisymm below above)

-- The entries are set in the order of their keys, whatever their order in the document.
theorem sortEntries_entriesOf (value? : String → Option Value) {keys sorted : List String}
    (perm : keys.Perm sorted) (ascending : sorted.Pairwise (· < ·)) :
    sortEntries (entriesOf value? keys) = entriesOf value? sorted := by
  have strict := entriesOf_ascending value? ascending
  have keyed : Keyed (entriesOf value? sorted) := by
    refine List.pairwise_map.mpr (strict.imp fun below equal => ?_)
    exact String.lt_irrefl _ (equal ▸ below)
  have permuted : (entriesOf value? sorted).Perm (entriesOf value? keys) := perm.symm.filterMap _
  exact sortEntries_unique (keyed.perm permuted) permuted
    (strict.imp fun below => Std.le_of_lt below)

def layoutValue? (layout : Layout) : String → Option Value
  | "spec_input" => some (.text layout.specInput)
  | "input" => some (.text layout.input)
  | "expected" => some (.text layout.expected)
  | "program" => some (.text layout.program)
  | "actual_output" => some (.text layout.actualOutput)
  | "actual_diagnostics" => some (.text layout.actualDiagnostics)
  | _ => none

def layoutOrder : List String :=
  ["actual_diagnostics", "actual_output", "expected", "input", "program", "spec_input"]

theorem layoutOf_entries (layout : Layout) :
    layoutOf (.table (textEntries (layoutTexts layout))) = .ok layout := by
  have written : textEntries (layoutTexts layout) = entriesOf (layoutValue? layout) layoutFields :=
    rfl
  have perm : layoutFields.Perm layoutOrder := by decide
  rw [written, layoutOf, sortEntries_entriesOf _ perm (by decide)]
  rfl

def settingValue? (config : Config) : String → Option Value
  | "language" => config.language.map .text
  | "tests_dir" => some (.text config.testsDir)
  | "compiler" => some (.text config.compiler)
  | "vm" => some (.text config.vm)
  | "diff" => some (.text config.diff)
  | "hint" => some (.text config.hint)
  | "timeout_secs" => config.timeoutSeconds.map fun seconds : Nat => .integer seconds
  | "sort_cases" => some (.boolean config.sortCases)
  | "layout" => some (.table (textEntries (layoutTexts config.layout)))
  | _ => none

def fieldOrder : List String :=
  ["compiler", "diff", "hint", "language", "layout", "sort_cases", "tests_dir", "timeout_secs",
    "vm"]

def writtenEntries (config : Config) : List (String × Value) :=
  settingEntries config ++ [("layout", .table (textEntries (layoutTexts config.layout)))]

theorem writtenEntries_eq (config : Config) :
    writtenEntries config = entriesOf (settingValue? config) fields := by
  obtain ⟨language, _, _, _, _, _, timeout, _, _⟩ := config
  cases language <;> cases timeout <;> rfl

theorem writtenKeys_distinct (config : Config) :
    ((writtenEntries config).map Prod.fst).Nodup := by
  rw [writtenEntries_eq]
  exact (entriesOf_keys _ _).nodup (by decide)

theorem natural_seconds {seconds : Nat} (bound : seconds < UInt64.size) :
    natural (.integer seconds) = .ok seconds := by
  have range : 0 ≤ (seconds : Int) ∧ (seconds : Int) < UInt64.size := by omega
  rw [natural, if_pos range, Int.toNat_natCast]

def setAll (entries : List (String × Value)) (config : Config) : Except Problem Config :=
  entries.foldlM (fun config entry => setField config entry.1 entry.2) config

theorem setAll_cons {value? : String → Option Value} {key : String} (keys : List String)
    {config next : Config}
    (set : (value? key).elim (.ok config) (setField config key) = .ok next) :
    setAll (entriesOf value? (key :: keys)) config = setAll (entriesOf value? keys) next := by
  rw [entriesOf, List.filterMap_cons]
  cases found : value? key with
  | none =>
      rw [found] at set
      cases set
      rfl
  | some value =>
      rw [found] at set
      simp only [Option.map_some, setAll, List.foldlM_cons]
      rw [show setField config key value = .ok next from set]
      rfl

theorem setField_timeout (start : Config) {seconds : Nat} (bound : seconds < UInt64.size) :
    setField start "timeout_secs" (.integer seconds) =
      .ok { start with timeoutSeconds := some seconds } := by
  rw [setField, natural_seconds bound]
  rfl

-- Every setting that is written is set; the two that may be left out are unset to begin with.
theorem decode_written (config : Config)
    (bound : ∀ seconds, config.timeoutSeconds = some seconds → seconds < UInt64.size) :
    decode (writtenEntries config) = .ok config := by
  have language : ∀ start : Config, start.language = none →
      (settingValue? config "language").elim (.ok start) (setField start "language") =
        .ok { start with language := config.language } := by
    intro start unset
    simp only [settingValue?]
    cases config.language with
    | none =>
        cases start
        cases unset
        rfl
    | some language => rfl
  have timeout : ∀ start : Config, start.timeoutSeconds = none →
      (settingValue? config "timeout_secs").elim (.ok start) (setField start "timeout_secs") =
        .ok { start with timeoutSeconds := config.timeoutSeconds } := by
    intro start unset
    simp only [settingValue?]
    cases chosen : config.timeoutSeconds with
    | none =>
        cases start
        cases unset
        rfl
    | some seconds =>
        rw [Option.map_some, Option.elim_some, setField_timeout start (bound seconds chosen)]
  have layout : ∀ start : Config,
      (settingValue? config "layout").elim (.ok start) (setField start "layout") =
        .ok { start with layout := config.layout } := by
    intro start
    simp only [settingValue?, Option.elim, setField, layoutOf_entries]
    rfl
  have perm : fields.Perm fieldOrder := by decide
  have sorted := sortEntries_entriesOf (settingValue? config) perm (by decide)
  calc decode (writtenEntries config)
    _ = setAll (entriesOf (settingValue? config) fieldOrder) {} := by
      rw [writtenEntries_eq, decode, sorted]
      rfl
    _ = .ok config := by
      rw [fieldOrder, setAll_cons _ rfl, setAll_cons _ rfl, setAll_cons _ rfl,
        setAll_cons _ (language _ rfl), setAll_cons _ (layout _), setAll_cons _ rfl,
        setAll_cons _ rfl, setAll_cons _ (timeout _ rfl), setAll_cons _ rfl]
      rfl

theorem parse_written {config : Config} {content : String}
    (start : Toml.skipTrivia false (Toml.dropOrderMark content.toList) =
      some config.render.toList) :
    Toml.parse? content.toList = some (writtenEntries config) := by
  have inside : ((textEntries (layoutTexts config.layout)).map Prod.fst).Nodup := by
    show layoutFields.Nodup
    decide
  exact Toml.parse_lines start (render_lines config)
    (by simpa [writtenEntries] using writtenKeys_distinct config) inside

theorem ofToml_written {config : Config} {content : String}
    (bound : ∀ seconds, config.timeoutSeconds = some seconds → seconds < UInt64.size)
    (start : Toml.skipTrivia false (Toml.dropOrderMark content.toList) =
      some config.render.toList) :
    ofToml content = .ok config := by
  rw [ofToml, parse_written start]
  simp only [decode_written config bound]

theorem dropOrderMark_cons {c : Char} (other : c ≠ '\ufeff') (rest : List Char) :
    Toml.dropOrderMark (c :: rest) = c :: rest := by
  unfold Toml.dropOrderMark
  split <;> simp_all

def isRemark : List Char → Bool
  | [] => true
  | c :: text => c == '#' && text.all Toml.isPlain

theorem skipTrivia_plain {line : List Char} (plain : ∀ c ∈ line, Toml.isPlain c)
    (below : List Char) :
    Toml.skipTrivia true (line ++ '\n' :: below) = Toml.skipTrivia false below := by
  induction line with
  | nil => rfl
  | cons c line ih =>
      have kept := plain c List.mem_cons_self
      have inline := Toml.plain_inline kept
      rw [List.cons_append, Toml.skipTrivia, if_pos kept]
      · exact ih fun c member => plain c (List.mem_cons_of_mem _ member)
      · exact inline.1
      · exact fun _ wide => absurd wide inline.2

theorem skipTrivia_remark {line : List Char} (remark : isRemark line) (below : List Char) :
    Toml.skipTrivia false (line ++ '\n' :: below) = Toml.skipTrivia false below := by
  cases line with
  | nil => rfl
  | cons c text =>
      simp only [isRemark, Bool.and_eq_true, beq_iff_eq, List.all_eq_true] at remark
      rw [remark.1]
      exact skipTrivia_plain remark.2 below

-- Lines of comments count for nothing, whatever stands below them.
theorem skipTrivia_remarks {lines : List (List Char)} (remarks : ∀ line ∈ lines, isRemark line)
    (ended : lines.getLast? = some []) (below : List Char) :
    Toml.skipTrivia false (['\n'].intercalate lines ++ below) = Toml.skipTrivia false below := by
  induction lines with
  | nil => cases ended
  | cons line lines ih =>
      cases lines with
      | nil =>
          cases ended
          rfl
      | cons next lines =>
          rw [List.intercalate_cons_cons, List.append_assoc, List.append_assoc,
            List.singleton_append, skipTrivia_remark (remarks line List.mem_cons_self)]
          exact ih (fun line member => remarks line (List.mem_cons_of_mem _ member))
            (by rwa [List.getLast?_cons_cons] at ended)

theorem header_skipped (text : List Char) :
    Toml.skipTrivia false (Toml.dropOrderMark (header.toList ++ text)) =
      Toml.skipTrivia false text := by
  have begins : ∃ rest, header.toList ++ text = '#' :: rest := by
    rw [header, String.toList_intercalate, List.map_cons, List.map_cons,
      List.intercalate_cons_cons]
    exact ⟨_, rfl⟩
  obtain ⟨rest, form⟩ := begins
  rw [form, dropOrderMark_cons (by decide), ← form, header, String.toList_intercalate]
  exact skipTrivia_remarks (by decide +kernel) rfl text

theorem render_unmarked (config : Config) :
    Toml.dropOrderMark config.render.toList = config.render.toList := by
  rcases (render_lines config).begins with none | ⟨c, rest, form, begins⟩
  · rw [none]
    rfl
  · rw [form]
    refine dropOrderMark_cons ?_ rest
    rintro rfl
    revert begins
    decide

theorem reads_back_as_written (config : Config)
    (bound : ∀ seconds, config.timeoutSeconds = some seconds → seconds < UInt64.size) :
    ofToml config.render = .ok config ∧ ofToml (header ++ config.render) = .ok config := by
  have start := (render_lines config).skipTrivia
  constructor
  · refine ofToml_written bound ?_
    rw [render_unmarked, start]
  · refine ofToml_written bound ?_
    rw [String.toList_append, header_skipped, start]

def strange : Config where
  language := some "\"\"\"'''\\"
  testsDir := "\n\nlines\r\n"
  compiler := "it's \"\"\"\"\" and '''''\n"
  vm := "\x00\x1b\x7f"
  diff := ""
  hint := "\t\"\"\n''"
  timeoutSeconds := some 18446744073709551615
  sortCases := true
  layout := { specInput := "\"", input := "''", expected := "\r", program := "a\\b",
              actualOutput := "\n", actualDiagnostics := "配置" }

theorem reads_back_as_written_strange : strange.timeoutSeconds = some (UInt64.size - 1) ∧
    ofToml strange.render = .ok strange ∧ ofToml (header ++ strange.render) = .ok strange := by
  refine ⟨rfl, reads_back_as_written strange ?_⟩
  intro seconds chosen
  cases chosen
  decide

end Acceptance.Config
