import Mathlib.Data.List.Forall2
import Mathlib.Data.List.Perm.Basic
import Acceptance.Proofs.ConfigRoundTrip
import Acceptance.Proofs.DistinctKeys

namespace Acceptance.Config

open Toml (Value Keyed)

-- What a configuration may say, and what it then is. A table is accepted if every key is known
-- and has a value of its kind; a setting is what its key says, or its default.

variable {entries other : List (String × Value)} {key : String} {value : Value}

theorem sortEntries_perm (keyed : Keyed entries) (permuted : entries.Perm other) :
    sortEntries other = sortEntries entries :=
  sortEntries_unique (keyed.perm permuted) ((sortEntries_self entries).trans permuted)
    (sortEntries_rising entries)

def held {α : Type} (entries : List (String × Value)) (key : String) (read : Value → Option α)
    (unset : α) : α :=
  ((entries.lookup key).bind read).getD unset

section Held

variable {α : Type} {read : Value → Option α} {unset : α} {name : String}

theorem held_other (different : key ≠ name) :
    held ((name, value) :: entries) key read unset = held entries key read unset := by
  rw [held, List.lookup_cons, beq_false_of_ne different, held]

theorem held_own (fresh : key ∉ entries.map Prod.fst) {content : α}
    (reads : read value = some content) :
    held ((key, value) :: entries) key read unset = held entries key read content := by
  have absent : entries.lookup key = none := by
    refine List.lookup_eq_none_iff.mpr fun entry member => bne_iff_ne.mpr fun same => ?_
    exact fresh (List.mem_map.mpr ⟨entry, member, same.symm⟩)
  simp [held, absent, reads]

theorem held_congr (same : other.lookup key = entries.lookup key) :
    held other key read unset = held entries key read unset := by
  rw [held, same, held]

end Held

section Fields

variable {State : Type} {set : State → String → Value → Except Problem State}
  {overlay : List (String × Value) → State → State} {Fits : String → Value → Prop}

def setEntries (set : State → String → Value → Except Problem State)
    (entries : List (String × Value)) (start : State) : Except Problem State :=
  entries.foldlM (fun state entry => set state entry.1 entry.2) start

-- If an entry that fits is all that can be set, and setting it first is the same as having it in
-- the table, then the table is accepted if all of it fits, and it is what is laid over the start.
theorem setEntries_ok_iff
    (accepted : ∀ entry ∈ entries, ∀ state,
      (∃ next, set state entry.1 entry.2 = .ok next) ↔ Fits entry.1 entry.2)
    (laid : ∀ entry ∈ entries, ∀ {state next}, set state entry.1 entry.2 = .ok next →
      ∀ below : List (String × Value), entry.1 ∉ below.map Prod.fst →
        overlay (entry :: below) state = overlay below next)
    (none : ∀ state, overlay [] state = state) (keyed : Keyed entries) (start after : State) :
    setEntries set entries start = .ok after ↔
      (∀ entry ∈ entries, Fits entry.1 entry.2) ∧ after = overlay entries start := by
  induction entries generalizing start with
  | nil =>
      rw [none]
      constructor
      · intro done
        cases done
        simp
      · rintro ⟨-, rfl⟩
        rfl
  | cons entry entries ih =>
      obtain ⟨fresh, keyed⟩ := List.nodup_cons.mp keyed
      obtain ⟨accepts, accepted⟩ := List.forall_mem_cons.mp accepted
      obtain ⟨lays, laid⟩ := List.forall_mem_cons.mp laid
      have first : setEntries set (entry :: entries) start =
        set start entry.1 entry.2 >>= setEntries set entries := rfl
      rw [first, List.forall_mem_cons, ← accepts start]
      cases taken : set start entry.1 entry.2 with
      | error cause => simp [bind, Except.bind]
      | ok next =>
          have rest := ih accepted laid keyed next
          rw [lays taken entries fresh]
          simpa [bind, Except.bind] using rest

end Fields

def text? : Value → Option String
  | .text content => some content
  | _ => none

def boolean? : Value → Option Bool
  | .boolean value => some value
  | _ => none

def natural? : Value → Option Nat
  | .integer value => some value.toNat
  | _ => none

theorem text_ok_iff {wanted content : String} :
    text wanted value = .ok content ↔ value = .text content := by
  cases value <;> simp [text]

theorem boolean_ok_iff {flag : Bool} : boolean value = .ok flag ↔ value = .boolean flag := by
  cases value <;> simp [boolean]

theorem natural_ok_iff {number : Nat} :
    natural value = .ok number ↔ value = .integer number ∧ number < UInt64.size := by
  constructor
  · intro read
    cases value with
    | integer value =>
        rw [natural] at read
        split at read
        · next range =>
          cases read
          rw [Int.toNat_of_nonneg range.1]
          exact ⟨rfl, by omega⟩
        · cases read
    | _ => cases read
  · rintro ⟨rfl, bound⟩
    exact natural_seconds bound

def layoutOver (entries : List (String × Value)) (layout : Layout) : Layout where
  specInput := held entries "spec_input" text? layout.specInput
  input := held entries "input" text? layout.input
  expected := held entries "expected" text? layout.expected
  program := held entries "program" text? layout.program
  actualOutput := held entries "actual_output" text? layout.actualOutput
  actualDiagnostics := held entries "actual_diagnostics" text? layout.actualDiagnostics

def LayoutFits (key : String) (value : Value) : Prop :=
  key ∈ layoutFields ∧ ∃ content, value = .text content

inductive LayoutSets (layout : Layout) : String → String → Layout → Prop where
  | specInput (name : String) :
      LayoutSets layout "spec_input" name { layout with specInput := name }
  | input (name : String) : LayoutSets layout "input" name { layout with input := name }
  | expected (name : String) : LayoutSets layout "expected" name { layout with expected := name }
  | program (name : String) : LayoutSets layout "program" name { layout with program := name }
  | actualOutput (name : String) :
      LayoutSets layout "actual_output" name { layout with actualOutput := name }
  | actualDiagnostics (name : String) :
      LayoutSets layout "actual_diagnostics" name { layout with actualDiagnostics := name }

theorem setLayoutField_ok_iff {layout next : Layout} : setLayoutField layout key value = .ok next ↔
    ∃ name, value = .text name ∧ LayoutSets layout key name next := by
  constructor
  · intro done
    cases value with
    | text name =>
        refine ⟨name, rfl, ?_⟩
        unfold setLayoutField at done
        split at done <;> cases done <;> constructor
    | _ =>
        unfold setLayoutField at done
        split at done <;> cases done
  · rintro ⟨name, rfl, sets⟩
    cases sets <;> rfl

theorem LayoutSets.laid {layout next : Layout} {name : String} {below : List (String × Value)}
    (sets : LayoutSets layout key name next) (fresh : key ∉ below.map Prod.fst) :
    layoutOver ((key, .text name) :: below) layout = layoutOver below next := by
  have reads : text? (.text name) = some name := rfl
  cases sets <;> simp [layoutOver, held_other, held_own fresh reads]

theorem setLayoutField_accepts (layout : Layout) :
    (∃ next, setLayoutField layout key value = .ok next) ↔ LayoutFits key value := by
  constructor
  · rintro ⟨next, done⟩
    obtain ⟨name, rfl, sets⟩ := setLayoutField_ok_iff.mp done
    refine ⟨?_, name, rfl⟩
    cases sets <;> decide
  · rintro ⟨member, name, rfl⟩
    simp only [layoutFields, List.mem_cons, List.not_mem_nil, or_false] at member
    rcases member with rfl | rfl | rfl | rfl | rfl | rfl <;> exact ⟨_, rfl⟩

theorem layoutOver_congr (same : ∀ key, other.lookup key = entries.lookup key) (layout : Layout) :
    layoutOver other layout = layoutOver entries layout := by
  simp only [layoutOver, held_congr (same _)]

theorem layoutOf_table_ok_iff (keyed : Keyed entries) {layout : Layout} :
    layoutOf (.table entries) = .ok layout ↔
      (∀ entry ∈ entries, LayoutFits entry.1 entry.2) ∧ layout = layoutOver entries {} := by
  have sorted := sortEntries_self entries
  have laid : ∀ entry ∈ sortEntries entries, ∀ {state next},
      setLayoutField state entry.1 entry.2 = .ok next →
        ∀ below : List (String × Value), entry.1 ∉ below.map Prod.fst →
          layoutOver (entry :: below) state = layoutOver below next := by
    rintro ⟨key, value⟩ - state next done below fresh
    obtain ⟨name, rfl, sets⟩ := setLayoutField_ok_iff.mp done
    exact sets.laid fresh
  have decoded : layoutOf (.table entries) =
    setEntries setLayoutField (sortEntries entries) {} := rfl
  rw [decoded, setEntries_ok_iff (fun entry _ state => setLayoutField_accepts state) laid
    (fun _ => rfl) (keyed.perm sorted.symm), layoutOver_congr (keyed.lookup_perm sorted.symm)]
  simp only [sorted.mem_iff]

inductive Kind where
  | text
  | boolean
  | natural
  | layout
  deriving DecidableEq

def schema : List (String × Kind) :=
  [("language", .text), ("tests_dir", .text), ("compiler", .text), ("vm", .text), ("diff", .text),
    ("hint", .text), ("timeout_secs", .natural), ("sort_cases", .boolean), ("layout", .layout)]

example : schema.map Prod.fst = fields := rfl

def Kind.Fits : Kind → Value → Prop
  | .text, value => ∃ content, value = .text content
  | .boolean, value => ∃ flag, value = .boolean flag
  | .natural, value => ∃ number : Nat, value = .integer number ∧ number < UInt64.size
  | .layout, value => ∃ inside, value = .table inside ∧ ∀ entry ∈ inside, LayoutFits entry.1 entry.2

def Fits (key : String) (value : Value) : Prop :=
  ∃ kind, (key, kind) ∈ schema ∧ kind.Fits value

theorem fits_layout_iff :
    Fits "layout" (.table entries) ↔ ∀ entry ∈ entries, LayoutFits entry.1 entry.2 := by
  constructor
  · rintro ⟨kind, known, fits⟩
    have same : kind = .layout := by simpa [schema] using known
    subst same
    obtain ⟨inside, same, fits⟩ := fits
    cases same
    exact fits
  · intro fits
    exact ⟨.layout, by decide, entries, rfl, fits⟩

def layout? : Value → Option Layout
  | .table inside => some (layoutOver inside {})
  | _ => none

def optional {α : Type} (read : Value → Option α) (value : Value) : Option (Option α) :=
  (read value).map some

def configOver (entries : List (String × Value)) (config : Config) : Config where
  language := held entries "language" (optional text?) config.language
  testsDir := held entries "tests_dir" text? config.testsDir
  compiler := held entries "compiler" text? config.compiler
  vm := held entries "vm" text? config.vm
  diff := held entries "diff" text? config.diff
  hint := held entries "hint" text? config.hint
  timeoutSeconds := held entries "timeout_secs" (optional natural?) config.timeoutSeconds
  sortCases := held entries "sort_cases" boolean? config.sortCases
  layout := held entries "layout" layout? config.layout

inductive Sets (config : Config) : String → Value → Config → Prop where
  | language (name : String) :
      Sets config "language" (.text name) { config with language := some name }
  | testsDir (path : String) : Sets config "tests_dir" (.text path) { config with testsDir := path }
  | compiler (command : String) :
      Sets config "compiler" (.text command) { config with compiler := command }
  | vm (command : String) : Sets config "vm" (.text command) { config with vm := command }
  | diff (command : String) : Sets config "diff" (.text command) { config with diff := command }
  | hint (command : String) : Sets config "hint" (.text command) { config with hint := command }
  | timeoutSeconds (seconds : Nat) (bound : seconds < UInt64.size) :
      Sets config "timeout_secs" (.integer seconds) { config with timeoutSeconds := some seconds }
  | sortCases (flag : Bool) :
      Sets config "sort_cases" (.boolean flag) { config with sortCases := flag }
  | layout {value : Value} {layout : Layout} (read : layoutOf value = .ok layout) :
      Sets config "layout" value { config with layout }

theorem bind_ok_iff {α β : Type} {result : Except Problem α} {build : α → β} {next : β} :
    (do return build (← result)) = Except.ok next ↔
      ∃ content, result = .ok content ∧ build content = next := by
  cases result <;> simp [bind, Except.bind, pure, Except.pure]

theorem setField_ok_iff {config next : Config} :
    setField config key value = .ok next ↔ Sets config key value next := by
  constructor
  · intro done
    unfold setField at done
    split at done
    -- The bound, the order, the layout and an unknown key come behind the texts.
    case h_7 =>
      obtain ⟨seconds, read, rfl⟩ := bind_ok_iff.mp done
      obtain ⟨rfl, bound⟩ := natural_ok_iff.mp read
      exact .timeoutSeconds seconds bound
    case h_8 =>
      obtain ⟨flag, read, rfl⟩ := bind_ok_iff.mp done
      cases boolean_ok_iff.mp read
      exact .sortCases flag
    case h_9 =>
      obtain ⟨layout, read, rfl⟩ := bind_ok_iff.mp done
      exact .layout read
    case h_10 => cases done
    all_goals
      obtain ⟨content, read, rfl⟩ := bind_ok_iff.mp done
      cases text_ok_iff.mp read
      constructor
  · intro sets
    cases sets with
    | timeoutSeconds seconds bound => exact setField_timeout config bound
    | layout read => rw [setField, read]; rfl
    | _ => rfl

def LayoutTabled (key : String) (value : Value) : Prop :=
  key = "layout" → ∃ inside, value = .table inside ∧ Keyed inside

theorem Sets.laid {config next : Config} {below : List (String × Value)}
    (sets : Sets config key value next) (tabled : LayoutTabled key value)
    (fresh : key ∉ below.map Prod.fst) :
    configOver ((key, value) :: below) config = configOver below next := by
  cases sets with
  | layout read =>
      obtain ⟨inside, rfl, keyed⟩ := tabled rfl
      obtain ⟨-, rfl⟩ := (layoutOf_table_ok_iff keyed).mp read
      have reads : layout? (.table inside) = some (layoutOver inside {}) := rfl
      simp [configOver, held_other, held_own fresh reads]
  | timeoutSeconds seconds bound =>
      have reads : optional natural? (.integer seconds) = some (some seconds) := rfl
      simp [configOver, held_other, held_own fresh reads]
  | sortCases flag =>
      have reads : boolean? (.boolean flag) = some flag := rfl
      simp [configOver, held_other, held_own fresh reads]
  | language name =>
      have reads : optional text? (.text name) = some (some name) := rfl
      simp [configOver, held_other, held_own fresh reads]
  | _ content =>
      have reads : text? (.text content) = some content := rfl
      simp [configOver, held_other, held_own fresh reads]

theorem setField_accepts (tabled : LayoutTabled key value) (config : Config) :
    (∃ next, setField config key value = .ok next) ↔ Fits key value := by
  simp only [setField_ok_iff]
  constructor
  · rintro ⟨next, sets⟩
    cases sets with
    | layout read =>
        obtain ⟨inside, rfl, keyed⟩ := tabled rfl
        obtain ⟨fits, -⟩ := (layoutOf_table_ok_iff keyed).mp read
        exact ⟨.layout, by decide, inside, rfl, fits⟩
    | timeoutSeconds seconds bound => exact ⟨.natural, by decide, seconds, rfl, bound⟩
    | sortCases flag => exact ⟨.boolean, by decide, flag, rfl⟩
    | _ content => exact ⟨.text, by decide, content, rfl⟩
  · rintro ⟨kind, known, fits⟩
    cases kind with
    | text =>
        obtain ⟨content, rfl⟩ := fits
        have named : key ∈ ["language", "tests_dir", "compiler", "vm", "diff", "hint"] := by
          simpa [schema] using known
        simp only [List.mem_cons, List.not_mem_nil, or_false] at named
        rcases named with rfl | rfl | rfl | rfl | rfl | rfl <;> exact ⟨_, by constructor⟩
    | boolean =>
        obtain ⟨flag, rfl⟩ := fits
        obtain rfl : key = "sort_cases" := by simpa [schema] using known
        exact ⟨_, .sortCases flag⟩
    | natural =>
        obtain ⟨seconds, rfl, bound⟩ := fits
        obtain rfl : key = "timeout_secs" := by simpa [schema] using known
        exact ⟨_, .timeoutSeconds seconds bound⟩
    | layout =>
        obtain ⟨inside, rfl, fits⟩ := fits
        obtain rfl : key = "layout" := by simpa [schema] using known
        obtain ⟨table, same, keyed⟩ := tabled rfl
        cases same
        exact ⟨_, .layout ((layoutOf_table_ok_iff keyed).mpr ⟨fits, rfl⟩)⟩

structure Tabular (entries : List (String × Value)) : Prop where
  keyed : Keyed entries
  tabled : ∀ entry ∈ entries, LayoutTabled entry.1 entry.2

theorem Tabular.perm (tabular : Tabular entries) (permuted : entries.Perm other) :
    Tabular other :=
  ⟨tabular.keyed.perm permuted, fun entry member =>
    tabular.tabled entry (permuted.symm.subset member)⟩

def Conforms (entries : List (String × Value)) : Prop :=
  ∀ entry ∈ entries, Fits entry.1 entry.2

theorem configOver_congr (same : ∀ key, other.lookup key = entries.lookup key) (config : Config) :
    configOver other config = configOver entries config := by
  simp only [configOver, held_congr (same _)]

theorem decode_ok_iff (tabular : Tabular entries) {config : Config} :
    decode entries = .ok config ↔ Conforms entries ∧ config = configOver entries {} := by
  have sorted := sortEntries_self entries
  have tabled : ∀ entry ∈ sortEntries entries, LayoutTabled entry.1 entry.2 := fun entry member =>
    tabular.tabled entry (sorted.subset member)
  have laid : ∀ entry ∈ sortEntries entries, ∀ {state next},
      setField state entry.1 entry.2 = .ok next →
        ∀ below : List (String × Value), entry.1 ∉ below.map Prod.fst →
          configOver (entry :: below) state = configOver below next := by
    intro entry member state next done below fresh
    exact (setField_ok_iff.mp done).laid (tabled entry member) fresh
  have decoded : decode entries = setEntries setField (sortEntries entries) {} := rfl
  rw [decoded, setEntries_ok_iff (fun entry member => setField_accepts (tabled entry member)) laid
    (fun _ => rfl) (tabular.keyed.perm sorted.symm),
    configOver_congr (tabular.keyed.lookup_perm sorted.symm), Conforms]
  simp only [sorted.mem_iff]

theorem ofToml_ok_iff {content : String} (parsed : Toml.parse? content.toList = some entries)
    {config : Config} : ofToml content = .ok config ↔ decode entries = .ok config := by
  rw [ofToml, parsed]
  dsimp only
  cases decode entries with
  | ok found => simp
  | error cause =>
      dsimp only
      split <;> simp

theorem tabular_of_parse {text : List Char} (parsed : Toml.parse? text = some entries)
    (tables : ∀ value, ("layout", value) ∈ entries → ∃ inside, value = .table inside) :
    Tabular entries := by
  cases Toml.parse_tidy parsed with
  | table keyed inside =>
      refine ⟨keyed, ?_⟩
      rintro ⟨key, value⟩ member rfl
      obtain ⟨inner, rfl⟩ := tables value member
      cases inside _ member with
      | table keyed _ => exact ⟨inner, rfl, keyed⟩

inductive Rearranged : String × Value → String × Value → Prop where
  | same (entry : String × Value) : Rearranged entry entry
  | layout {inside inside' : List (String × Value)} (permuted : inside.Perm inside') :
      Rearranged ("layout", .table inside) ("layout", .table inside')

def Reordered (entries other : List (String × Value)) : Prop :=
  ∃ middle, entries.Perm middle ∧ List.Forall₂ Rearranged middle other

theorem Rearranged.same_key {left right : String × Value} (rearranged : Rearranged left right) :
    left.1 = right.1 := by
  cases rearranged <;> rfl

theorem layoutOf_perm (keyed : Keyed entries) (permuted : entries.Perm other) :
    layoutOf (.table other) = layoutOf (.table entries) := by
  rw [layoutOf, layoutOf, sortEntries_perm keyed permuted]

theorem Rearranged.setField {left right : String × Value} (rearranged : Rearranged left right)
    (tabled : LayoutTabled left.1 left.2) (config : Config) :
    setField config right.1 right.2 = setField config left.1 left.2 := by
  cases rearranged with
  | same => rfl
  | layout permuted =>
      obtain ⟨inside, same, keyed⟩ := tabled rfl
      cases same
      simp only [Config.setField, layoutOf_perm keyed permuted]

theorem rearranged_keys (rearranged : List.Forall₂ Rearranged entries other) :
    other.map Prod.fst = entries.map Prod.fst := by
  induction rearranged with
  | nil => rfl
  | cons first _ ih => rw [List.map_cons, List.map_cons, ih, first.same_key]

theorem setEntries_rearranged (rearranged : List.Forall₂ Rearranged entries other)
    (tabled : ∀ entry ∈ entries, LayoutTabled entry.1 entry.2) (config : Config) :
    setEntries setField other config = setEntries setField entries config := by
  induction rearranged generalizing config with
  | nil => rfl
  | cons first _ ih =>
      obtain ⟨here, below⟩ := List.forall_mem_cons.mp tabled
      simp only [setEntries, List.foldlM_cons] at ih ⊢
      rw [first.setField here]
      simp only [ih below]

theorem sortEntries_rearranged (keyed : Keyed entries)
    (rearranged : List.Forall₂ Rearranged entries other) :
    List.Forall₂ Rearranged (sortEntries entries) (sortEntries other) := by
  obtain ⟨sorted, rearranged', permuted⟩ :=
    List.perm_comp_forall₂ (sortEntries_self entries) rearranged
  have keyed' : Keyed other := by
    rwa [Keyed, rearranged_keys rearranged]
  have rising : sorted.Pairwise fun left right => left.1 ≤ right.1 := by
    have risen := sortEntries_rising entries
    rw [← List.pairwise_map (f := Prod.fst) (R := (· ≤ ·))] at risen ⊢
    rwa [rearranged_keys rearranged']
  rwa [sortEntries_unique keyed' permuted rising]

theorem decode_reordered (tabular : Tabular entries) (reordered : Reordered entries other) :
    decode other = decode entries := by
  obtain ⟨middle, permuted, rearranged⟩ := reordered
  have keyed : Keyed middle := tabular.keyed.perm permuted
  have tabled : ∀ entry ∈ sortEntries middle, LayoutTabled entry.1 entry.2 := fun entry member =>
    tabular.tabled entry (permuted.symm.subset ((sortEntries_self middle).subset member))
  calc decode other
    _ = setEntries setField (sortEntries other) {} := rfl
    _ = setEntries setField (sortEntries middle) {} :=
      setEntries_rearranged (sortEntries_rearranged keyed rearranged) tabled {}
    _ = decode entries := by
      rw [sortEntries_perm tabular.keyed permuted]
      rfl

theorem settingValue_over {field : String} (same : other.lookup field = entries.lookup field)
    (config : Config) :
    settingValue? (configOver other config) field =
      settingValue? (configOver entries config) field := by
  unfold settingValue?
  split <;> simp only [configOver, held_congr same]

theorem layoutValue_over {field : String} (same : other.lookup field = entries.lookup field)
    (layout : Layout) :
    layoutValue? (layoutOver other layout) field =
      layoutValue? (layoutOver entries layout) field := by
  unfold layoutValue?
  split <;> simp only [layoutOver, held_congr same]

-- A table with an entry for a key that it did not have, wherever it stands.
structure Extends (entries : List (String × Value)) (key : String) (value : Value)
    (other : List (String × Value)) : Prop where
  absent : key ∉ entries.map Prod.fst
  added : other.Perm ((key, value) :: entries)

theorem Extends.keyed (extended : Extends entries key value other) (keyed : Keyed entries) :
    Keyed other := by
  have keyed' : Keyed ((key, value) :: entries) := List.nodup_cons.mpr ⟨extended.absent, keyed⟩
  exact keyed'.perm extended.added.symm

theorem Extends.lookup (extended : Extends entries key value other) (keyed : Keyed entries)
    {field : String} (different : field ≠ key) : other.lookup field = entries.lookup field := by
  rw [((extended.keyed keyed).perm extended.added).lookup_perm extended.added.symm,
    List.lookup_cons, beq_false_of_ne different]

theorem Extends.forall_mem {P : String × Value → Prop} (extended : Extends entries key value other)
    (first : P (key, value)) (rest : ∀ entry ∈ entries, P entry) : ∀ entry ∈ other, P entry := by
  intro entry member
  exact List.forall_mem_cons.mpr ⟨first, rest⟩ entry (extended.added.subset member)

theorem decode_extended (tabular : Tabular entries) {config : Config}
    (decoded : decode entries = .ok config) (extended : Extends entries key value other)
    (fits : Fits key value) (tabled : LayoutTabled key value) :
    ∃ after, decode other = .ok after ∧
      ∀ field, field ≠ key → settingValue? after field = settingValue? config field := by
  obtain ⟨conforms, rfl⟩ := (decode_ok_iff tabular).mp decoded
  have tabular' : Tabular other :=
    ⟨extended.keyed tabular.keyed, extended.forall_mem tabled tabular.tabled⟩
  refine ⟨configOver other {}, (decode_ok_iff tabular').mpr ⟨?_, rfl⟩, ?_⟩
  · exact extended.forall_mem fits conforms
  · intro field different
    exact settingValue_over (extended.lookup tabular.keyed different) {}

theorem decode_layout_extended (tabular : Tabular entries) {config : Config}
    (decoded : decode entries = .ok config) {rest inside inside' : List (String × Value)}
    (present : entries.Perm (("layout", .table inside) :: rest))
    (extended : Extends inside key value inside') (fits : LayoutFits key value)
    (changed : other.Perm (("layout", .table inside') :: rest)) :
    ∃ after, decode other = .ok after ∧
      (∀ field, field ≠ "layout" → settingValue? after field = settingValue? config field) ∧
      ∀ field, field ≠ key →
        layoutValue? after.layout field = layoutValue? config.layout field := by
  have whole := tabular.perm present
  obtain ⟨conforms, rfl⟩ := (decode_ok_iff tabular).mp decoded
  obtain ⟨layoutFits, conforms⟩ := List.forall_mem_cons.mp fun entry member =>
    conforms entry (present.symm.subset member)
  obtain ⟨layoutTabled, tabled⟩ := List.forall_mem_cons.mp whole.tabled
  obtain ⟨table, same, keyed⟩ := layoutTabled rfl
  cases same
  have tabular' : Tabular (("layout", .table inside') :: rest) :=
    ⟨whole.keyed, List.forall_mem_cons.mpr ⟨fun _ => ⟨inside', rfl, extended.keyed keyed⟩, tabled⟩⟩
  have fits' : Fits "layout" (.table inside') :=
    fits_layout_iff.mpr (extended.forall_mem fits (fits_layout_iff.mp layoutFits))
  have conforms' : Conforms (("layout", .table inside') :: rest) :=
    List.forall_mem_cons.mpr ⟨fits', conforms⟩
  have lookup := whole.keyed.lookup_perm present.symm
  have lookup' := tabular'.keyed.lookup_perm changed.symm
  refine ⟨configOver other {}, (decode_ok_iff (tabular'.perm changed.symm)).mpr ⟨?_, rfl⟩, ?_, ?_⟩
  · intro entry member
    exact conforms' entry (changed.subset member)
  · intro field different
    refine settingValue_over ?_ {}
    rw [lookup', lookup, List.lookup_cons, List.lookup_cons, beq_false_of_ne different]
  · intro field different
    rw [configOver_congr lookup', configOver_congr lookup]
    exact layoutValue_over (extended.lookup keyed different) {}

theorem decodes_exactly_schema :
    (∀ (content : String) entries, Toml.parse? content.toList = some entries →
      (∀ value, ("layout", value) ∈ entries → ∃ inside, value = .table inside) →
      ∀ config, ofToml content = .ok config ↔ Conforms entries ∧ config = configOver entries {}) ∧
    ∀ entries, Tabular entries →
      (∀ config, decode entries = .ok config ↔
        Conforms entries ∧ config = configOver entries {}) ∧
      (∀ other, Reordered entries other → decode other = decode entries) ∧
      (∀ config, decode entries = .ok config →
        (∀ key value other, Extends entries key value other → Fits key value →
          LayoutTabled key value →
          ∃ after, decode other = .ok after ∧
            ∀ field, field ≠ key → settingValue? after field = settingValue? config field) ∧
        ∀ inside rest key value inside' other, entries.Perm (("layout", .table inside) :: rest) →
          Extends inside key value inside' → LayoutFits key value →
          other.Perm (("layout", .table inside') :: rest) →
          ∃ after, decode other = .ok after ∧
            (∀ field, field ≠ "layout" → settingValue? after field = settingValue? config field) ∧
            ∀ field, field ≠ key →
              layoutValue? after.layout field = layoutValue? config.layout field) := by
  constructor
  · intro content entries parsed tables config
    rw [ofToml_ok_iff parsed, decode_ok_iff (tabular_of_parse parsed tables)]
  · intro entries tabular
    refine ⟨fun config => decode_ok_iff tabular, fun other => decode_reordered tabular, ?_⟩
    intro config decoded
    constructor
    · intro key value other extended fits tabled
      exact decode_extended tabular decoded extended fits tabled
    · intro inside rest key value inside' other present extended fits changed
      exact decode_layout_extended tabular decoded present extended fits changed

def sparse : List (String × Value) :=
  [("timeout_secs", .integer 18446744073709551615), ("layout", .table [("program", .text "a.S")])]

def sparseConfig : Config where
  timeoutSeconds := some 18446744073709551615
  layout := { program := "a.S" }

def fuller : List (String × Value) :=
  [("layout", .table [("input", .text "in"), ("program", .text "a.S")]),
    ("timeout_secs", .integer 18446744073709551615)]

theorem timeout_fits : Fits "timeout_secs" (.integer 18446744073709551615) :=
  ⟨.natural, by decide, 18446744073709551615, rfl, by decide⟩

theorem sparse_tabular : Tabular sparse := by
  constructor
  · simp [sparse, Keyed]
  · simp [sparse, LayoutTabled, Keyed]

theorem sparse_conforms : Conforms sparse := by
  have layout : Fits "layout" (.table [("program", .text "a.S")]) :=
    fits_layout_iff.mpr (by simp [LayoutFits, layoutFields])
  simp [Conforms, sparse, timeout_fits, layout]

theorem sparse_written : Conforms (writtenEntries sparseConfig) := by
  have text : ∀ key content, (key, Kind.text) ∈ schema → Fits key (.text content) :=
    fun key content known => ⟨.text, known, content, rfl⟩
  have sort : Fits "sort_cases" (.boolean false) := ⟨.boolean, by decide, false, rfl⟩
  have layout : Fits "layout" (.table (textEntries (layoutTexts sparseConfig.layout))) :=
    fits_layout_iff.mpr (by simp [LayoutFits, layoutFields, textEntries, layoutTexts])
  rintro entry member
  simp only [writtenEntries, settingEntries, languageEntry, timeoutEntry, sortEntry, settingTexts,
    textEntries, sparseConfig, List.map_cons, List.map_nil, Option.map_none, Option.map_some,
    Option.toList_none, Option.toList_some, List.nil_append, List.cons_append, List.mem_cons,
    List.not_mem_nil, or_false] at member
  rcases member with rfl | rfl | rfl | rfl | rfl | rfl | rfl | rfl
  case inr.inr.inr.inr.inr.inl => exact timeout_fits
  case inr.inr.inr.inr.inr.inr.inl => exact sort
  case inr.inr.inr.inr.inr.inr.inr => exact layout
  all_goals exact text _ _ (by decide)

theorem decodes_exactly_schema_sparse :
    ofToml sparseConfig.render = .ok sparseConfig ∧
    decode sparse = .ok sparseConfig ∧ decode sparse.reverse = .ok sparseConfig ∧
    (∃ after, decode (("vm", .text "run") :: sparse) = .ok after ∧
      settingValue? after "timeout_secs" = some (.integer 18446744073709551615)) ∧
    ∃ after, decode fuller = .ok after ∧
      layoutValue? after.layout "program" = some (.text "a.S") := by
  obtain ⟨document, tables⟩ := decodes_exactly_schema
  obtain ⟨accepted, reordered, extended⟩ := tables sparse sparse_tabular
  have decoded : decode sparse = .ok sparseConfig := (accepted _).mpr ⟨sparse_conforms, rfl⟩
  obtain ⟨setting, name⟩ := extended sparseConfig decoded
  refine ⟨?_, decoded, ?_, ?_, ?_⟩
  · have parsed : Toml.parse? sparseConfig.render.toList = some (writtenEntries sparseConfig) :=
      parse_written (by rw [render_unmarked, (render_lines sparseConfig).skipTrivia])
    refine (document _ _ parsed ?_ _).mpr ⟨sparse_written, rfl⟩
    simp [writtenEntries, settingEntries, languageEntry, timeoutEntry, sortEntry, settingTexts,
      textEntries, sparseConfig]
  · rw [reordered sparse.reverse ⟨_, (List.reverse_perm sparse).symm, ?_⟩, decoded]
    exact List.forall₂_same.mpr fun entry _ => .same entry
  · have added : Extends sparse "vm" (.text "run") (("vm", .text "run") :: sparse) :=
      ⟨by decide, .refl _⟩
    have fits : Fits "vm" (.text "run") := ⟨.text, by decide, "run", rfl⟩
    obtain ⟨after, done, kept⟩ := setting _ _ _ added fits (by simp [LayoutTabled])
    exact ⟨after, done, kept "timeout_secs" (by decide)⟩
  · have present : sparse.Perm (("layout", .table [("program", .text "a.S")]) ::
      [("timeout_secs", .integer 18446744073709551615)]) := .swap ..
    have added : Extends [("program", .text "a.S")] "input" (.text "in")
        [("input", .text "in"), ("program", .text "a.S")] := ⟨by decide, .refl _⟩
    have fits : LayoutFits "input" (.text "in") := ⟨by decide, "in", rfl⟩
    obtain ⟨after, done, -, kept⟩ := name _ _ _ _ _ fuller present added fits (.refl _)
    exact ⟨after, done, kept "program" (by decide)⟩

end Acceptance.Config
