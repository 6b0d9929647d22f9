import Acceptance.Config
import Acceptance.Toml.Reader

namespace Acceptance.Config

open Toml (Value)

inductive Problem where
  | unknownField (name : String) (fields : List String)
  | invalidType (found : Value) (wanted : String)
  | invalidValue (found : Value) (wanted : String)

def Problem.message : Problem → String
  | .unknownField name fields =>
      s!"unknown field `{name}`, expected one of " ++
        ", ".intercalate (fields.map fun field => s!"`{field}`")
  | .invalidType found wanted => "invalid type: " ++ found.describe ++ s!", expected {wanted}"
  | .invalidValue found wanted => "invalid value: " ++ found.describe ++ s!", expected {wanted}"

inductive ReadError where
  | notADocument
  | problem (cause : Problem)

def text (wanted : String) : Value → Except Problem String
  | .text content => .ok content
  | found => .error (.invalidType found wanted)

def boolean : Value → Except Problem Bool
  | .boolean value => .ok value
  | found => .error (.invalidType found "a boolean")

def natural : Value → Except Problem Nat
  | .integer value =>
      if 0 ≤ value ∧ value < UInt64.size then .ok value.toNat
      else .error (.invalidValue (.integer value) "u64")
  | found => .error (.invalidType found "u64")

def layoutFields : List String :=
  ["spec_input", "input", "expected", "program", "actual_output", "actual_diagnostics"]

def setLayoutField (layout : Layout) (key : String) (value : Value) : Except Problem Layout :=
  match key with
  | "spec_input" => return { layout with specInput := ← text "a string" value }
  | "input" => return { layout with input := ← text "a string" value }
  | "expected" => return { layout with expected := ← text "a string" value }
  | "program" => return { layout with program := ← text "a string" value }
  | "actual_output" => return { layout with actualOutput := ← text "a string" value }
  | "actual_diagnostics" => return { layout with actualDiagnostics := ← text "a string" value }
  | _ => .error (.unknownField key layoutFields)

def sortEntries (entries : List (String × Value)) : List (String × Value) :=
  entries.mergeSort fun left right => decide (left.1 ≤ right.1)

-- A date or time counts as a table with this single key.
def momentKey : String := "$__toml_private_datetime"

def layoutOf : Value → Except Problem Layout
  | .table entries =>
      (sortEntries entries).foldlM (fun layout (key, value) => setLayoutField layout key value) {}
  | .array items =>
      (layoutFields.zip items).foldlM
        (fun layout (key, value) => setLayoutField layout key value) {}
  | .moment => .error (.unknownField momentKey layoutFields)
  | found => .error (.invalidType found "struct CaseLayout")

def fields : List String :=
  ["language", "tests_dir", "compiler", "vm", "diff", "hint", "timeout_secs", "sort_cases",
    "layout"]

def setField (config : Config) (key : String) (value : Value) : Except Problem Config :=
  match key with
  | "language" => return { config with language := some (← text "a string" value) }
  | "tests_dir" => return { config with testsDir := ← text "path string" value }
  | "compiler" => return { config with compiler := ← text "a string" value }
  | "vm" => return { config with vm := ← text "a string" value }
  | "diff" => return { config with diff := ← text "a string" value }
  | "hint" => return { config with hint := ← text "a string" value }
  | "timeout_secs" => return { config with timeoutSeconds := some (← natural value) }
  | "sort_cases" => return { config with sortCases := ← boolean value }
  | "layout" => return { config with layout := ← layoutOf value }
  | _ => .error (.unknownField key fields)

-- The configuration of a document's entries; what they do not set keeps its default.
def decode (entries : List (String × Value)) : Except Problem Config :=
  (sortEntries entries).foldlM (fun config (key, value) => setField config key value) {}

-- A number out of range is only forgiven if everything can be decoded.
def ofToml (content : String) : Except ReadError Config :=
  match Toml.parse? content.toList with
  | none => .error .notADocument
  | some entries =>
      match decode entries with
      | .ok config => .ok config
      | .error cause =>
          if Value.isExcessive (.table entries) then .error .notADocument
          else .error (.problem cause)

end Acceptance.Config
