import Acceptance.Config
import Acceptance.Toml.Writer

namespace Acceptance.Config

def entryLine (key : String) (written : List Char) : List Char :=
  key.toList ++ [' ', '=', ' '] ++ written ++ ['\n']

def textLine (key value : String) : List Char := entryLine key (Toml.writeString value.toList)

def layoutLines (layout : Layout) : List Char :=
  textLine "spec_input" layout.specInput ++ textLine "input" layout.input ++
    textLine "expected" layout.expected ++ textLine "program" layout.program ++
    textLine "actual_output" layout.actualOutput ++
    textLine "actual_diagnostics" layout.actualDiagnostics

def optionalLine {α : Type} (line : α → List Char) : Option α → List Char
  | some value => line value
  | none => []

def settingLines (config : Config) : List Char :=
  optionalLine (textLine "language") config.language ++ textLine "tests_dir" config.testsDir ++
    textLine "compiler" config.compiler ++ textLine "vm" config.vm ++ textLine "diff" config.diff ++
    textLine "hint" config.hint ++
    optionalLine (fun seconds => entryLine "timeout_secs" (Nat.toDigits 10 seconds))
      config.timeoutSeconds ++
    entryLine "sort_cases" (if config.sortCases then "true" else "false").toList

def render (config : Config) : String :=
  String.ofList (settingLines config ++ "\n[layout]\n".toList ++ layoutLines config.layout)

end Acceptance.Config
