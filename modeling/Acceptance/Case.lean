import Acceptance.Path
import Acceptance.Text.Names

namespace Acceptance

-- A case is a directory with six files whose names the layout gives.

structure Layout where
  specInput : String := "spec-input"
  input : String := "test.in"
  expected : String := "test.out"
  program : String := "a.frisc"
  actualOutput : String := "my.out"
  actualDiagnostics : String := "my.err"
  deriving DecidableEq, Repr, Inhabited

-- The names that the texts of a layout spell.
def Layout.asNames (layout : Layout) : Layout where
  specInput := Text.ofText layout.specInput
  input := Text.ofText layout.input
  expected := Text.ofText layout.expected
  program := Text.ofText layout.program
  actualOutput := Text.ofText layout.actualOutput
  actualDiagnostics := Text.ofText layout.actualDiagnostics

structure Case where
  name : String
  dir : String
  specInput : String
  input : String
  expected : String
  program : String
  actualOutput : String
  actualDiagnostics : String
  deriving DecidableEq, Repr

def Case.ofDirectory (name dir : String) (layout : Layout) : Case where
  name := name
  dir := dir
  specInput := Path.join dir layout.specInput
  input := Path.join dir layout.input
  expected := Path.join dir layout.expected
  program := Path.join dir layout.program
  actualOutput := Path.join dir layout.actualOutput
  actualDiagnostics := Path.join dir layout.actualDiagnostics

end Acceptance
