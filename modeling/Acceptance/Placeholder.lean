import Acceptance.Case
import Acceptance.Text.Names
import Acceptance.Text.Replace

namespace Acceptance

-- Placeholders such as `{program}` in command lines and hints.

inductive Placeholder where
  | case
  | dir
  | spec
  | input
  | expected
  | program
  | actual
  | diagnostics
  deriving DecidableEq, Repr

namespace Placeholder

def all : List Placeholder :=
  [.case, .dir, .spec, .input, .expected, .program, .actual, .diagnostics]

def key : Placeholder → String
  | .case => "\x7bcase\x7d"
  | .dir => "\x7bdir\x7d"
  | .spec => "\x7bspec\x7d"
  | .input => "\x7binput\x7d"
  | .expected => "\x7bexpected\x7d"
  | .program => "\x7bprogram\x7d"
  | .actual => "\x7bactual\x7d"
  | .diagnostics => "\x7bdiagnostics\x7d"

def value (case : Case) : Placeholder → String
  | .case => case.name
  | .dir => Text.shown case.dir
  | .spec => Text.shown case.specInput
  | .input => Text.shown case.input
  | .expected => Text.shown case.expected
  | .program => Text.shown case.program
  | .actual => Text.shown case.actualOutput
  | .diagnostics => Text.shown case.actualDiagnostics

end Placeholder

abbrev Bindings := List (List Char × List Char)

namespace Bindings

def ofCase (case : Case) : Bindings :=
  Placeholder.all.map fun placeholder =>
    (placeholder.key.toList, (placeholder.value case).toList)

def apply (bindings : Bindings) (text : List Char) : List Char :=
  bindings.foldl (fun text (key, value) => Text.replaceAll key value text) text

-- The text with every known placeholder replaced; other braces stay.
def substitute (bindings : Bindings) (text : String) : String :=
  String.ofList (bindings.apply text.toList)

end Bindings
end Acceptance
