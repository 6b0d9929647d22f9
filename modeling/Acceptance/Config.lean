import Acceptance.Case
import Acceptance.Text.Blank

namespace Acceptance

structure Config where
  language : Option String := none
  testsDir : String := "tests"
  compiler : String := "python3 ./FRISCGenerator.py \x7bprogram\x7d"
  vm : String := "node vm/main.js"
  diff : String := "diff \x7bactual\x7d \x7bexpected\x7d"
  hint : String := "nr compiler:watch \x7binput\x7d"
  -- The bound on every collaborator; unset means to wait for as long as it takes.
  timeoutSeconds : Option Nat := none
  sortCases : Bool := false
  layout : Layout := {}
  deriving DecidableEq, Repr

namespace Config

def defaultFile : String := "GoldenRunner.toml"

def builtinComparator : String := "builtin"

def usesBuiltin (config : Config) : Bool :=
  Text.trim config.diff.toList == builtinComparator.toList

end Config
end Acceptance
