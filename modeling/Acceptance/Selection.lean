import Acceptance.Case

namespace Acceptance

def sortCases (cases : List Case) : List Case :=
  cases.mergeSort fun left right => decide (left.name ≤ right.name)

-- The chosen cases, and the requested names that no case has.
structure Selection where
  selected : List Case
  unknown : List String := []
  deriving DecidableEq, Repr

def Selection.ofNames (cases : List Case) (names : List String) : Selection :=
  if names.isEmpty then { selected := cases }
  else
    { selected := cases.filter fun case => names.contains case.name
      unknown := names.filter fun name => !cases.any (·.name == name) }

end Acceptance
