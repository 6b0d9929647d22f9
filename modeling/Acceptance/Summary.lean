import Acceptance.Outcome

namespace Acceptance

-- The summary of a run, built by adding one record after the other.

structure Summary where
  total : Nat
  passed : Nat := 0
  compileFailed : List String := []
  runtimeMismatch : List String := []
  records : List Record := []
  deriving DecidableEq, Repr

namespace Summary

def empty (total : Nat) : Summary := { total }

def add (summary : Summary) (record : Record) : Summary :=
  let counted := match record.outcome with
    | .passed => { summary with passed := summary.passed + 1 }
    | .compileFailed => { summary with compileFailed := summary.compileFailed ++ [record.name] }
    | .runtimeMismatch =>
        { summary with runtimeMismatch := summary.runtimeMismatch ++ [record.name] }
  { counted with records := summary.records ++ [record] }

def namesOf (outcome : Outcome) (records : List Record) : List String :=
  (records.filter (·.outcome == outcome)).map (·.name)

-- The summary of some records, as if they had been added one after the other.
def ofRecords (total : Nat) (records : List Record) : Summary where
  total := total
  passed := (namesOf .passed records).length
  compileFailed := namesOf .compileFailed records
  runtimeMismatch := namesOf .runtimeMismatch records
  records := records

def recorded (summary : Summary) : Nat :=
  summary.passed + summary.compileFailed.length + summary.runtimeMismatch.length

def isComplete (summary : Summary) : Bool := summary.recorded == summary.total

def allPassed (summary : Summary) : Bool := summary.passed == summary.total

-- The outcome of the first record with the name.
def outcomeOf? (summary : Summary) (name : String) : Option Outcome :=
  (summary.records.find? (·.name == name)).map (·.outcome)

end Summary
end Acceptance
