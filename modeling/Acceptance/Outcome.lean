
namespace Acceptance

-- What a case can end as, the stages it passes through, and the record kept of it.

inductive Stage where
  | compile
  | execute
  | diff
  deriving DecidableEq, Repr

def Stage.name : Stage → String
  | .compile => "compiler"
  | .execute => "vm"
  | .diff => "diff"

inductive Outcome where
  | passed
  | compileFailed
  | runtimeMismatch
  deriving DecidableEq, Repr

namespace Outcome

def name : Outcome → String
  | .passed => "Passed"
  | .compileFailed => "CompileFailed"
  | .runtimeMismatch => "RuntimeMismatch"

def cssClass : Outcome → String
  | .passed => "status-passed"
  | .compileFailed => "status-compile-failed"
  | .runtimeMismatch => "status-runtime-mismatch"

end Outcome

structure Duration where
  seconds : Nat := 0
  nanoseconds : Nat := 0
  deriving DecidableEq, Repr

namespace Duration

def ofParts (seconds nanoseconds : Nat) : Duration :=
  ⟨seconds + nanoseconds / 1000000000, nanoseconds % 1000000000⟩

end Duration

structure Record where
  name : String
  outcome : Outcome
  duration : Duration := {}
  deriving DecidableEq, Repr

end Acceptance
