import Acceptance.IoError
import Acceptance.Outcome
import Acceptance.Text.Names

namespace Acceptance

inductive Fault where
  | missingRoot (path : String)
  | discovery (path : String) (cause : IoError)
  -- A collaborator's command line is empty or cannot be split or expanded.
  | invalidCommand (stage : Stage) (command : String)
  | spawn (stage : Stage) (program : String) (cause : IoError)
  | artifact (path : String) (cause : IoError)
  deriving DecidableEq, Repr

namespace Fault

def cause? : Fault → Option IoError
  | .discovery _ cause | .spawn _ _ cause | .artifact _ cause => some cause
  | .missingRoot _ | .invalidCommand _ _ => none

def message : Fault → String
  | .missingRoot path => s!"test directory '{Text.shown path}' does not exist or is not a directory"
  | .discovery path cause => s!"failed to read test directory '{Text.shown path}': " ++ cause.message
  | .invalidCommand stage command =>
      "invalid " ++ stage.name ++ s!" command line: '{command}'"
  | .spawn stage program cause =>
      "failed to run " ++ stage.name ++ s!" collaborator '{program}': " ++ cause.message
  | .artifact path cause => s!"failed to open case artifact '{Text.shown path}': " ++ cause.message

-- The messages of a fault and of what caused it, outermost first.
def chain (fault : Fault) : List String :=
  fault.message :: (fault.cause?.map IoError.message).toList

end Fault
end Acceptance
