import Acceptance.Completion
import Acceptance.IoError
import Acceptance.Phrases
import Acceptance.Text.Names

namespace Acceptance

inductive CompileFailure where
  | staleProgram (path : String) (cause : IoError)
  | missingInput (path : String) (cause : IoError)
  | notStarted (program : String) (cause : IoError)
  | exited (status : Completion)
  | timedOut (bound : Nat)
  | noProgram (path : String)
  deriving DecidableEq, Repr

def CompileFailure.message (phrases : Phrases) : CompileFailure → String
  | .staleProgram path cause => phrases.staleProgram (Text.shown path) cause.message
  | .missingInput path cause => phrases.missingInput (Text.shown path) cause.message
  | .notStarted program cause => phrases.compilerNotStarted program cause.message
  | .exited status => phrases.compilerExited status.text
  | .timedOut bound => phrases.compilerTimedOut (bound / 1000)
  | .noProgram path => phrases.noProgram (Text.shown path)

end Acceptance
