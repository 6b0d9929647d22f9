import Acceptance.Config
import Acceptance.Phrases
import Acceptance.Placeholder

namespace Acceptance

-- The command suggested for a case that did not pass.

structure Hint where
  template : String
  testsDir : String
  layout : Layout
  deriving DecidableEq, Repr

namespace Hint

def ofConfig (config : Config) : Hint where
  template := config.hint
  testsDir := config.testsDir
  layout := config.layout

def command (hint : Hint) (name : String) : String :=
  let case := Case.ofDirectory name (Path.join hint.testsDir (Text.ofText name)) hint.layout
  (Bindings.ofCase case).substitute hint.template

-- The entry of a case in the summary: what went wrong, then the command on its own line.
def line? (hint : Hint) (locale : Locale) (outcome : Outcome) (name : String) : Option String :=
  let header? := match outcome with
    | .passed => none
    | .compileFailed => some (locale.phrases.compileErrored name)
    | .runtimeMismatch => some (locale.phrases.runtimeWrong name)
  header?.map fun header => header ++ "\n" ++ hint.command name

end Hint
end Acceptance
