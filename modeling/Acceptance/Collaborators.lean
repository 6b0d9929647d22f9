import Acceptance.Command.Template
import Acceptance.Config
import Acceptance.Fault

namespace Acceptance

open Command (Template)

-- The external programs of a run, read from the command lines of the configuration.

inductive Comparator where
  | builtin
  | external (template : Template)
  deriving DecidableEq, Repr

structure Collaborators where
  compiler : Template
  vm : Template
  comparator : Comparator
  deriving DecidableEq, Repr

namespace Collaborators

def template (env : Environment) (stage : Stage) (line : String) : Except Fault Template :=
  match Template.parse? env line with
  | some template => .ok template
  | none => .error (.invalidCommand stage line)

-- The comparator's command line is checked first, then the compiler's and the machine's.
def ofConfig (env : Environment) (config : Config) : Except Fault Collaborators := do
  let comparator ←
    if config.usesBuiltin then pure Comparator.builtin
    else Comparator.external <$> template env .diff config.diff
  let compiler ← template env .compile config.compiler
  let vm ← template env .execute config.vm
  return { compiler, vm, comparator }

end Collaborators
end Acceptance
