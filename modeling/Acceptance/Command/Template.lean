import Acceptance.Command.Expansion
import Acceptance.Command.Quote
import Acceptance.Command.Split
import Acceptance.Placeholder

namespace Acceptance.Command

structure Template where
  program : String
  arguments : List String
  deriving DecidableEq, Repr

namespace Template

-- The template of a command line, if it has at least one word and expands.
def parse? (env : Environment) (line : String) : Option Template :=
  match split? line.toList with
  | some (word :: arguments) =>
      (expand? env word).map fun program =>
        { program := String.ofList program, arguments := arguments.map String.ofList }
  | _ => none

def fill (template : Template) (bindings : Bindings) : List String :=
  template.arguments.map bindings.substitute

end Template

-- A word that no command line can hold is shown as it is.
def display (word : String) : String :=
  if word.toList.contains '\x00' then word else String.ofList (quote word.toList)

def Template.render (template : Template) (bindings : Bindings) : String :=
  " ".intercalate ((template.program :: template.fill bindings).map display)

end Acceptance.Command
