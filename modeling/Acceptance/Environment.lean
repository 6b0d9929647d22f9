
namespace Acceptance

-- Environment variables, and the home directory they imply.

structure Environment where
  settings : List (String × String) := []
  -- The home directory recorded for the account, used when no variable gives one.
  accountHome : Option String := none

namespace Environment

-- The value of a variable. Name and value are stored as one text with an equals sign between
-- them, so that a name with an equals sign of its own reads on into the value.
def get? (env : Environment) (name : String) : Option String :=
  let start := name.toList.takeWhile (· != '=')
  match name.toList.drop start.length with
  | [] => env.settings.lookup name
  | _ :: more =>
      let lead := more ++ ['=']
      (env.settings.lookup (String.ofList start)).bind fun value =>
        if lead.isPrefixOf value.toList then
          some (String.ofList (value.toList.drop lead.length))
        else none

-- The environment with more variables, which win over those of the same name.
def extend (env : Environment) (more : List (String × String)) : Environment :=
  { env with settings := more ++ env.settings }

-- The variable `HOME` unless it is unset or empty.
def home? (env : Environment) : Option String :=
  match env.get? "HOME" with
  | some home => if home.isEmpty then env.accountHome else some home
  | none => env.accountHome

end Environment
end Acceptance
