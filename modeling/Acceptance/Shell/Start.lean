import Acceptance.Shell.Interpreter

namespace Acceptance.Shell

open Action
open Kernel (Program Settings)

namespace State

-- The shell as a program: what it finds at its start, and where its commands come from.

def standardVariables : List (String × String) := [
  ("IFS", " \t\n"),
  ("PATH", "/usr/local/sbin:/usr/local/bin:/usr/sbin:/usr/bin:/sbin:/bin"),
  ("PS1", "# "), ("PS2", "> "), ("PS4", "+ "), ("OPTIND", "1")]

-- Settings that a shell does not take over.
def ownNames : List String := ["IFS", "OPTIND", "PPID", "PWD"]

def initial (name : String) (settings : Settings) : State :=
  let state : State :=
    { name, bindings := standardVariables.map fun (name, value) => { name, value := some value } }
  (settings.filter fun (name, _) => isName name && !ownNames.contains name).foldl
    (fun state (name, value) => state.putVariable { name, value := some value, exported := true })
    state

end State

def startDirectory (settings : Settings) : Action String := do
  let here ← match ← perform .here with
    | .ok path => pure path
    | .error _ => pure ""
  match settings.lookup "PWD" with
  | some path =>
      if !path.startsWith "/" then return here
      match ← perform (.inspect path true), ← perform (.inspect "." true) with
      | .ok named, .ok actual => return if named.identity = actual.identity then path else here
      | _, _ => return here
  | none => return here

def readCommands (arguments : List String) : Action Unit := do
  let remainder ← Builtin.setWords true (arguments.length + 1) { operands := arguments }
  if remainder.wantsCommand then
    match remainder.operands with
    | [] => fail "-c requires an argument"
    | text :: rest =>
        modify fun state => { state with
          name := rest.headD state.name, parameters := rest.tail }
        let fromInput ← hasOption "s"
        let _ ← evaluator.runText { exits := !fromInput } text
        if fromInput then
          let _ ← evaluator.runDescriptor 0
  else if remainder.operands.isEmpty || (← hasOption "s") then
    Builtin.setOption "s" true
    modify fun state => { state with parameters := remainder.operands }
    let _ ← evaluator.runDescriptor 0
  else
    let path := remainder.operands.headD ""
    let descriptor ← openFile .input path
    modify fun state => { state with name := path, parameters := remainder.operands.tail }
    match ← saveDescriptor descriptor with
    | some hidden =>
        let _ ← evaluator.runDescriptor hidden
    | none => pure ()

def start (dialect : Dialect) (arguments : List String) (settings : Settings) : Program Nat :=
  let main : Action Unit := do
    let (number, parent) ← perform .identity
    let directory ← startDirectory settings
    modify fun state => { state with number, directory, dialect }
    assign "PPID" (toString parent)
    assignAs true "PWD" directory
    readCommands arguments.tail
  asProcess (Evaluator.settle main) evaluator.finish
    (State.initial (arguments.headD "sh") settings)

end Acceptance.Shell
