import Acceptance.Shell.Grammar

namespace Acceptance.Shell

open Kernel (Program Call Settings)
open Text (Bytes)

-- The state of a shell and the actions on it: its variables, its options, and what it says.

structure Variable where
  name : String
  value : Option String := none
  exported : Bool := false
  fixed : Bool := false

inductive Skip where
  | nothing
  | leave (loops : Nat)
  | resume (loops : Nat)
  | function
  deriving DecidableEq

structure Job where
  number : Nat
  processes : List (Nat × Option Completion)
  waited : Bool := false

-- Shells differ in their messages and in what they print by themselves.
inductive Dialect where
  | plain
  | rich
  deriving DecidableEq

structure State where
  dialect : Dialect := .plain
  name : String
  parameters : List String := []
  bindings : List Variable := []
  functions : List (String × Nat × Command) := []
  aliases : List (String × String) := []
  options : List String := []
  status : Nat := 0
  savedStatus : Option Nat := none
  substituted : Nat := 0
  skip : Skip := .nothing
  loops : Nat := 0
  calls : Nat := 0
  line : Nat := 0
  command : Option String := none
  traps : List (Nat × String) := []
  pending : List Nat := []
  jobs : List Job := []
  lastJob : Option Nat := none
  tracked : List String := []
  documents : List (Nat × Word) := []
  freshDocument : Nat := 0
  scopes : List (List (String × Option Variable)) := []
  number : Nat := 0
  isCopy : Bool := false
  directory : String := ""
  output : List String := []
  traceDescriptor : Nat := 2
  optionOffset : Nat := 0

inductive Stop where
  | failed
  | ended
  | exited
  deriving DecidableEq

abbrev Action := ExceptT Stop (StateT State Program)

namespace Action

def perform (call : Call) : Action call.Answer := ExceptT.lift (StateT.lift (Program.call call))

def attempt {α : Type} (action : Action α) : Action (Except Stop α) :=
  ExceptT.lift action.run

def restore {α : Type} (result : Except Stop α) : Action α := ExceptT.mk (pure result)

-- An action, and another one after it however it ended.
def finally_ {α : Type} (action : Action α) (last : Action Unit) : Action α := do
  let result ← attempt action
  last
  restore result

-- Writes all bytes, one piece after the other. At the first error the rest is lost.
def writeAll (descriptor : Nat) (bytes : Bytes) : Action Bool :=
  Kernel.rounds (fun _ => false) (fun (rest : Bytes) => do
    if rest.isEmpty then return .finished true
    match ← perform (.write descriptor rest) with
    | .ok count => return .again (rest.drop count)
    | .error .interrupted => return .again rest
    | .error _ => return .finished false) Kernel.endless bytes

def print (descriptor : Nat) (text : String) : Action Unit := do
  let _ ← writeAll descriptor (Text.toBytes text.toList)

def warn (message : String) : Action Unit := do
  let state ← get
  let command := (state.command.map (· ++ ": ")).getD ""
  let line := (if state.dialect = .rich then "line " else "") ++ toString state.line
  print 2 (state.name ++ ": " ++ line ++ ": " ++ command ++ message ++ "\n")

def setStatus (status : Nat) : Action Unit := modify fun state => { state with status }

def failWith {α : Type} (status : Nat) (message : String) : Action α := do
  warn message
  setStatus status
  throw .failed

def fail {α : Type} (message : String) : Action α := failWith 2 message

def emit (text : String) : Action Unit :=
  modify fun state => { state with output := text :: state.output }

def flush : Action Bool := do
  let pieces := (← get).output
  modify fun state => { state with output := [] }
  writeAll 1 (Text.toBytes (String.join pieces.reverse).toList)

def hasOption (option : String) : Action Bool := return (← get).options.contains option

end Action

open Action

namespace State

def variable_ (state : State) (name : String) : Option Variable :=
  state.bindings.find? (·.name == name)

def lookup (state : State) (name : String) : Option String := do
  (← state.variable_ name).value

def putVariable (state : State) (variable_ : Variable) : State :=
  let isThere := state.bindings.any (·.name == variable_.name)
  { state with bindings :=
      if isThere then state.bindings.map fun other =>
        if other.name == variable_.name then variable_ else other
      else state.bindings ++ [variable_] }

def dropVariable (state : State) (name : String) : State :=
  { state with bindings := state.bindings.filter (·.name != name) }

def separators (state : State) : List Char :=
  ((state.lookup "IFS").getD " \t\n").toList

def tableRows : Nat := 39

def rowOf (name : String) : Nat :=
  let codes := name.toList.map Char.toNat
  (codes.headD 0 * 16 + codes.foldl (· + ·) 0) % tableRows

def settings (state : State) : Settings :=
  let exported := state.bindings.filter (·.exported)
  let sorted := exported.mergeSort fun left right => decide (rowOf left.name ≤ rowOf right.name)
  sorted.filterMap fun variable_ => variable_.value.map fun value => (variable_.name, value)

end State

namespace Action

def assignAs (exported : Bool) (name value : String) : Action Unit := do
  let state ← get
  let old := (state.variable_ name).getD { name }
  if old.fixed then fail (name ++ ": is read only")
  let exported := exported || old.exported || state.options.contains "a"
  modify (·.putVariable { old with value := some value, exported })
  if name = "OPTIND" then modify fun state => { state with optionOffset := 0 }
  if name = "PATH" then modify fun state => { state with tracked := [] }

def assign (name value : String) : Action Unit := assignAs false name value

def makeLocal (name : String) : Action Unit :=
  modify fun state =>
    match state.scopes with
    | scope :: scopes => { state with scopes := ((name, state.variable_ name) :: scope) :: scopes }
    | [] => state

def inScope {α : Type} (action : Action α) : Action α := do
  modify fun state => { state with scopes := [] :: state.scopes }
  finally_ action (modify fun state =>
    match state.scopes with
    | scope :: scopes =>
        let state := scope.foldl (fun state (name, saved) =>
          match saved with
          | some variable_ => state.putVariable variable_
          | none => state.dropVariable name) state
        { state with scopes }
    | [] => state)

def splitAssignment (text : String) : String × Option String :=
  let name := text.toList.takeWhile (· != '=')
  match text.toList.drop name.length with
  | _ :: value => (String.ofList name, some (String.ofList value))
  | [] => (text, none)

end Action
end Acceptance.Shell
