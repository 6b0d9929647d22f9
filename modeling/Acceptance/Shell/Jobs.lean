import Acceptance.Shell.Redirection

namespace Acceptance.Shell

open Action
open Kernel (Program)

-- Processes of a shell: copies of itself, programs, and waiting for them.

def signalDescriptions : List String := [
  "Hangup", "Interrupt", "Quit", "Illegal instruction", "Trace/breakpoint trap", "Aborted",
  "Bus error", "Floating point exception", "Killed", "User defined signal 1",
  "Segmentation fault", "User defined signal 2", "Broken pipe", "Alarm clock", "Terminated",
  "Stack fault", "Child exited", "Continued", "Stopped (signal)", "Stopped",
  "Stopped (tty input)", "Stopped (tty output)", "Urgent I/O condition",
  "CPU time limit exceeded", "File size limit exceeded", "Virtual timer expired",
  "Profiling timer expired", "Window changed", "I/O possible", "Power failure",
  "Bad system call"]

def describeSignal (signal : Nat) : String :=
  if signal = 0 then "Unknown signal 0"
  else
    match signalDescriptions[signal - 1]? with
    | some text => text
    | none => if signal < 34 then s!"Unknown signal {signal}" else
        let number := signal - 34
        s!"Real-time signal {number}"

def signalName (signal : Nat) : String :=
  if signal = 0 then "EXIT"
  else
    match Completion.signalNames[signal - 1]? with
    | some name => (name.drop 3).toString
    | none => toString signal

def signalLimit : Nat := 65

def statusOf : Completion → Nat
  | .exited code => code
  | .signaled signal _ => 128 + signal
  | .stopped signal => 128 + signal
  | _ => 0

def asProcess (body last : Action Unit) (state : State) : Program Nat := do
  let (_, state) ← body.run.run state
  let (_, state) ← last.run.run state
  return state.status

def clearTraps : Action Unit := do
  let traps := (← get).traps
  let (kept, gone) := traps.partition (·.2.isEmpty)
  gone.forM fun (signal, _) => do
    if signal != 0 then perform (.dispose signal .standard)
  modify fun state => { state with traps := kept }

def forkShell (last : Action Unit) (body : Action Unit) : Action Nat := do
  let state ← get
  let copy : Action Unit := do
    clearTraps
    modify fun state => { state with
      isCopy := true, jobs := [], pending := [], output := [] }
    body
  ExceptT.lift (StateT.lift (Program.fork (asProcess copy last state)))

def inBackground (first : Bool) : Action Unit := do
  perform (.dispose 2 .ignored)
  perform (.dispose 3 .ignored)
  if first then
    let _ ← perform (.close 0)
    let _ ← perform (.open "/dev/null" .forReading)

namespace Job

def isOver (job : Job) : Bool := job.processes.all (·.2.isSome)

def status (job : Job) : Nat := ((job.processes.getLast?.bind (·.2)).map statusOf).getD 0

def note (number : Nat) (completion : Completion) (job : Job) : Job :=
  { job with processes := job.processes.map fun (other, ended) =>
      (other, if other = number then some completion else ended) }

end Job

def claimNumber : Action Nat := do
  let state ← get
  let isFree (number : Nat) : Bool :=
    match state.jobs.find? (·.number == number) with
    | some job => job.isOver && job.waited
    | none => true
  let count := state.jobs.length
  let number := (((List.range count).map (· + 1)).find? isFree).getD (count + 1)
  set { state with jobs := state.jobs.filter (·.number != number) }
  return number

def addJob (numbers : List Nat) : Action Unit := do
  let number ← claimNumber
  let job : Job := { number, processes := numbers.map fun number => (number, none) }
  modify fun state => { state with lastJob := numbers.getLast?, jobs := job :: state.jobs }

def note (number : Nat) (completion : Completion) : Action Unit :=
  modify fun state => { state with jobs := state.jobs.map (·.note number completion) }

def noteEnded : Action Unit := do
  if (← get).jobs.any (!·.isOver) then
    Kernel.rounds (fun _ => ()) (fun _ => do
      match ← perform (.wait none (some 0)) with
      | .ok (some (number, completion)) =>
          note number completion
          return .again ()
      | _ => return .finished ()) Kernel.endless ()

def noteSignals : Action Unit := do
  let signals ← perform .arrived
  modify fun state => { state with pending := state.pending ++ signals }

def reportSignal : Completion → Action Unit
  | .signaled signal _ =>
      if signal = 2 || signal = 13 then pure () else print 2 (describeSignal signal ++ "\n")
  | _ => pure ()

-- Waits for the processes of a pipeline, the last of which gives the status. A signal does not
-- keep the shell from waiting.
def awaitAll (numbers : List Nat) : Action Nat := do
  let _ ← claimNumber
  let ended ← Kernel.rounds id (fun (ended : List (Nat × Completion)) => do
    if numbers.all fun number => (ended.lookup number).isSome then return .finished ended
    match ← perform (.wait none none) with
    | .ok (some (number, completion)) =>
        if numbers.contains number then
          reportSignal completion
          return .again ((number, completion) :: ended)
        else
          note number completion
          return .again ended
    | .ok none => return .again ended
    | .error .interrupted =>
        noteSignals
        return .again ended
    | .error _ => return .finished ended) Kernel.endless []
  noteEnded
  return ((numbers.getLast?.bind fun number => ended.lookup number).map statusOf).getD 0

def State.track (state : State) (name : String) : State :=
  if name.toList.contains '/' || state.tracked.contains name then state
  else { state with tracked := state.tracked ++ [name] }

def searchPath (state : State) : List String :=
  ((state.lookup "PATH").getD "").splitOn ":"

def joinPath (directory name : String) : String :=
  if directory.isEmpty then name else directory ++ "/" ++ name

-- Where a program was found: the directories from the right one on, or why it was not.
inductive Located where
  | found (directories : List String)
  | missing (cause : IoError)

def locate (name : String) : List String → IoError → Action Located
  | [], cause => return .missing cause
  | directory :: rest, cause => do
      match ← perform (.inspect (joinPath directory name) true) with
      | .ok status =>
          if status.kind = .file && Entry.isRunnable status.mode then
            return .found (directory :: rest)
          else locate name rest .accessDenied
      | .error failure =>
          locate name rest
            (if failure = .noEntry || failure = .notDirectory then cause else failure)

def becomeFile (path : String) (arguments : List String) : Action IoError := do
  let settings := (← get).settings
  let cause ← perform (.become path arguments settings)
  if cause = .badExecutable then
    perform (.become "/bin/sh" ("/bin/sh" :: path :: arguments.tail) settings)
  else return cause

def becomeFirst (arguments : List String) : List String → IoError → Action IoError
  | [], cause => return cause
  | directory :: rest, cause => do
      let failure ← becomeFile (joinPath directory (arguments.headD "")) arguments
      becomeFirst arguments rest
        (if failure = .noEntry || failure = .notDirectory then cause else failure)

def absence (name : String) : Action String := do
  match (← get).dialect with
  | .plain => return "not found"
  | .rich =>
      return if name.toList.contains '/' then IoError.noEntry.description else "command not found"

def execute {α : Type} (arguments : List String) (directories : List String) : Action α := do
  let name := arguments.headD ""
  let cause ← if name.toList.contains '/' then becomeFile name arguments
    else becomeFirst arguments directories .noEntry
  let absent := [IoError.noEntry, .notDirectory, .linkLoop, .nameTooLong].contains cause
  warn (name ++ ": " ++ reasonFor (← absence name) cause)
  setStatus (if absent then 127 else 126)
  throw .ended

end Acceptance.Shell
