import Acceptance.Format.Mode
import Acceptance.Shell.Builtin.Variables

namespace Acceptance.Shell.Builtin

open Action

def logicalPath (directory path : String) : String :=
  let start := if path.startsWith "/" then [] else (directory.splitOn "/").reverse
  let parts := (path.splitOn "/").foldl (fun parts part =>
    if part = "" || part = "." then parts
    else if part = ".." then parts.drop 1
    else part :: parts) (start.filter (· != ""))
  "/" ++ "/".intercalate parts.reverse

def enterAs (path logical : String) : Action Bool := do
  match ← perform (.enter path) with
  | .error _ => return false
  | .ok _ =>
      let old := (← get).directory
      assignAs true "OLDPWD" old
      assignAs true "PWD" logical
      modify fun state => { state with directory := logical }
      return true

def enterDirectory (physical : Bool) (path : String) : Action Bool := do
  let state ← get
  if physical then
    match ← perform (.enter path) with
    | .error _ => return false
    | .ok _ =>
        let here ← perform .here
        enterAs "." (match here with
          | .ok here => here
          | .error _ => path)
  else
    let logical := logicalPath state.directory path
    enterAs logical logical

def searchDirectories (state : State) (path : String) : List String :=
  let isLocal := path.startsWith "/" || path.startsWith "./" || path.startsWith "../" ||
    path = "." || path = ".."
  match state.lookup "CDPATH" with
  | some text => if isLocal || text.isEmpty then [""] else text.splitOn ":" ++ [""]
  | none => [""]

def tryDirectories (physical : Bool) (path : String) : List String → Action (Option Bool)
  | [] => return none
  | directory :: rest => do
      let whole := joinPath directory path
      let isThere ← match ← perform (.inspect whole true) with
        | .ok status => pure (status.kind == .directory)
        | .error _ => pure false
      if isThere then
        if ← enterDirectory physical whole then return some !directory.isEmpty
        else tryDirectories physical path rest
      else tryDirectories physical path rest

def cd (arguments : List String) : Action Nat := do
  let (options, operands) ← optionsOf "LP" arguments
  let physical := (options.getLast?.map (·.1)) == some 'P'
  let state ← get
  let (path, shows) := match operands with
    | [] => ((state.lookup "HOME").getD "", false)
    | "-" :: _ => ((state.lookup "OLDPWD").getD "", true)
    | path :: _ => (path, false)
  let path := if path.isEmpty then "." else path
  match ← tryDirectories physical path (searchDirectories state path) with
  | some found =>
      if shows || found then emit ((← get).directory ++ "\n")
      return 0
  | none => fail ("can't cd to " ++ path)

def pwd (arguments : List String) : Action Nat := do
  let (options, _) ← optionsOf "LP" arguments
  if (options.getLast?.map (·.1)) == some 'P' then
    match ← perform .here with
    | .ok here => emit (here ++ "\n")
    | .error _ => emit ((← get).directory ++ "\n")
  else emit ((← get).directory ++ "\n")
  return 0

def octalText (width value : Nat) : String :=
  let digits := Nat.toDigits 8 value
  String.ofList (List.replicate (width - digits.length) '0' ++ digits)

def maskLetters (mask : Nat) : String :=
  let letters (shift : Nat) : String :=
    let bits := (7 - mask / Nat.pow 8 shift % 8)
    (if bits &&& 4 != 0 then "r" else "") ++ (if bits &&& 2 != 0 then "w" else "") ++
      (if bits &&& 1 != 0 then "x" else "")
  "u=" ++ letters 2 ++ ",g=" ++ letters 1 ++ ",o=" ++ letters 0

def umask (arguments : List String) : Action Nat := do
  let (options, operands) ← optionsOf "S" arguments
  match operands with
  | [] =>
      let mask ← perform (.mask none)
      emit ((if options.isEmpty then octalText 4 mask else maskLetters mask) ++ "\n")
      return 0
  | text :: _ =>
      if text.toList.all fun c => '0' ≤ c && c ≤ '7' then
        let (value, _) := Format.octal text.length text.toList
        let _ ← perform (.mask (some (value % 512)))
        return 0
      else if text.toList.head?.any Char.isDigit then fail ("Illegal number: " ++ text)
      else
        let isIdle (clause : String) : Bool := clause.toList.all fun c => "ugoa".toList.contains c
        let clauses := ",".intercalate ((text.splitOn ",").filter (!isIdle ·))
        let allowed := 0o777 - (← perform (.mask none))
        match if clauses.isEmpty then some allowed else
            Format.newMode 0 true clauses allowed with
        | some mode =>
            let _ ← perform (.mask (some (0o777 - mode % 0o1000)))
            return 0
        | none => fail ("Illegal mode: " ++ text)

def jobNamed (text : String) : Action Job := do
  let jobs := (← get).jobs
  let orFail (job : Option Job) (message : String) : Action Job :=
    match job with
    | some job => return job
    | none => fail message
  let name := text.toList.drop 1
  match name with
  | [] | ['+'] | ['%'] => orFail jobs.head? "No current job"
  | ['-'] => orFail jobs.tail.head? "No previous job"
  | _ =>
      if name.all Char.isDigit then
        orFail (jobs.find? (·.number == Format.natOf name)) ("No such job: " ++ text)
      else if name = ['?'] && 1 < jobs.length then fail (text ++ ": ambiguous")
      else orFail (if name = ['?'] then jobs.head? else none) ("No such job: " ++ text)

-- Waits until something holds of the jobs, or a signal comes, and tells which. It is said how
-- the processes of the given job end.
def waitUntil (watched : Option Nat) (holds : List Job → Bool) : Action Bool := do
  let complete ← Kernel.rounds (fun _ => true) (fun _ => do
    let jobs := (← get).jobs
    if holds jobs then return .finished true
    match ← perform (.wait none none) with
    | .ok (some (number, completion)) =>
        note number completion
        let isWatched := jobs.any fun job =>
          some job.number == watched && job.processes.any (·.1 == number)
        if isWatched then reportSignal completion
        return .again ()
    | .ok none => return .again ()
    | .error .interrupted =>
        noteSignals
        return .finished false
    | .error _ => return .finished true) Kernel.endless ()
  noteEnded
  return complete

def markWaited (concerned : Job → Bool) : Action Unit :=
  modify fun state => { state with jobs := state.jobs.map fun job =>
    { job with waited := job.waited || concerned job } }

def waitFor (job : Job) : Action (Option Nat) := do
  let isThis (other : Job) : Bool := other.number == job.number
  let complete ← waitUntil (some job.number) fun jobs => (jobs.filter isThis).all (·.isOver)
  if complete then
    markWaited isThis
    return ((← get).jobs.find? isThis).map (·.status)
  else return none

def signalStatus : Action Nat := return 128 + ((← get).pending.getLast?.getD 0)

def waitForEach : Nat → List String → Action Nat
  | status, [] => return status
  | status, operand :: rest => do
      let job ← if operand.startsWith "%" then some <$> jobNamed operand
        else do
          let number ← plainNumber operand
          pure ((← get).jobs.find? fun job => job.processes.getLast?.map (·.1) = some number)
      match job with
      | none => waitForEach status rest
      | some job =>
          match ← waitFor job with
          | some status => waitForEach status rest
          | none => signalStatus

def wait (arguments : List String) : Action Nat := do
  let (_, operands) ← optionsOf "" arguments
  if !operands.isEmpty then return ← waitForEach 127 operands
  let complete ← waitUntil none fun jobs => jobs.all (·.isOver)
  if complete then
    markWaited fun _ => true
    return 0
  else signalStatus

inductive JobView where
  | plain
  | withNumbers
  | onlyNumber
  deriving DecidableEq

def jobState (job : Job) : String :=
  match job.isOver, job.processes.getLast?.bind (·.2) with
  | true, some (.signaled signal dumped) =>
      describeSignal signal ++ (if dumped then " (core dumped)" else "")
  | true, some completion =>
      let status := statusOf completion
      if status = 0 then "Done" else s!"Done({status})"
  | _, _ => "Running"

def commandColumn : Nat := 33

def showJob (view : JobView) (job : Job) : Action Unit := do
  let first := (job.processes.head?.map (·.1)).getD 0
  if view = .onlyNumber then emit s!"{first}\n"
  else
    let jobs := (← get).jobs
    let is (other : Option Job) : Bool := (other.map (·.number)) == some job.number
    let sign := if is jobs.head? then "+" else if is jobs.tail.head? then "-" else " "
    let start := s!"[{job.number}] " ++ sign ++ " "
    let padded (text : String) : String :=
      text ++ String.ofList (List.replicate (max 1 (commandColumn - text.length)) ' ')
    let numbered := if view = .withNumbers then s!"{first} " else ""
    emit (padded (start ++ numbered ++ jobState job))
    let others := job.processes.tail
    if view = .withNumbers then
      others.forM fun (number, _) =>
        let indent := String.ofList (List.replicate start.length ' ')
        let text := indent ++ s!"{number} "
        emit (" |\n" ++ padded text)
    else others.forM fun _ => emit " | "
    emit "\n"
    if job.isOver then
      modify fun state => { state with jobs := state.jobs.filter (·.number != job.number) }

def jobs (arguments : List String) : Action Nat := do
  let (options, operands) ← optionsOf "lp" arguments
  let view := match options.getLast? with
    | some ('l', _) => JobView.withNumbers
    | some _ => .onlyNumber
    | none => .plain
  if operands.isEmpty then
    noteEnded
    (← get).jobs.forM (showJob view)
  else
    operands.forM fun operand => do
      if operand.startsWith "%" then showJob view (← jobNamed operand)
      else fail ("No such job: " ++ operand)
  return 0

-- No job can be resumed, because none is controlled.
def resume (arguments : List String) : Action Nat := do
  let (_, operands) ← optionsOf "" arguments
  match operands with
  | [] =>
      let _ ← jobNamed "%%"
      fail "job (null) not created under job control"
  | operand :: _ =>
      if !operand.startsWith "%" then fail ("No such job: " ++ operand)
      let _ ← jobNamed operand
      fail ("job " ++ operand ++ " not created under job control")

def signalIn? (text : String) : Option Nat :=
  match text.toNat? with
  | some number =>
      if number < signalLimit && text.toList.all Char.isDigit then some number else none
  | none => (List.range 32).find? fun number => signalName number == text.toUpper

def killUsage : String :=
  "Usage: kill [-s sigspec | -signum | -sigspec] [pid | job]... or\nkill -l [exitstatus]"

def listSignals (operands : List String) : Action Nat := do
  match operands with
  | [] =>
      emit "0\n"
      (List.range 64).forM fun index => emit (signalName (index + 1) ++ "\n")
      return 0
  | text :: _ =>
      let number ← plainNumber text
      let number := if 128 < number then number - 128 else number
      if 0 < number && number < signalLimit then
        emit (signalName number ++ "\n")
        return 0
      else fail ("invalid signal number or exit status: " ++ text)

def kill (arguments : List String) : Action Nat := do
  if arguments.isEmpty then fail killUsage
  let bare := match arguments with
    | first :: rest =>
        match first.toList with
        | '-' :: name => (signalIn? (String.ofList name)).bind fun signal =>
            if 0 < signal || name = ['0'] then some (signal, rest) else none
        | _ => none
    | [] => none
  let (signal, lists, operands) ← match bare with
    | some (signal, rest) => pure (signal, false, rest)
    | none =>
        let (options, operands) ← optionsOf "ls:" arguments
        let lists := options.any (·.1 == 'l')
        let named := options.findSome? fun (c, value) => if c = 's' then some value else none
        let signal ← match named with
          | some text =>
              match signalIn? text with
              | some signal => pure signal
              | none => fail ("invalid signal number or name: " ++ text)
          | none => pure 15
        pure (signal, lists, operands)
  if lists then listSignals operands
  else if operands.isEmpty then fail killUsage
  else
    let statuses ← operands.mapM fun operand => do
      let target ← match operand.toList with
        | '%' :: _ =>
            let job ← jobNamed operand
            pure (-(((job.processes.head?.map (·.1)).getD 0) : Int))
        | '-' :: digits => pure (-((← plainNumber (String.ofList digits)) : Int))
        | _ => pure ((← plainNumber operand) : Int)
      match ← perform (.signal target signal) with
      | .ok _ => return 0
      | .error cause =>
          warn (cause.description ++ "\n")
          return 1
    return statuses.foldl max 0

def setTrap (signal : Nat) (action : Option String) : Action Unit := do
  modify fun state =>
    let others := state.traps.filter (·.1 != signal)
    { state with traps := (action.map fun action => (signal, action)).toList ++ others }
  if signal != 0 then
    perform (.dispose signal (match action with
      | none => .standard
      | some text => if text.isEmpty then .ignored else .caught))

def trap (arguments : List String) : Action Nat := do
  let (_, operands) ← optionsOf "" arguments
  match operands with
  | [] =>
      let traps := (← get).traps.mergeSort fun left right => decide (left.1 ≤ right.1)
      traps.forM fun (signal, action) =>
        emit ("trap -- " ++ singleQuoted action ++ " " ++ signalName signal ++ "\n")
      return 0
  | first :: rest =>
      let isNumber := !first.isEmpty && first.toList.all Char.isDigit
      let (action, names) := if rest.isEmpty || isNumber then (none, operands)
        else (if first = "-" then none else some first, rest)
      let failed ← names.foldlM (fun failed name => do
        if failed then return true
        match signalIn? name with
        | some signal =>
            setTrap signal action
            return false
        | none =>
            print 2 ("trap: " ++ name ++ ": bad trap\n")
            return true) false
      return if failed then 1 else 0

def times (_ : List String) : Action Nat := do
  emit "0m0.000000s 0m0.000000s\n0m0.000000s 0m0.000000s\n"
  return 0

def builtinNames : List String :=
  Rules.specialBuiltins ++
    ["[", "alias", "bg", "cd", "chdir", "command", "echo", "false", "fg", "getopts", "hash",
      "jobs", "kill", "printf", "pwd", "read", "test", "true", "type", "ulimit", "umask",
      "unalias", "wait"]

def locateFile (name : String) : Action (Option String) := do
  if name.toList.contains '/' then
    match ← perform (.inspect name true) with
    | .ok _ => return some name
    | .error _ => return none
  else
    match ← locate name (searchPath (← get)) .noEntry with
    | .found (directory :: _) => return some (joinPath directory name)
    | _ => return none

def hash (arguments : List String) : Action Nat := do
  let (options, operands) ← optionsOf "rv" arguments
  if options.any (·.1 == 'r') then
    modify fun state => { state with tracked := [] }
    return 0
  if operands.isEmpty then
    (← get).tracked.forM fun name => do
      if let some path ← locateFile name then emit (path ++ "\n")
  let statuses ← operands.mapM fun name => do
    let state ← get
    if builtinNames.contains name || (state.functions.lookup name).isSome then return 0
    match ← locateFile name with
    | some _ =>
        modify (·.track name)
        return 0
    | none =>
        warn (name ++ ": not found")
        return 1
  return statuses.foldl max 0

def describe (verbose : Bool) (name : String) : Action Nat := do
  let state ← get
  let tell (sentence short : String) : Action Nat := do
    emit (if verbose then name ++ sentence ++ "\n" else short ++ "\n")
    return 0
  if keywords.contains name then tell " is a shell keyword" name
  else
    match state.aliases.lookup name with
    | some value =>
        tell (" is an alias for " ++ value) ("alias " ++ name ++ "=" ++ singleQuoted value)
    | none =>
        if (state.functions.lookup name).isSome then tell " is a shell function" name
        else if Rules.specialBuiltins.contains name then
          tell " is a special shell builtin" name
        else if builtinNames.contains name then tell " is a shell builtin" name
        else
          match ← locateFile name with
          | some path =>
              let tracked := state.tracked.contains name
              modify (·.track name)
              tell ((if tracked then " is a tracked alias for " else " is ") ++ path) path
          | none =>
              if verbose then emit (name ++ ": not found\n")
              return 127

def type_ (arguments : List String) : Action Nat := do
  let (_, operands) ← optionsOf "" arguments
  let statuses ← operands.mapM (describe true)
  return statuses.foldl (· ||| ·) 0

def ulimit (arguments : List String) : Action Nat := do
  if arguments.all (·.startsWith "-") then emit "unlimited\n"
  return 0

end Acceptance.Shell.Builtin
