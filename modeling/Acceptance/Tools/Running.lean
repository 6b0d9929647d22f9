import Acceptance.Format.Conversion
import Acceptance.Tools.Options
import Acceptance.Tools.Paths

namespace Acceptance.Tools

open Tool
open Kernel (Settings)

-- Tools that run other programs, wait for them, or wait for nothing.

def becomeOne (path : String) (arguments : List String) (settings : Settings) : Tool IoError := do
  let cause ← ask (.become path arguments settings)
  if cause = .badExecutable then
    ask (.become "/bin/sh" ("/bin/sh" :: path :: arguments.tail) settings)
  else return cause

def becomeIn (arguments : List String) (settings : Settings) : List String → IoError → Tool IoError
  | [], cause => return cause
  | directory :: rest, cause => do
      let name := arguments.headD ""
      let path := if directory.isEmpty then name else directory ++ "/" ++ name
      let failure ← becomeOne path arguments settings
      if failure = .accessDenied then becomeIn arguments settings rest .accessDenied
      else if failure = .noEntry || failure = .notDirectory then
        becomeIn arguments settings rest cause
      else return failure

-- Becomes a program that is looked for where the settings say. There is an answer only if that
-- fails.
def become (arguments : List String) (settings : Settings) : Tool IoError := do
  let _ ← drain
  let name := arguments.headD ""
  if name.isEmpty then return .noEntry
  else if name.toList.contains '/' then becomeOne name arguments settings
  else
    becomeIn arguments settings (((settings.lookup "PATH").getD "/bin:/usr/bin").splitOn ":")
      .noEntry

def lostStatus (cause : IoError) : Nat := if cause = .noEntry then 127 else 126

def splitSetting (word : String) : Option (String × String) :=
  let name := word.toList.takeWhile (· != '=')
  match word.toList.drop name.length with
  | _ :: value => some (String.ofList name, String.ofList value)
  | [] => none

def putSetting (settings : Settings) (name value : String) : Settings :=
  if settings.any (·.1 == name) then
    settings.map fun (other, old) => if other == name then (other, value) else (other, old)
  else settings ++ [(name, value)]

def splitWords : Nat → Option Char → Option (List Char) → List Char → List String
  | 0, _, _, _ => []
  | _, _, word, [] => (word.map fun word => String.ofList word.reverse).toList
  | fuel + 1, mark, word, c :: rest =>
      let sofar := word.getD []
      match mark with
      | some quoteMark =>
          if c = quoteMark then splitWords fuel none (some sofar) rest
          else if c = '\\' && quoteMark = '"' then
            match rest with
            | next :: rest => splitWords fuel mark (some (next :: sofar)) rest
            | [] => splitWords fuel mark word rest
          else splitWords fuel mark (some (c :: sofar)) rest
      | none =>
          if c = '\'' || c = '"' then splitWords fuel (some c) (some sofar) rest
          else if c = ' ' || c = '\t' || c = '\n' then
            (word.map fun word => String.ofList word.reverse).toList ++
              splitWords fuel none none rest
          else if c = '\\' then
            match rest with
            | next :: rest => splitWords fuel none (some (next :: sofar)) rest
            | [] => splitWords fuel none word rest
          else splitWords fuel none (some (c :: sofar)) rest

def spreadWords : List String → List String
  | [] => []
  | word :: rest =>
      match word.toList with
      | '-' :: 'S' :: text =>
          let (text, rest) := if text.isEmpty then (rest.headD "", rest.tail)
            else (String.ofList text, rest)
          splitWords (text.length + 1) none none text.toList ++ rest
      | '-' :: 'v' :: 'S' :: text => splitWords (text.length + 1) none none text ++ rest
      | '-' :: _ => word :: spreadWords rest
      | _ => word :: rest

def envTool (arguments : List String) : Tool Nat := do
  modify fun desk => { desk with trouble := 125 }
  let given ← optionsIn true
    [.flag 'i' ["ignore-environment"], .flag '0' ["null"], .value 'u' ["unset"],
      .value 'C' ["chdir"], .flag 'v' ["debug"], .longAttached "block-signal",
      .longAttached "default-signal", .longAttached "ignore-signal"] (spreadWords arguments)
  let operands := if given.operands.head? = some "-" then given.operands.tail else given.operands
  let fresh := given.has "i" || given.operands.head? = some "-"
  let known := (← get).settings
  let base := if fresh then [] else known
  let base := base.filter fun (name, _) => !(given.values "u").contains name
  let pairs := operands.takeWhile fun word => word.toList.contains '='
  let settings := (pairs.filterMap splitSetting).foldl (fun settings (name, value) =>
    putSetting settings name value) base
  match operands.drop pairs.length with
  | [] =>
      settings.forM fun (name, value) =>
        say (name ++ "=" ++ value ++ (if given.has "0" then "\x00" else "\n"))
      return 0
  | name :: rest =>
      if let some path := given.value? "C" then
        match ← ask (.enter path) with
        | .ok _ => pure ()
        | .error cause => die ("cannot change directory to " ++ quote path ++ ": " ++
            cause.description)
      let cause ← become (name :: rest) settings
      warn (quote name ++ ": " ++ cause.description)
      if cause = .noEntry && name.toList.contains ' ' then
        warn "use -[v]S to pass options in shebang lines"
      return lostStatus cause

def printenvTool (arguments : List String) : Tool Nat := do
  modify fun desk => { desk with trouble := 2 }
  let given ← optionsIn true [.flag '0' ["null"]] arguments
  let finish := if given.has "0" then "\x00" else "\n"
  let settings := (← get).settings
  if given.operands.isEmpty then
    settings.forM fun (name, value) => say (name ++ "=" ++ value ++ finish)
    return 0
  given.operands.forM fun name => do
    match settings.lookup name with
    | some value => say (value ++ finish)
    | none => setStatus 1
  done

def interval? (word : String) : Option Nat := do
  let scanned ← Format.scanDecimal? word.toList
  if scanned.negative then none
  let unit ← match scanned.rest with
    | [] | ['s'] => some 1
    | ['m'] => some 60
    | ['h'] => some 3600
    | ['d'] => some 86400
    | _ => none
  let (num, den) := scanned.ratio
  return (num * unit * 1000000 + den - 1) / den

def isForever (word : String) : Bool := word.toLower = "infinity" || word.toLower = "inf"

def sleepTool (arguments : List String) : Tool Nat := do
  let given ← options [] arguments
  if given.operands.isEmpty then missingOperand
  let times ← given.operands.mapM fun word => do
    match interval? word with
    | some time => return time
    | none =>
        if isForever word then return 1000000000000000
        fault ("invalid time interval " ++ quote word)
        return 0
  if (← get).status != 0 then
    tell (← hint)
    return 1
  ask (.rest (times.foldl (· + ·) 0))
  return 0

-- Starts a program in a process of its own, which does something else first. The process ends
-- with a message if there is no such program.
def spawnAfter (first : Tool Unit) (arguments : List String) (complain : IoError → Tool Nat) :
    Tool Nat := do
  let _ ← drain
  let desk ← get
  let body : Tool Nat := do
    first
    complain (← become arguments desk.settings)
  lift (Kernel.Program.fork (Tool.process desk body))

def spawn (arguments : List String) (complain : IoError → Tool Nat) : Tool Nat :=
  spawnAfter (pure ()) arguments complain

def completionStatus : Completion → Nat
  | .exited code => code
  | .signaled signal _ => 128 + signal
  | _ => 0

def awaitChild (child : Nat) (patience : Option Nat) : Tool (Option Completion) := do
  match ← ask (.wait (some child) patience) with
  | .ok (some (_, completion)) => return some completion
  | .ok none => return none
  | .error _ => return some (.exited 0)

def signalNumbered? (word : String) : Option Nat :=
  match word.toNat? with
  | some number => some number
  | none =>
      let name := if word.toUpper.startsWith "SIG" then word.toUpper else "SIG" ++ word.toUpper
      if word.toUpper = "EXIT" then some 0
      else (Completion.signalNames.idxOf? name).map (· + 1)

def signalName (signal : Nat) : String :=
  match signal with
  | 0 => "EXIT"
  | number + 1 => (((Completion.signalNames[number]?).getD "").drop 3).toString

def timeoutTool (arguments : List String) : Tool Nat := do
  modify fun desk => { desk with trouble := 125 }
  let given ← optionsIn true [.flag 'v' ["verbose"], .value 's' ["signal"],
    .value 'k' ["kill-after"], .longFlag "foreground", .longFlag "preserve-status"] arguments
  match given.operands with
  | time :: name :: rest =>
      match interval? time, signalNumbered? ((given.value? "s").getD "TERM") with
      | none, _ => misused ("invalid time interval " ++ quote time)
      | _, none => misused (quote ((given.value? "s").getD "") ++ ": invalid signal")
      | some patience, some signal =>
          let alone := given.has "foreground"
          if !alone then ask .lead
          let child ← spawn (name :: rest) fun cause => do
            warn ("failed to run command " ++ quote name ++ ": " ++ cause.description)
            return lostStatus cause
          -- Without a signal of its own for everyone, the tool ends by the strongest one as well.
          let hit (signal : Nat) : Tool Unit := do
            if given.has "v" then
              warn ("sending signal " ++ signalName signal ++ " to command " ++ quote name)
            let _ ← ask (.signal child signal)
            if !alone then
              ask (.dispose signal .ignored)
              let _ ← ask (.signal 0 signal)
              if signal != 9 && signal != 18 then
                let _ ← ask (.signal child 18)
                let _ ← ask (.signal 0 18)
          match ← awaitChild child (if patience = 0 then none else some patience) with
          | some (.signaled signal dumped) =>
              if dumped then warn "the monitored command dumped core"
              ask (.dispose signal .standard)
              let (number, _) ← ask .identity
              let _ ← ask (.signal number signal)
              return 128 + signal
          | some completion => return completionStatus completion
          | none =>
              hit signal
              let after := (given.value? "k").bind interval?
              let ended ← match ← awaitChild child after with
                | some completion => pure completion
                | none => do
                    hit 9
                    pure ((← awaitChild child none).getD (.exited 0))
              let status := completionStatus ended
              return if given.has "preserve-status" || status = 137 then status else 124
  | _ =>
      tell (← hint)
      return 125

def nohupTool (arguments : List String) : Tool Nat := do
  modify fun desk => { desk with trouble := 125 }
  let given ← optionsIn true [] arguments
  match given.operands with
  | [] => missingOperand
  | name :: rest =>
      ask (.dispose 1 .ignored)
      let cause ← become (name :: rest) (← get).settings
      warn ("failed to run command " ++ quote name ++ ": " ++ cause.description)
      return lostStatus cause

def niceTool (arguments : List String) : Tool Nat := do
  modify fun desk => { desk with trouble := 125 }
  let given ← optionsIn true [.value 'n' ["adjustment"]] arguments
  match given.operands with
  | [] =>
      say "0\n"
      return 0
  | name :: rest =>
      let cause ← become (name :: rest) (← get).settings
      warn (quote name ++ ": " ++ cause.description)
      return lostStatus cause

def setsidTool (arguments : List String) : Tool Nat := do
  let given ← optionsIn true [.flag 'w' ["wait"], .flag 'f' ["fork"], .flag 'c' ["ctty"]] arguments
  match given.operands with
  | [] => misused "no command specified"
  | name :: rest =>
      ask .lead
      let cause ← become (name :: rest) (← get).settings
      warn ("failed to execute " ++ name ++ ": " ++ cause.description)
      return lostStatus cause

def stdbufTool (arguments : List String) : Tool Nat := do
  modify fun desk => { desk with trouble := 125 }
  let given ← optionsIn true [.value 'i' ["input"], .value 'o' ["output"], .value 'e' ["error"]]
    arguments
  match given.operands with
  | [] => missingOperand
  | name :: rest =>
      let cause ← become (name :: rest) (← get).settings
      warn ("failed to run command " ++ quote name ++ ": " ++ cause.description)
      return lostStatus cause

def signalList : String :=
  let names := Completion.signalNames.map fun name =>
    if name = "SIGIO" then "POLL" else (name.drop 3).toString
  " ".intercalate (names.take 16) ++ "\n" ++ " ".intercalate (names.drop 16) ++ "\n"

def killUsage : String :=
  "\nUsage:\n kill [options] <pid> [...]\n\nOptions:\n" ++
  " <pid> [...]            send signal to every <pid> listed\n" ++
  " -<signal>, -s, --signal <signal>\n" ++
  "                        specify the <signal> to be sent\n" ++
  " -q, --queue <value>    integer value to be sent with the signal\n" ++
  " -l, --list=[<signal>]  list all signal names, or convert one to a name\n" ++
  " -L, --table            list all signal names in a nice table\n\n" ++
  " -h, --help     display this help and exit\n" ++
  " -V, --version  output version information and exit\n\n" ++
  "For more details see kill(1).\n"

def killTool (arguments : List String) : Tool Nat := do
  let (signal, targets) ← match arguments with
    | "-s" :: name :: rest => pure (signalNumbered? name, rest)
    | "-l" :: [] => do
        say signalList
        quit 0
    | "-l" :: number :: _ => do
        let name := number.toNat?.bind fun number => Completion.signalNames[number % 128 - 1]?
        say (((name.map fun name => (name.drop 3).toString).getD number) ++ "\n")
        quit 0
    | word :: rest =>
        match word.toList with
        | '-' :: '-' :: [] => pure (some 15, rest)
        | '-' :: c :: name => pure (signalNumbered? (String.ofList (c :: name)), rest)
        | _ => pure (some 15, arguments)
    | [] => pure (some 15, [])
  if targets.isEmpty then
    tell killUsage
    quit 1
  targets.forM fun word => do
    match word.toInt?, signal with
    | none, _ => fault ("failed to parse argument: " ++ quote word)
    | some _, none => fault ("(" ++ word ++ "): Invalid argument")
    | some target, some signal =>
        match ← ask (.signal target signal) with
        | .ok _ => pure ()
        | .error cause => fault ("(" ++ word ++ "): " ++ cause.description)
  done

def whoamiTool (arguments : List String) : Tool Nat := do
  let given ← options [] arguments
  if let some extra := given.operands.head? then extraOperand extra
  say "root\n"
  done

def groupsTool (_ : List String) : Tool Nat := do
  say "root\n"
  done

def idTool (arguments : List String) : Tool Nat := do
  let given ← options [.flag 'u' ["user"], .flag 'g' ["group"], .flag 'G' ["groups"],
    .flag 'n' ["name"], .flag 'r' ["real"], .flag 'z' ["zero"]] arguments
  if given.has "u" || given.has "g" || given.has "G" then
    say (if given.has "n" then "root\n" else "0\n")
  else say "uid=0(root) gid=0(root) groups=0(root)\n"
  done

def unameTool (arguments : List String) : Tool Nat := do
  let given ← options [.flag 's' ["kernel-name"], .flag 'n' ["nodename"],
    .flag 'r' ["kernel-release"], .flag 'v' ["kernel-version"], .flag 'm' ["machine"],
    .flag 'p' ["processor"], .flag 'o' ["operating-system"], .flag 'a' ["all"]] arguments
  if let some extra := given.operands.head? then extraOperand extra
  let wants (key : String) : Bool := given.has key || given.has "a"
  let parts := [("s", "Linux"), ("n", "localhost"), ("m", "x86_64"), ("o", "GNU/Linux")]
  let shownParts := parts.filter fun (key, _) => wants key
  say (" ".intercalate (if shownParts.isEmpty then ["Linux"] else shownParts.map (·.2)) ++ "\n")
  done

def ttyTool (arguments : List String) : Tool Nat := do
  let given ← options [.flag 's' ["silent", "quiet"]] arguments
  if !given.has "s" then say "not a tty\n"
  return 1

def archTool (_ : List String) : Tool Nat := do
  say "x86_64\n"
  done

def lognameTool (_ : List String) : Tool Nat := die "no login name"

def nprocTool (_ : List String) : Tool Nat := do
  say "1\n"
  done

def whichTool (arguments : List String) : Tool Nat := do
  let switches : List Switch := [.flag 'a' [], .flag 's' []]
  let given ← match readWords switches true (arguments.length + 1) arguments {} with
    | .ok given => pure given
    | .error misuse => do
        let letter := match misuse with
          | .invalid letter => letter
          | _ => '-'
        remark ("Illegal option -" ++ letter.toString ++ "\n")
        say "Usage: /usr/bin/which [-as] args\n"
        quit 2
  let isProgram (path : String) : Tool Bool := do
    match ← statusAt path true with
    | .ok status => return status.kind == .file && Entry.isRunnable status.mode
    | .error _ => return false
  let directories := (((← get).settings.lookup "PATH").getD "").splitOn ":"
  let found ← given.operands.mapM fun name => do
    let places := if name.toList.contains '/' then [name] else
      directories.map fun directory => (if directory.isEmpty then "." else directory) ++ "/" ++ name
    let hits ← places.filterM isProgram
    let hits := if given.has "a" then hits else hits.take 1
    if !given.has "s" then hits.forM fun path => say (path ++ "\n")
    return !hits.isEmpty
  return if found.isEmpty || found.contains false then 1 else 0

end Acceptance.Tools
