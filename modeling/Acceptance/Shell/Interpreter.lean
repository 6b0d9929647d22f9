import Acceptance.Shell.Builtin.Condition
import Acceptance.Shell.Builtin.Processes

namespace Acceptance.Shell

open Action
open Kernel (Program rounds endless)

-- How a command is run: whether the shell ends with it, and whether somebody looks at its status,
-- so that a failure is no reason to end.
structure Flags where
  exits : Bool := false
  tested : Bool := false

structure Evaluator where
  command : Flags → Command → Action Nat
  word : Style → Word → Action (List Stretch)

structure Source where
  rest : List Char
  line : Nat := 1
  descriptor : Option Nat := none

def blockSize : Nat := 8191

-- The next command of a source, which is asked for more as long as that is needed.
def nextCommand (source : Source) : Action (Reading × Source) :=
  rounds (fun (source, _) => (.finished, source)) (fun (source, complete) => do
    let state ← get
    let reader : Reader :=
      { rest := source.rest, complete, line := source.line, fresh := state.freshDocument
        aliases := state.aliases }
    match readNext reader with
    | .ok (reading, after) =>
        modify fun state => { state with
          documents := after.documents ++ state.documents, freshDocument := after.fresh }
        if source.descriptor.isSome && (← hasOption "v") then
          print 2 (String.ofList (source.rest.take (source.rest.length - after.rest.length)))
        return .finished (reading, { source with rest := after.rest, line := after.line })
    | .error .starved =>
        let bytes ← match source.descriptor with
          | some descriptor =>
              match ← perform (.read descriptor blockSize) with
              | .ok bytes => pure bytes
              | .error _ => pure []
          | none => pure []
        if bytes.isEmpty then return .again (source, true)
        let text := (Text.ofBytes bytes).filter (· != '\x00')
        return .again ({ source with rest := source.rest ++ text }, false)
    | .error (.refused line message) =>
        modify fun state => { state with line }
        fail message) endless (source, source.descriptor.isNone)

namespace Evaluator

variable (evaluator : Evaluator)

def runSource (flags : Flags) (source : Source) : Action Nat :=
  rounds (·.2) (fun (source, status) => do
    match ← nextCommand source with
    | (.finished, _) => return .finished status
    | (.read command last, source) =>
        let status ← match command with
          | some command =>
              evaluator.command { flags with exits := flags.exits && last } command
          | none => pure status
        if (← get).skip = .nothing then return .again (source, status)
        else return .finished status) endless (source, 0)

def runText (flags : Flags) (text : String) : Action Nat :=
  evaluator.runSource flags { rest := text.toList }

def runDescriptor (descriptor : Nat) : Action Nat := do
  let status ← evaluator.runSource {} { rest := [], descriptor := some descriptor }
  modify fun state =>
    if state.skip = .function then { state with skip := .nothing } else state
  return status

-- Does what has to be done at the signals that have arrived.
def handleSignals : Action Unit := do
  let state ← get
  if state.traps.any fun (signal, action) => signal != 0 && !action.isEmpty then
    noteSignals
    let signals := ((← get).pending.mergeSort fun left right => decide (left ≤ right)).eraseDups
    modify fun state => { state with pending := [] }
    if !signals.isEmpty then
      let before := (← get).savedStatus
      let status := before.getD (← get).status
      modify fun state => { state with savedStatus := some status }
      signals.forM fun signal => do
        match (← get).traps.lookup signal with
        | some action =>
            if (← get).skip = .nothing then
              let _ ← evaluator.runText {} action
              if (← get).skip != .function then setStatus status
        | none => pure ()
      modify fun state => { state with savedStatus := before }

def finish : Action Unit := do
  let state ← get
  let adopt : Action Unit :=
    modify fun state => { state with status := state.savedStatus.getD state.status }
  match state.traps.lookup 0 with
  | none => pure ()
  | some action =>
      set { state with
        traps := state.traps.filter (·.1 != 0), skip := .nothing
        savedStatus := some state.status, command := none }
      match ← attempt (evaluator.runText {} action) with
      | .ok _ | .error .exited => adopt
      | .error _ => pure ()
  let _ ← flush

def settle (action : Action Unit) : Action Unit := do
  match ← attempt action with
  | .error .exited =>
      modify fun state => { state with
        status := state.savedStatus.getD state.status, savedStatus := none }
  | _ => modify fun state => { state with savedStatus := none }

def fork (body : Action Unit) : Action Nat := forkShell evaluator.finish (settle body)

def readAll (descriptor : Nat) : Action (List Char) := do
  let blocks ← rounds id (fun (blocks : List Text.Bytes) => do
    match ← perform (.read descriptor 4096) with
    | .ok bytes =>
        if bytes.isEmpty then return .finished blocks else return .again (bytes :: blocks)
    | .error .interrupted =>
        noteSignals
        return .again blocks
    | .error _ => return .finished blocks) endless []
  return Text.ofBytes blocks.reverse.flatten

def capture (body : Option Command) : Action (List Char) := do
  match body with
  | none => return []
  | some body =>
      let (reader, writer) ← perform .pipe
      let number ← evaluator.fork do
        let _ ← perform (.close reader)
        if writer != 1 then
          let _ ← perform (.redirect writer 1)
          let _ ← perform (.close writer)
        let _ ← evaluator.command { exits := true } body
      let _ ← perform (.close writer)
      let text ← readAll reader
      let _ ← perform (.close reader)
      let status ← awaitAll [number]
      modify fun state => { state with substituted := status }
      return text

def expander : Expander := { word := evaluator.word, command := evaluator.capture }

def eval (flags : Flags) (arguments : List String) : Action Nat :=
  match arguments with
  | [] => return 0
  | words => evaluator.runText { tested := flags.tested } (" ".intercalate words)

def dot (arguments : List String) : Action Nat := do
  let (_, operands) ← Builtin.optionsOf "" arguments
  match operands with
  | [] => return 0
  | name :: _ =>
      let path ← if name.toList.contains '/' then pure name else do
        let candidates := (searchPath (← get)).map (joinPath · name)
        let found ← candidates.findM? fun path => do
          match ← perform (.inspect path true) with
          | .ok status => return status.kind == .file
          | .error _ => return false
        match found with
        | some path => pure path
        | none => fail (name ++ ": not found")
      let descriptor ← openFile .input path
      match ← saveDescriptor descriptor with
      | some hidden =>
          modify fun state => { state with command := some path }
          finally_ (evaluator.runDescriptor hidden) (do
            let _ ← perform (.close hidden))
      | none => return 0

def exec (arguments : List String) : Action Nat := do
  match arguments with
  | [] => return 0
  | words => execute words (searchPath (← get))

def exit (arguments : List String) : Action Nat := do
  match arguments with
  | [] => throw .exited
  | text :: _ =>
      let status ← Builtin.plainNumber text
      modify fun state => { state with savedStatus := some status }
      throw .exited

def return_ (arguments : List String) : Action Nat := do
  let status ← match arguments with
    | [] => pure ((← get).savedStatus.getD (← get).status)
    | text :: _ => Builtin.plainNumber text
  modify fun state => { state with skip := .function }
  return status

def leaveLoops (resumes : Bool) (arguments : List String) : Action Nat := do
  let count ← match arguments with
    | [] => pure 1
    | text :: _ => do
        let count ← Builtin.plainNumber text
        if count = 0 then fail ("Illegal number: " ++ text) else pure count
  let count := min count (← get).loops
  if count != 0 then
    modify fun state => { state with skip := if resumes then .resume count else .leave count }
  return 0

def describeCommand (arguments : List String) : Action Nat := do
  let (options, operands) ← Builtin.optionsOf "pvV" arguments
  match operands, options.getLast?.map (·.1) with
  | name :: _, some 'V' => Builtin.describe true name
  | name :: _, some 'v' => Builtin.describe false name
  | _, _ => return 0

def builtin (flags : Flags) (name : String) (arguments : List String) : Action Nat :=
  match name with
  | ":" | "true" => return 0
  | "false" => return 1
  | "." => evaluator.dot arguments
  | "[" | "test" => Builtin.test name arguments
  | "alias" => Builtin.alias_ arguments
  | "break" => leaveLoops false arguments
  | "cd" | "chdir" => Builtin.cd arguments
  | "command" => describeCommand arguments
  | "continue" => leaveLoops true arguments
  | "echo" => Builtin.echo arguments
  | "eval" => evaluator.eval flags arguments
  | "exec" => exec arguments
  | "exit" => exit arguments
  | "export" => Builtin.export_ arguments
  | "getopts" => Builtin.getopts arguments
  | "hash" => Builtin.hash arguments
  | "fg" | "bg" => Builtin.resume arguments
  | "jobs" => Builtin.jobs arguments
  | "kill" => Builtin.kill arguments
  | "local" => Builtin.local_ arguments
  | "printf" => Builtin.printf arguments
  | "pwd" => Builtin.pwd arguments
  | "read" => Builtin.read arguments
  | "readonly" => Builtin.readonly arguments
  | "return" => return_ arguments
  | "set" => Builtin.set_ arguments
  | "shift" => Builtin.shift arguments
  | "times" => Builtin.times arguments
  | "trap" => Builtin.trap arguments
  | "type" => Builtin.type_ arguments
  | "ulimit" => Builtin.ulimit arguments
  | "umask" => Builtin.umask arguments
  | "unalias" => Builtin.unalias arguments
  | "unset" => Builtin.unset arguments
  | "wait" => Builtin.wait arguments
  | _ => return 0

-- Runs a builtin command. Its errors are only a status, unless it is special.
def runBuiltin (flags : Flags) (special : Bool) (name : String) (arguments : List String) :
    Action Nat := do
  let outer := (← get).command
  modify fun state => { state with command := some name }
  let result ← attempt (evaluator.builtin flags name arguments)
  let complete ← flush
  if !complete then warn (name ++ ": I/O error")
  modify fun state => { state with command := outer }
  match result with
  | .ok status =>
      let status := if complete then status else status ||| 1
      setStatus status
      return status
  | .error .failed => if special then throw .failed else return (← get).status
  | .error stop => throw stop

def stripCommand : Nat → List String → Option (List String)
  | 0, _ => none
  | _, [] => none
  | fuel + 1, word :: rest =>
      match word.toList with
      | ['-', '-'] => if rest.isEmpty then none else some rest
      | '-' :: c :: more =>
          if (c :: more).all (· == 'p') then stripCommand fuel rest else none
      | _ => some (word :: rest)

def plainCommand (state : State) : Nat → List String → List String × Bool
  | 0, words => (words, false)
  | fuel + 1, words =>
      match words with
      | "command" :: rest =>
          if (state.functions.lookup "command").isSome then (words, false)
          else
            match stripCommand (rest.length + 1) rest with
            | some rest => ((plainCommand state fuel rest).1, true)
            | none => (words, true)
      | _ => (words, false)

def takesAssignments (name : Option String) : Bool :=
  name.any ["export", "readonly", "local", "alias"].contains

-- The words of a command one after the other. Its name is known once there is one.
def argumentsOf : Option String → List Word → Action (List String)
  | _, [] => return []
  | name, word :: rest => do
      let fields ← if takesAssignments name && Word.isAssignment word then do
          pure [← evaluator.expander.text { assignment := true } word]
        else evaluator.expander.fields word
      return fields ++ (← argumentsOf (name.or (fields.find? (· != "command"))) rest)

def assignAll (isLocal exported : Bool) (assignments : List Word) : Action (List String) :=
  assignments.mapM fun word => do
    let text ← evaluator.expander.text { assignment := true } word
    let (name, value) := splitAssignment text
    if isLocal then makeLocal name
    assignAs (isLocal || exported) name (value.getD "")
    return text

def trace (words : List String) : Action Unit := do
  let state ← get
  if state.options.contains "x" then
    print state.traceDescriptor
      ((state.lookup "PS4").getD "" ++ " ".intercalate words ++ "\n")

def overflow {α : Type} : Action α := do
  let (number, _) ← perform .identity
  let _ ← perform (.signal number 11)
  throw .ended

def callLimit : Nat := 10000

def runFunction (flags : Flags) (body : Command) (arguments : List String) : Action Nat := do
  let outer ← get
  if callLimit ≤ outer.calls then return ← overflow
  modify fun state => { state with
    parameters := arguments, calls := state.calls + 1, loops := 0, optionOffset := 0 }
  finally_ (evaluator.command { tested := flags.tested } body) (modify fun state => { state with
    parameters := outer.parameters, calls := outer.calls, loops := outer.loops
    optionOffset := outer.optionOffset
    skip := if state.skip = .function then .nothing else state.skip })

def runProgram (flags : Flags) (arguments : List String) : Action Nat := do
  let state ← get
  let name := arguments.headD ""
  let located ← if name.toList.contains '/' then pure (.found [])
    else locate name (searchPath state) .noEntry
  match located with
  | .missing cause =>
      warn (name ++ ": " ++ reasonFor (← absence name) cause)
      return 127
  | .found directories =>
      modify (·.track name)
      if flags.exits && state.traps.all (·.2.isEmpty) then execute arguments directories
      else
        let number ← evaluator.fork (execute arguments directories)
        awaitAll [number]

def runWords (flags : Flags) (special bare : Bool) (arguments : List String) : Action Nat := do
  let state ← get
  match arguments with
  | [] =>
      setStatus state.substituted
      noteEnded
      return state.substituted
  | name :: rest =>
      match if bare then none else state.functions.lookup name with
      | some (_, body) =>
          let status ← evaluator.runFunction flags body rest
          noteEnded
          return status
      | none =>
          if Builtin.builtinNames.contains name then
            let status ← evaluator.runBuiltin flags special name rest
            noteEnded
            return status
          else evaluator.runProgram flags arguments

def effort : Nat := 10

def simple (flags : Flags) (line : Nat) (assignments words : List Word)
    (redirects : List Redirect) : Action Nat := do
  perform (.work effort)
  modify fun state => { state with line, substituted := 0, traceDescriptor := 2 }
  let found ← evaluator.argumentsOf none words
  let state ← get
  let special := match found with
    | name :: _ =>
        Rules.specialBuiltins.contains name && (state.functions.lookup name).isNone
    | [] => false
  let (arguments, bare) := plainCommand state (found.length + 1) found
  let isLocal := !found.isEmpty && !special
  let isExec := arguments.head? == some "exec"
  let body : Action Nat := do
    let opened ← redirects.mapM evaluator.expander.redirect
    let (complete, saved) ← applyAll (some []) opened
    let saved := saved.getD []
    finally_ (do
      if !complete then
        setStatus 2
        if special then throw .failed
        return 2
      let texts ← evaluator.assignAll isLocal (isExec && 1 < arguments.length) assignments
      let traceDescriptor := (saved.lookup 2).join.getD 2
      modify fun state => { state with traceDescriptor }
      trace (texts ++ found)
      evaluator.runWords flags special bare arguments)
      (if isExec && complete then dropSaved saved else restoreAll saved)
  if isLocal then inScope body else body

def skipLoop : Action Bool := do
  match (← get).skip with
  | .nothing => return true
  | .leave count =>
      if count ≤ 1 then
        modify fun state => { state with skip := .nothing }
      else modify fun state => { state with skip := .leave (count - 1) }
      return false
  | .resume count =>
      if count ≤ 1 then
        modify fun state => { state with skip := .nothing }
        return true
      else
        modify fun state => { state with skip := .resume (count - 1) }
        return false
  | .function => return false

def inLoop (action : Action Nat) : Action Nat := do
  modify fun state => { state with loops := state.loops + 1 }
  let status ← action
  modify fun state => { state with loops := state.loops - 1 }
  return status

def optional (flags : Flags) (command : Option Command) : Action Nat := do
  match command with
  | some command => evaluator.command flags command
  | none => return (← get).status

def loop (flags : Flags) (wanted : Bool) (test body : Option Command) : Action Nat :=
  inLoop (rounds id (fun status => do
    let result ← evaluator.optional { tested := true } test
    let skipped := (← get).skip
    if skipped != .nothing then
      let status := if skipped = .function then result else status
      if ← skipLoop then return .again status else return .finished status
    if (result == 0) != wanted then return .finished status
    let status ← evaluator.optional { tested := flags.tested } body
    if ← skipLoop then return .again status else return .finished status) endless 0)

def atLine (line : Nat) : Action Unit := modify fun state => { state with line }

def eachRound (flags : Flags) (name : String) (body : Option Command) : Nat → List String →
    Action Nat
  | status, [] => return status
  | _, value :: rest => do
      assign name value
      let status ← evaluator.optional { tested := flags.tested } body
      if ← skipLoop then eachRound flags name body status rest else return status

def each (flags : Flags) (line : Nat) (name : String) (words : List Word)
    (body : Option Command) : Action Nat := do
  atLine line
  let values ← words.mapM evaluator.expander.fields
  inLoop (evaluator.eachRound flags name body 0 values.flatten)

def anyMatches (subject : List Char) : List Word → Action Bool
  | [] => return false
  | pattern :: rest => do
      if Pattern.covers (← evaluator.expander.pattern pattern) subject then return true
      anyMatches subject rest

def firstCase (flags : Flags) (subject : List Char) :
    List (List Word × Option Command) → Action Nat
  | [] => return 0
  | (patterns, body) :: rest => do
      if ← evaluator.anyMatches subject patterns then
        match body with
        | some body => evaluator.command flags body
        | none => return 0
      else firstCase flags subject rest

def select (flags : Flags) (line : Nat) (subject : Word)
    (cases : List (List Word × Option Command)) : Action Nat := do
  atLine line
  let text ← evaluator.expander.text { tilde := true } subject
  evaluator.firstCase flags text.toList cases

-- A copy of the shell for a command, which is waited for unless it is in the background.
def subshell (flags : Flags) (line : Nat) (isBackground : Bool) (body : Option Command)
    (redirects : List Redirect) : Action Nat := do
  atLine line
  let opened ← redirects.mapM evaluator.expander.redirect
  let inside : Action Unit := do
    let (complete, _) ← applyAll none opened
    if !complete then throw .failed
    let _ ← evaluator.optional { exits := true, tested := flags.tested && !isBackground } body
  if flags.exits && !isBackground && (← get).traps.all (·.2.isEmpty) then
    inside
    throw .ended
  else
    let number ← evaluator.fork do
      if isBackground then inBackground true
      inside
    if isBackground then
      addJob [number]
      return 0
    else awaitAll [number]

def startPipeline (flags : Flags) (isBackground : Bool) : Option Nat → Bool → List Command →
    Action (List Nat)
  | _, _, [] => return []
  | input, first, command :: rest => do
      let pipe ← if rest.isEmpty then pure none else some <$> perform .pipe
      let number ← evaluator.fork do
        if isBackground then inBackground first
        if let some (reader, _) := pipe then
          let _ ← perform (.close reader)
        if let some input := input then
          if input != 0 then
            let _ ← perform (.redirect input 0)
            let _ ← perform (.close input)
        if let some (_, writer) := pipe then
          if writer != 1 then
            let _ ← perform (.redirect writer 1)
            let _ ← perform (.close writer)
        let _ ← evaluator.command
          { exits := true, tested := flags.tested && !isBackground } command
      if let some input := input then
        let _ ← perform (.close input)
      if let some (_, writer) := pipe then
        let _ ← perform (.close writer)
      return number :: (← startPipeline flags isBackground (pipe.map (·.1)) false rest)

def pipeline (flags : Flags) (isBackground : Bool) (commands : List Command) : Action Nat := do
  let numbers ← evaluator.startPipeline flags isBackground none true commands
  if isBackground then
    addJob numbers
    return 0
  else awaitAll numbers

def redirected (flags : Flags) (line : Nat) (body : Command) (redirects : List Redirect) :
    Action Nat := do
  atLine line
  let opened ← redirects.mapM evaluator.expander.redirect
  let (complete, saved) ← applyAll (some []) opened
  finally_ (do
    if complete then evaluator.command { tested := flags.tested } body else return 2)
    (restoreAll (saved.getD []))

def status (flags : Flags) : Command → Action (Option Nat × Bool)
  | .simple line assignments words redirects => do
      return (some (← evaluator.simple flags line assignments words redirects), true)
  | .pipeline commands isBackground => do
      return (some (← evaluator.pipeline flags isBackground commands), true)
  | .redirected line body redirects => do
      return (some (← evaluator.redirected flags line body redirects), false)
  | .subshell line body redirects => do
      return (some (← evaluator.subshell flags line false body redirects), true)
  | .background line body redirects => do
      return (some (← evaluator.subshell flags line true (some body) redirects), true)
  | .sequence first second => do
      let _ ← evaluator.command { tested := flags.tested } first
      if (← get).skip != .nothing then return (none, false)
      return (some (← evaluator.command flags second), false)
  | .both first second => do
      let result ← evaluator.command { tested := true } first
      if result != 0 || (← get).skip != .nothing then return (none, false)
      return (some (← evaluator.command flags second), false)
  | .either first second => do
      let result ← evaluator.command { tested := true } first
      if result = 0 || (← get).skip != .nothing then return (none, false)
      return (some (← evaluator.command flags second), false)
  | .negated body => do
      let result ← evaluator.command { tested := true } body
      return (some (if result = 0 then 1 else 0), false)
  | .choice test body otherwise => do
      let result ← evaluator.optional { tested := true } test
      if (← get).skip != .nothing then return (none, false)
      if result = 0 then return (some (← evaluator.optional flags body), false)
      match otherwise with
      | some otherwise => return (some (← evaluator.command flags otherwise), false)
      | none => return (some 0, false)
  | .loop wanted test body => do return (some (← evaluator.loop flags wanted test body), false)
  | .each line name words body => do
      return (some (← evaluator.each flags line name words body), false)
  | .select line subject cases => do
      return (some (← evaluator.select flags line subject cases), false)
  | .define line name body => do
      modify fun state => { state with
        functions := (name, line, body) :: state.functions.filter (·.1 != name) }
      return (some 0, false)

def run (flags : Flags) (command : Command) : Action Nat := do
  if ← hasOption "n" then return 0
  evaluator.handleSignals
  let (status, checked) ← evaluator.status flags command
  if let some status := status then setStatus status
  if checked && !flags.tested && (← get).status != 0 && (← hasOption "e") then throw .ended
  evaluator.handleSignals
  if flags.exits then throw .ended
  return (← get).status

end Evaluator

def evaluatorFor : Nat → Evaluator
  | 0 => { command := fun _ _ => Evaluator.overflow, word := fun _ _ => Evaluator.overflow }
  | depth + 1 => {
      command := fun flags command state => (evaluatorFor depth).run flags command state
      word := fun style word state => (evaluatorFor depth).expander.stretches style word state }

def depthLimit : Nat := 50000

def evaluator : Evaluator := evaluatorFor depthLimit

end Acceptance.Shell
