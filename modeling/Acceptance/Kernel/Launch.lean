import Acceptance.Capture
import Acceptance.Environment
import Acceptance.Kernel.Schedule

namespace Acceptance.Kernel

open Text (Bytes)

-- The launcher that runs programs in a world of their own.

def standardPath : String := "/bin:/usr/bin"

def joinSearch (directory name : String) : String :=
  if directory.isEmpty then name else directory ++ "/" ++ name

-- The first directory in which the program can be run. That access was denied somewhere counts
-- more than that nothing was found.
def searchIn (image : String → Except IoError (String × List String)) (name : String) :
    List String → IoError → Except IoError (String × List String)
  | [], cause => .error cause
  | directory :: directories, cause =>
      match image (joinSearch directory name) with
      | .ok found => .ok found
      | .error failure =>
          if failure = .accessDenied then searchIn image name directories .accessDenied
          else if failure = .noEntry || failure = .notDirectory then
            searchIn image name directories cause
          else .error failure

def search (task : Task) (world : World) (name : String) (arguments : List String)
    (settings : Settings) : Except IoError (String × List String) :=
  let image := fun path => task.image world path arguments settings
  if name.isEmpty then .error .noEntry
  else if name.toList.contains '/' then image name
  else searchIn image name (((settings.lookup "PATH").getD standardPath).splitOn ":") .noEntry

def channelSubject (tree : FileTree) (stream : Stream) : Channel → Subject
  | .nothing => .device .null
  | .collected => .collector stream
  | .opened place =>
      match tree.entry? place with
      | some .directory => .directory place
      | some (.device (.descriptor _)) => .device .null
      | some (.device device) => .device device
      | _ => .file place

def runnerNumber : Nat := 400
def firstNumber : Nat := 401

def emptyWorld (tree : FileTree) (request : Request) : World where
  tree := tree
  files := [
    (0, { subject := channelSubject tree .output request.input, reads := true }),
    (1, { subject := channelSubject tree .output request.output, writes := true }),
    (2, { subject := channelSubject tree .diagnostics request.diagnostics, writes := true })]

def firstTask (tree : FileTree) : Task where
  number := firstNumber
  parent := runnerNumber
  process := .exit 0
  slots := [⟨0, 0, false⟩, ⟨1, 1, false⟩, ⟨2, 2, false⟩]
  cwd := tree.cwd

def turnLimit : Nat := 100000000

def grace : Nat := 20000

-- The world after the first process, and what became of that. All output is awaited, unless the
-- time ran out.
def life (load : Loader) (bound : Option Nat) (world : World) : Completion × Nat × World :=
  let world := world.runUntil load bound (fun world => (world.completion? firstNumber).isSome)
    turnLimit
  match world.completion? firstNumber with
  | none =>
      let time := bound.getD world.clock
      let world := world.finish firstNumber (.signaled Signal.kill false)
      (.timedOut, time, world.runUntil load (some (time + grace)) (fun _ => false) turnLimit)
  | some completion =>
      let time := world.clock
      let world := world.runUntil load none (fun world => !world.hasCollector) turnLimit
      (completion, time,
        world.runUntil load (some (world.clock + grace)) (fun _ => false) turnLimit)

-- The settings of an environment; the first of several with one name counts.
def settingsOf (env : Environment) : Settings :=
  let names := (env.settings.map (·.1)).eraseDups
  names.filterMap fun name =>
    (env.settings.lookup name).map fun value => (Text.encode name, Text.encode value)

def hasZero (text : String) : Bool := text.toList.contains '\x00'

-- Carries out a request: how it ends, when, and the world it leaves. A bound of zero is over before
-- anything has run.
def conduct (load : Loader) (env : Environment) (bound : Option Nat) (tree : FileTree)
    (request : Request) : Except IoError (Completion × Nat × World) :=
  if hasZero request.program || request.arguments.any hasZero then .error .nulInArgument
  else
    let task := firstTask tree
    let world := emptyWorld tree request
    let settings := settingsOf env
    let arguments := (request.program :: request.arguments).map Text.encode
    match search task world (Text.encode request.program) arguments settings with
    | .error cause => .error cause
    | .ok (name, arguments) =>
        if bound = some 0 then .ok (.timedOut, 0, world)
        else .ok (life load (bound.map (· * 1000))
          { world with tasks := [{ task with process := load name arguments settings }] })

def launcher (load : Loader) (env : Environment) : Launcher := fun bound tree request =>
  match conduct load env bound tree request with
  | .error cause => .refused cause
  | .ok (completion, time, world) =>
      .ended completion (Capture.gather completion world.written)
        { world.settle.tree with cwd := tree.cwd } (time / 1000)

end Acceptance.Kernel
