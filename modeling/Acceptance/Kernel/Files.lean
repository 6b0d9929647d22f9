import Acceptance.Kernel.World

namespace Acceptance.Kernel

open Text (Bytes)

-- Calls on files, descriptors and pipes, and on the tree.

inductive Effect (α : Type) where
  | done (answer : α)
  | blocked
  | replaced (process : Process)
  | killed (signal : Nat)

-- A pipe holds at most this many bytes, and takes this many at once or nothing.
def pipeLimit : Nat := 65536
def pipeUnit : Nat := 4096

namespace Task

def view (task : Task) (world : World) : FileTree := { world.tree with cwd := task.cwd }

def find (task : Task) (world : World) (purpose : FileTree.Purpose) (path : String) :
    Except IoError FileTree.Found :=
  (task.view world).find purpose (Text.nameOf path)

def file? (task : Task) (world : World) (descriptor : Nat) : Option (Nat × OpenFile) := do
  let slot ← task.slot? descriptor
  let file ← world.file? slot.file
  return (slot.file, file)

def install (task : Task) (world : World) (file : OpenFile) : Nat × Task × World :=
  let descriptor := task.freeDescriptor 0
  (descriptor, task.putSlot { descriptor, file := world.fresh },
    { world.setFile world.fresh file with fresh := world.fresh + 1 })

def close (task : Task) (world : World) (descriptor : Nat) :
    Except IoError Unit × Task × World :=
  match task.slot? descriptor with
  | none => (.error .badDescriptor, task, world)
  | some _ =>
      let task := task.dropSlot descriptor
      (.ok (), task, (world.setTask task).sweep)

def newMode (task : Task) (mode : Nat) : Nat := mode - (mode &&& task.mask)

def openSubject (task : Task) (world : World) (opening : Opening) (subject : Subject) :
    Except IoError Nat × Task × World :=
  let world := match world.stored? subject with
    | some (_, mode) =>
        if opening.truncates && opening.writes then world.store subject [] mode else world
    | none => world
  let (descriptor, task, world) := task.install world
    { subject, reads := opening.reads, writes := opening.writes, appends := opening.appends }
  (.ok descriptor, task, world)

def openPlace (task : Task) (world : World) (opening : Opening) (place : Place) :
    Except IoError Nat × Task × World :=
  if opening.exclusive && opening.creates then (.error .alreadyExists, task, world)
  else
    match world.tree.entry? place with
    | some (.file _ _) => task.openSubject world opening (.file place)
    | some .directory =>
        if opening.writes then (.error .isDirectory, task, world)
        else task.openSubject world opening (.directory place)
    | some (.device .terminal) => (.error .noDevice, task, world)
    | some (.device (.descriptor number)) =>
        match task.file? world number with
        | some (_, file) => task.openSubject world opening file.subject
        | none => (.error .noEntry, task, world)
    | some (.device device) => task.openSubject world opening (.device device)
    | some (.link _) => (.error .linkLoop, task, world)
    | none => (.error .noEntry, task, world)

def openPath (task : Task) (world : World) (path : String) (opening : Opening) :
    Except IoError Nat × Task × World :=
  let purpose : FileTree.Purpose :=
    if opening.creates then (if opening.exclusive then .itself else .newFile) else .target
  match task.find world purpose path with
  | .error cause => (.error cause, task, world)
  | .ok (.entry place) => task.openPlace world opening place
  | .ok (.vacant directory name slash) =>
      if !opening.creates then (.error .noEntry, task, world)
      else if slash then (.error .isDirectory, task, world)
      else
        let place := name :: directory
        let tree := world.tree.put place (.file [] (task.newMode opening.mode))
        task.openSubject { world with tree } opening (.file place)

-- Whether a blocked call gives up because a signal has arrived.
def orInterrupted {α : Type} (task : Task) : Effect (Except IoError α) :=
  if task.arrived.isEmpty then .blocked else .done (.error .interrupted)

def readFrom (task : Task) (world : World) (number : Nat) (file : OpenFile) (count : Nat) :
    Effect (Except IoError Bytes) × World :=
  match file.subject with
  | .file _ | .nameless _ =>
      let content : Bytes := match file.ahead, world.stored? file.subject with
        | some content, _ => content
        | none, some (content, _) => content.drop file.offset
        | none, none => []
      let (bytes, ahead) := content.splitAt count
      (.done (.ok bytes), world.setFile number
        { file with offset := file.offset + bytes.length, ahead := some ahead })
  | .directory _ => (.done (.error .isDirectory), world)
  | .device .null => (.done (.ok []), world)
  | .device _ => (.done (.ok (List.replicate count 0)), world)
  | .pipe pipe =>
      let queue := (world.pipes.lookup pipe).getD {}
      if queue.size = 0 then
        if world.hasWriter pipe then (task.orInterrupted, world) else (.done (.ok []), world)
      else
        let (bytes, queue) := queue.pop count
        (.done (.ok bytes), { world with pipes := assign world.pipes pipe queue })
  | .collector _ => (.done (.error .badDescriptor), world)

def read (task : Task) (world : World) (descriptor count : Nat) :
    Effect (Except IoError Bytes) × World :=
  match task.file? world descriptor with
  | some (number, file) =>
      if file.reads then
        match world.ends.lookup file.subject with
        | none => task.readFrom world number file count
        | some _ =>
            -- What the file was known to hold counts no more.
            task.readFrom world.settle number { file with ahead := none } count
      else (.done (.error .badDescriptor), world)
  | none => (.done (.error .badDescriptor), world)

def sigpipe : Nat := 13

def writeBroken (task : Task) : Effect (Except IoError Nat) :=
  if task.ignored.contains sigpipe || task.caught.contains sigpipe then
    .done (.error .brokenPipe)
  else .killed sigpipe

def writeContent (world : World) (number : Nat) (file : OpenFile) (bytes : Bytes) :
    Effect (Except IoError Nat) × World :=
  match world.stored? file.subject with
  | some (content, mode) =>
      let size := content.length
      let offset := if file.appends then size else file.offset
      let world := if offset = size && world.isSingle file.subject then
          world.extend file.subject size bytes
        else world.store file.subject (FileTree.splice content offset bytes) mode
      (.done (.ok bytes.length),
        world.setFile number { file with offset := offset + bytes.length, ahead := none })
  | none => (.done (.ok bytes.length), world)

def writeFile (world : World) (number : Nat) (file : OpenFile) (bytes : Bytes) :
    Effect (Except IoError Nat) × World :=
  match world.ends.lookup file.subject with
  | some (size, _) =>
      if file.appends || file.offset = size then
        (.done (.ok bytes.length), (world.extend file.subject size bytes).setFile number
          { file with offset := size + bytes.length, ahead := none })
      else writeContent world.settle number file bytes
  | none => writeContent world number file bytes

def writeTo (task : Task) (world : World) (number : Nat) (file : OpenFile) (bytes : Bytes) :
    Effect (Except IoError Nat) × World :=
  match file.subject with
  | .file _ | .nameless _ =>
      if bytes.isEmpty then (.done (.ok 0), world) else writeFile world number file bytes
  | .directory _ => (.done (.error .badDescriptor), world)
  | .device .full =>
      (.done (if bytes.isEmpty then .ok 0 else .error .noSpace), world)
  | .device _ => (.done (.ok bytes.length), world)
  | .pipe pipe =>
      if !world.hasReader pipe then (task.writeBroken, world)
      else
        let queue := (world.pipes.lookup pipe).getD {}
        let room := pipeLimit - queue.size
        if room < (bytes.take pipeUnit).length then (task.orInterrupted, world)
        else
          let taken := bytes.take room
          (.done (.ok taken.length),
            { world with pipes := assign world.pipes pipe (queue.push taken) })
  | .collector stream =>
      let collected := if bytes.isEmpty then world.collected else (stream, bytes) :: world.collected
      (.done (.ok bytes.length), { world with collected })

def write (task : Task) (world : World) (descriptor : Nat) (bytes : Bytes) :
    Effect (Except IoError Nat) × World :=
  match task.file? world descriptor with
  | some (number, file) =>
      if file.writes then task.writeTo world number file bytes
      else (.done (.error .badDescriptor), world)
  | none => (.done (.error .badDescriptor), world)

def seek (task : Task) (world : World) (descriptor : Nat) (origin : Origin) (offset : Int) :
    Except IoError Nat × World :=
  match task.file? world descriptor with
  | none => (.error .badDescriptor, world)
  | some (number, file) =>
      match file.subject with
      | .pipe _ | .collector _ => (.error .illegalSeek, world)
      | .device _ => (.ok 0, world)
      | subject =>
          let size := ((world.stored? subject).map (·.1.length)).getD 0
          let base : Int := match origin with
            | .start => 0
            | .current => file.offset
            | .finish => size
          if base + offset < 0 then (.error .invalidArgument, world)
          else
            let offset := (base + offset).toNat
            (.ok offset, world.setFile number { file with offset, ahead := none })

def duplicate (task : Task) (descriptor least : Nat) (hidden : Bool) : Except IoError Nat × Task :=
  match task.slot? descriptor with
  | none => (.error .badDescriptor, task)
  | some slot =>
      let number := task.freeDescriptor least
      (.ok number, task.putSlot { slot with descriptor := number, hidden })

def redirect (task : Task) (world : World) (descriptor target : Nat) :
    Except IoError Unit × Task × World :=
  match task.slot? descriptor with
  | none => (.error .badDescriptor, task, world)
  | some slot =>
      if descriptor = target then (.ok (), task, world)
      else
        let task := task.putSlot { slot with descriptor := target, hidden := false }
        (.ok (), task, (world.setTask task).sweep)

def makePipe (task : Task) (world : World) : (Nat × Nat) × Task × World :=
  let pipe := world.fresh
  let world := { world with pipes := (pipe, {}) :: world.pipes, fresh := world.fresh + 1 }
  let (reader, task, world) := task.install world { subject := .pipe pipe, reads := true }
  let (writer, task, world) := task.install world { subject := .pipe pipe, writes := true }
  ((reader, writer), task, world)

def statusOf (world : World) (subject : Subject) : Status :=
  match subject with
  | .file place =>
      let twins := world.tree.twins place
      let (content, mode) := (world.stored? subject).getD ([], 0)
      { kind := .file, size := content.length, mode, names := twins.length
        identity := Place.text (twins.headD place) }
  | .nameless number =>
      let (content, mode) := (world.stored? subject).getD ([], 0)
      { kind := .file, size := content.length, mode, names := 0, identity := s!"#{number}" }
  | .directory place =>
      { kind := .directory, size := 4096, names := 2, identity := Place.text place }
  | .device device =>
      { kind := .device, mode := 0o666, identity := s!"device {repr device}"
        device := some device }
  | .pipe number => { kind := .pipe, mode := 0o600, identity := s!"pipe {number}" }
  | .collector .output => { kind := .pipe, mode := 0o600, identity := "pipe 1" }
  | .collector .diagnostics => { kind := .pipe, mode := 0o600, identity := "pipe 2" }

def inspectPlace (task : Task) (world : World) (place : Place) : Except IoError Status :=
  match world.tree.entry? place with
  | some (.file _ _) => .ok (statusOf world (.file place))
  | some .directory => .ok (statusOf world (.directory place))
  | some (.link target) =>
      .ok { kind := .link, size := Text.size target, mode := 0o777
            identity := Place.text place }
  | some (.device (.descriptor number)) =>
      match task.file? world number with
      | some (_, file) => .ok { statusOf world file.subject with appends := file.appends }
      | none => .error .noEntry
  | some (.device device) => .ok (statusOf world (.device device))
  | none => .error .noEntry

def inspect (task : Task) (world : World) (path : String) (follow : Bool) :
    Except IoError Status := do
  match ← task.find world (if follow then .target else .itself) path with
  | .entry place => task.inspectPlace world place
  | .vacant _ _ _ => .error .noEntry

def inspectOpen (task : Task) (world : World) (descriptor : Nat) : Except IoError Status :=
  match task.file? world descriptor with
  | some (_, file) => .ok { statusOf world file.subject with appends := file.appends }
  | none => .error .badDescriptor

def list (task : Task) (world : World) (path : String) : Except IoError (List String) :=
  ((task.view world).list (Text.nameOf path)).map (·.map Text.octetsOf)

def readLink (task : Task) (world : World) (path : String) : Except IoError String := do
  match ← task.find world .itself path with
  | .entry place =>
      match world.tree.entry? place with
      | some (.link target) => return Text.octetsOf target
      | _ => .error .invalidArgument
  | .vacant _ _ _ => .error .noEntry

def trimmed (path : String) : String :=
  let short := (FileTree.trimSlashes path).1
  if short.isEmpty then path else short

def makeDirectory (task : Task) (world : World) (path : String) : Except IoError World := do
  let tree ← (task.view world).makeDirectory (Text.nameOf path)
  return { world with tree := { tree with cwd := world.tree.cwd } }

def removeDirectory (task : Task) (world : World) (path : String) : Except IoError World := do
  if path.endsWith "/." || path = "." then .error .invalidArgument
  match ← task.find world .itself (trimmed path) with
  | .vacant _ _ _ => .error .noEntry
  | .entry place =>
      if !world.tree.isDirectoryAt place then .error .notDirectory
      else if !(world.tree.names place).isEmpty then .error .notEmpty
      else return { world with tree := world.tree.erase place }

def removeFile (task : Task) (world : World) (path : String) : Except IoError World := do
  let slash := (FileTree.trimSlashes path).2
  match ← task.find world .itself (trimmed path) with
  | .vacant _ _ _ => .error .noEntry
  | .entry place =>
      if world.tree.isDirectoryAt place then .error .isDirectory
      else if slash then .error .notDirectory
      else return world.unname place

-- What may stand where something is moved to: nothing, an empty directory for a directory, or
-- something that is no directory for something that is none.
def clearTarget (world : World) (moves : Bool) (place : Place) : Except IoError World :=
  let isDirectory := world.tree.isDirectoryAt place
  if moves && !isDirectory then .error .notDirectory
  else if !moves && isDirectory then .error .isDirectory
  else if isDirectory && !(world.tree.names place).isEmpty then .error .notEmpty
  else .ok (if isDirectory then { world with tree := world.tree.erase place }
    else world.unname place)

def rename (task : Task) (world : World) (old new : String) : Except IoError World := do
  let source ← match ← task.find world .itself (trimmed old) with
    | .entry place => pure place
    | .vacant _ _ _ => .error .noEntry
  let isDirectory := world.tree.isDirectoryAt source
  if !isDirectory && (FileTree.trimSlashes old).2 then .error .notDirectory
  match ← task.find world .itself (trimmed new) with
  | .vacant directory name _ =>
      let target := name :: directory
      if !isDirectory && (FileTree.trimSlashes new).2 then .error .notDirectory
      else if FileTree.isWithin source target then .error .invalidArgument
      else return world.move source target
  | .entry target =>
      if target = source || (world.tree.twins source).contains target then return world
      else if FileTree.isWithin source target then .error .invalidArgument
      else if FileTree.isWithin target source then .error .notEmpty
      else
        let world ← clearTarget world isDirectory target
        return world.move source target

def makeTwin (task : Task) (world : World) (old new : String) : Except IoError World := do
  let source ← match ← task.find world .itself old with
    | .entry place => pure place
    | .vacant _ _ _ => .error .noEntry
  match ← task.find world .itself new with
  | .entry _ => .error .alreadyExists
  | .vacant directory name slash =>
      if world.tree.isDirectoryAt source then .error .notPermitted
      else if slash then .error .noEntry
      else return { world with tree := world.tree.twin source (name :: directory) }

def makeLink (task : Task) (world : World) (target path : String) : Except IoError World := do
  if target.isEmpty then .error .noEntry
  let tree ← (task.view world).makeLink (Text.nameOf target) (Text.nameOf path)
  return { world with tree := { tree with cwd := world.tree.cwd } }

def existing (task : Task) (world : World) (path : String) : Except IoError Place := do
  match ← task.find world .target path with
  | .entry place => return place
  | .vacant _ _ _ => .error .noEntry

def setMode (task : Task) (world : World) (path : String) (mode : Nat) :
    Except IoError World := do
  let place ← task.existing world path
  match world.stored? (.file place) with
  | some (content, _) => return world.store (.file place) content mode
  | none => return world

def change (task : Task) (world : World) : Change → Except IoError World
  | .makeDirectory path => task.makeDirectory world path
  | .removeDirectory path => task.removeDirectory world path
  | .remove path => task.removeFile world path
  | .rename old new => task.rename world old new
  | .link old new => task.makeTwin world old new
  | .symlink target path => task.makeLink world target path
  | .setMode path mode => task.setMode world path mode

def enter (task : Task) (world : World) (path : String) : Except IoError Task := do
  let place ← task.existing world path
  if world.tree.isDirectoryAt place then return { task with cwd := place }
  else .error .notDirectory

def here (task : Task) (world : World) : Except IoError String :=
  if world.tree.isDirectoryAt task.cwd then .ok (Text.octetsOf (Place.text task.cwd))
  else .error .noEntry

end Task
end Acceptance.Kernel
