import Acceptance.Kernel.Program
import Acceptance.Kernel.Queue

namespace Acceptance.Kernel

open Text (Bytes)

-- The state that processes share: the tree, what they have open, the pipes between them, and
-- their own state.

inductive Subject where
  | file (place : Place)
  | nameless (number : Nat)
  | directory (place : Place)
  | device (device : Device)
  | pipe (number : Nat)
  | collector (stream : Stream)
  deriving DecidableEq, Repr

structure OpenFile where
  subject : Subject
  offset : Nat := 0
  reads : Bool := false
  writes : Bool := false
  appends : Bool := false
  ahead : Option Bytes := none
  deriving DecidableEq, Repr

structure Slot where
  descriptor : Nat
  file : Nat
  hidden : Bool := false
  deriving DecidableEq, Repr

inductive Life where
  | running
  | stopped
  | ended (completion : Completion)
  deriving DecidableEq, Repr

structure Task where
  number : Nat
  parent : Nat
  group : Nat := parent
  process : Process
  slots : List Slot := []
  cwd : Place := []
  mask : Nat := 0o022
  time : Nat := 0
  written : Nat := 0
  waiting : Bool := false
  life : Life := .running
  ignored : List Nat := []
  caught : List Nat := []
  arrived : List Nat := []
  doom : Option Nat := none

structure World where
  tree : FileTree
  nameless : List (Nat × Bytes × Nat) := []
  files : List (Nat × OpenFile) := []
  ends : List (Subject × Nat × Queue) := []
  pipes : List (Nat × Queue) := []
  tasks : List Task := []
  collected : List (Stream × Bytes) := []
  fresh : Nat := 1000
  clock : Nat := 0

def assign {α : Type} : List (Nat × α) → Nat → α → List (Nat × α)
  | [], key, value => [(key, value)]
  | (key', value') :: entries, key, value =>
      if key' = key then (key, value) :: entries else (key', value') :: assign entries key value

namespace World

def task? (world : World) (number : Nat) : Option Task :=
  world.tasks.find? (·.number == number)

def setTask (world : World) (task : Task) : World :=
  { world with tasks := world.tasks.map fun other =>
      if other.number = task.number then task else other }

def file? (world : World) (number : Nat) : Option OpenFile := world.files.lookup number

def setFile (world : World) (number : Nat) (file : OpenFile) : World :=
  { world with files := assign world.files number file }

def sweep (world : World) : World :=
  { world with files := world.files.filter fun (number, _) =>
      world.tasks.any fun task => task.slots.any (·.file == number) }

def hasWriter (world : World) (pipe : Nat) : Bool :=
  world.files.any fun (_, file) => file.writes && file.subject == .pipe pipe

def hasReader (world : World) (pipe : Nat) : Bool :=
  world.files.any fun (_, file) => file.reads && file.subject == .pipe pipe

def written (world : World) : List (Stream × Bytes) := world.collected.reverse

def hasCollector (world : World) : Bool :=
  world.files.any fun (_, file) =>
    match file.subject with
    | .collector _ => true
    | _ => false

def stored? (world : World) : Subject → Option (Bytes × Nat)
  | .file place =>
      match world.tree.entry? place with
      | some (.file content mode) => some (content, mode)
      | _ => none
  | .nameless number => world.nameless.lookup number
  | _ => none

-- Gives an open file new content. What readers knew of it counts no more.
def store (world : World) (subject : Subject) (content : Bytes) (mode : Nat) : World :=
  let world := { world with files := world.files.map fun (number, file) =>
    (number, { file with ahead := none }) }
  match subject with
  | .file place => { world with tree := world.tree.store place content mode }
  | .nameless number => { world with nameless := assign world.nameless number (content, mode) }
  | _ => world

def settle (world : World) : World :=
  world.ends.foldl (fun world (subject, _, queue) =>
    match world.stored? subject with
    | some (content, mode) => world.store subject (content ++ queue.content) mode
    | none => world) { world with ends := [] }

-- Whether a file has one name only, so that what is written to it can be kept apart.
def isSingle (world : World) : Subject → Bool
  | .file place => (world.tree.twins place).length = 1
  | _ => true

def extend (world : World) (subject : Subject) (size : Nat) (bytes : Bytes) : World :=
  let queue := ((world.ends.lookup subject).map (·.2)).getD {}
  { world with ends := (subject, size + bytes.length, queue.push bytes) ::
      world.ends.filter (·.1 != subject) }

def redirectSubjects (world : World) (change : Subject → Subject) : World :=
  { world with files := world.files.map fun (number, file) =>
      (number, { file with subject := change file.subject }) }

-- Removes the name of a file. If the file is open and has no other name, it stays without one.
def unname (world : World) (place : Place) : World :=
  let isOpen := world.files.any fun (_, file) => file.subject == .file place
  let tree := world.tree.erase place
  if !isOpen then { world with tree }
  else
    let heir := match (world.tree.twins place).filter (· != place) with
      | other :: _ => Subject.file other
      | [] => .nameless world.fresh
    let world := match world.stored? (.file place) with
      | some kept =>
          { world with
            nameless := assign world.nameless world.fresh kept, fresh := world.fresh + 1 }
      | none => world
    let follow (subject : Subject) : Subject := if subject = .file place then heir else subject
    { world with tree }.redirectSubjects follow

def move (world : World) (old new : Place) : World :=
  let moved := FileTree.moved old new
  let follow : Subject → Subject
    | .file place => .file (moved place)
    | .directory place => .directory (moved place)
    | subject => subject
  let tasks := world.tasks.map fun task => { task with cwd := moved task.cwd }
  { world with tree := world.tree.move old new, tasks }.redirectSubjects follow

end World

namespace Task

def slot? (task : Task) (descriptor : Nat) : Option Slot :=
  task.slots.find? (·.descriptor == descriptor)

def dropSlot (task : Task) (descriptor : Nat) : Task :=
  { task with slots := task.slots.filter (·.descriptor != descriptor) }

def putSlot (task : Task) (slot : Slot) : Task :=
  { task with slots := slot :: (task.dropSlot slot.descriptor).slots }

-- The lowest number from `least` on that is not taken.
def freeDescriptor (task : Task) (least : Nat) : Nat :=
  (((List.range (task.slots.length + 1)).map (· + least)).find? fun number =>
    (task.slot? number).isNone).getD least

def isAlive (task : Task) : Bool :=
  match task.life with
  | .ended _ => false
  | _ => true

end Task
end Acceptance.Kernel
