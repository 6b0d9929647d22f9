import Acceptance.Kernel.Image

namespace Acceptance.Kernel

open Text (Bytes)

abbrev Loader := String → List String → Settings → Process

namespace Signal

def child : Nat := 17
def kill : Nat := 9
def resume : Nat := 18

def isHarmless (signal : Nat) : Bool := [17, 18, 23, 28].contains signal

def isStopping (signal : Nat) : Bool := [19, 20, 21, 22].contains signal

def isMighty (signal : Nat) : Bool := signal == 9 || signal == 19

end Signal

namespace World

def announce (world : World) (number signal : Nat) : World :=
  { world with tasks := world.tasks.map fun task =>
      if task.number = number && task.caught.contains signal && !task.arrived.contains signal then
        { task with arrived := task.arrived ++ [signal] }
      else task }

def finish (world : World) (number : Nat) (completion : Completion) : World :=
  let parent := ((world.task? number).map (·.parent)).getD 0
  let tasks := world.tasks.filterMap fun task =>
    if task.number = number then some { task with life := .ended completion, slots := [] }
    else if task.parent = number then
      if task.isAlive then some { task with parent := 1 } else none
    else some task
  ({ world with tasks }.sweep).announce parent Signal.child

def doomDelay : Nat := 150

def deliver (world : World) (sender : Nat) (task : Task) (signal : Nat) : World :=
  if task.doom.isSome then world
  else if signal = Signal.resume then
    let task := if task.life = .stopped then
        { task with life := .running, time := max task.time world.clock }
      else task
    (world.setTask task).announce task.number signal
  else if !Signal.isMighty signal && task.ignored.contains signal then world
  else if !Signal.isMighty signal && task.caught.contains signal then
    world.announce task.number signal
  else if Signal.isHarmless signal then world
  else if Signal.isStopping signal then world.setTask { task with life := .stopped }
  else if task.number = sender then world.finish task.number (.signaled signal false)
  else world.setTask { task with
    life := if signal = 9 then .running else task.life
    doom := some signal, time := world.clock + doomDelay }

-- Whether a signal of a process is meant for another one: by its number, for zero as one of the
-- same group, for a negative number by its group, and for the first of those anyway.
def isMeant (sender : Task) (target : Int) (task : Task) : Bool :=
  if 0 < target then task.number = target
  else if target = 0 then task.group = sender.group
  else if target = -1 then task.number != sender.number
  else (task.group : Int) = -target

def send (world : World) (sender : Task) (target : Int) (signal : Nat) : Except IoError World :=
  let targets := world.tasks.filter (isMeant sender target)
  if targets.isEmpty then .error .noProcess
  else if signal = 0 then .ok world
  else .ok (targets.foldl (fun world task =>
    if task.isAlive then world.deliver sender.number task signal else world) world)

end World

namespace Task

def setDisposition (task : Task) (signal : Nat) (disposition : Disposition) : Task :=
  let ignored := task.ignored.filter (· != signal)
  let caught := task.caught.filter (· != signal)
  match disposition with
  | .standard => { task with ignored, caught }
  | .ignored => { task with ignored := signal :: ignored, caught }
  | .caught => { task with ignored, caught := signal :: caught }

def dispositionOf (task : Task) (signal : Nat) : Disposition :=
  if task.ignored.contains signal then .ignored
  else if task.caught.contains signal then .caught
  else .standard

def await (task : Task) (world : World) (child : Option Nat) (patience : Option Nat) :
    Effect (Except IoError (Option (Nat × Completion))) × World :=
  let children := world.tasks.filter fun other =>
    other.parent = task.number && (child.isNone || child = some other.number)
  let ended := children.findSome? fun other =>
    match other.life with
    | .ended completion => some (other.number, completion)
    | _ => none
  match ended with
  | some (number, completion) =>
      (.done (.ok (some (number, completion))),
        { world with tasks := world.tasks.filter (·.number != number) })
  | none =>
      if children.isEmpty then (.done (.error .noChild), world)
      else if patience.any fun time => task.time + time ≤ world.clock then (.done (.ok none), world)
      else (task.orInterrupted, world)

def become (load : Loader) (task : Task) (world : World) (path : String)
    (arguments : List String) (settings : Settings) : Effect IoError × Task × World :=
  match task.image world path arguments settings with
  | .error cause => (.done cause, task, world)
  | .ok (name, arguments) =>
      let task := { task with
        slots := task.slots.filter (!·.hidden), caught := [], arrived := [] }
      (.replaced (load name arguments settings), task, (world.setTask task).sweep)

def looksAtFiles : Call → Bool
  | .open _ _ | .seek _ _ _ | .inspect _ _ | .inspectOpen _ | .change _ | .become _ _ _ => true
  | _ => false

-- What a call does. The task in the world is brought up to date by the caller, unless the call
-- itself changed it there.
def perform (load : Loader) (task : Task) (world : World) : (call : Call) →
    Effect call.Answer × Task × World
  | .read descriptor count =>
      let (effect, world) := task.read world descriptor count
      (effect, task, world)
  | .write descriptor bytes =>
      let (effect, world) := task.write world descriptor bytes
      (effect, task, world)
  | .open path opening =>
      let (answer, task, world) := task.openPath world path opening
      (.done answer, task, world)
  | .close descriptor =>
      let (answer, task, world) := task.close world descriptor
      (.done answer, task, world)
  | .duplicate descriptor least hidden =>
      let (answer, task) := task.duplicate descriptor least hidden
      (.done answer, task, world)
  | .redirect descriptor target =>
      let (answer, task, world) := task.redirect world descriptor target
      (.done answer, task, world)
  | .seek descriptor origin offset =>
      let (answer, world) := task.seek world descriptor origin offset
      (.done answer, task, world)
  | .pipe =>
      let (answer, task, world) := task.makePipe world
      (.done answer, task, world)
  | .inspect path follow => (.done (task.inspect world path follow), task, world)
  | .inspectOpen descriptor => (.done (task.inspectOpen world descriptor), task, world)
  | .list path => (.done (task.list world path), task, world)
  | .readLink path => (.done (task.readLink world path), task, world)
  | .change change =>
      match task.change world change with
      | .ok after =>
          let cwd := ((after.task? task.number).map (·.cwd)).getD task.cwd
          (.done (.ok ()), { task with cwd }, after)
      | .error cause => (.done (.error cause), task, world)
  | .enter path =>
      match task.enter world path with
      | .ok task => (.done (.ok ()), task, world)
      | .error cause => (.done (.error cause), task, world)
  | .here => (.done (task.here world), task, world)
  | .mask value => (.done task.mask, { task with mask := value.getD task.mask }, world)
  | .become path arguments settings => become load task world path arguments settings
  | .wait child patience =>
      let (effect, world) := task.await world child patience
      (effect, task, world)
  | .signal target number =>
      match (world.setTask task).send task target number with
      | .ok world =>
          (.done (.ok ()), (world.task? task.number).getD task, world)
      | .error cause => (.done (.error cause), task, world)
  | .dispose number disposition => (.done (), task.setDisposition number disposition, world)
  | .disposition number => (.done (task.dispositionOf number), task, world)
  | .arrived => (.done task.arrived, { task with arrived := [] }, world)
  | .work time | .rest time => (.done (), { task with time := task.time + time }, world)
  | .clock => (.done (max task.time world.clock), task, world)
  | .identity => (.done (task.number, task.parent), task, world)
  | .lead => (.done (), { task with group := task.number }, world)

end Task

def volume : Call → Nat
  | .write _ bytes => bytes.length
  | _ => 0

def plenty : Nat := 1000000

def cost (task : Task) : Call → Nat
  | .write _ bytes => 2 + bytes.length / (if task.written < plenty then 100 else 2)
  | .read _ count => 2 + count / 1000
  | .become _ _ _ => 300
  | .work _ | .rest _ | .arrived | .clock | .identity | .lead => 0
  | _ => 2

def forkCost : Nat := 100
def forkDelay : Nat := 250

namespace World

def attempt (load : Loader) (world : World) (task : Task) : Option World :=
  let time := max task.time world.clock
  match task.doom, task.process with
  | some signal, _ =>
      some ({ world with clock := time }.finish task.number (.signaled signal false))
  | none, .exit status =>
      some ({ world with clock := time }.finish task.number (.exited (status % 256)))
  | none, .fork child next =>
      let number := world.fresh
      let copy := { task with
        number, parent := task.number, process := child, time := time + forkDelay, written := 0
        arrived := [] }
      let task := { task with process := next number, time := time + forkCost }
      let world := world.setTask task
      some { world with tasks := world.tasks ++ [copy], fresh := number + 1, clock := time }
  | none, .call call next =>
      let world := if Task.looksAtFiles call then world.settle else world
      match Task.perform load task world call with
      | (.blocked, _, _) => none
      | (.done answer, after, world) =>
          let after := { after with
            process := next answer, waiting := false, written := after.written + volume call
            time := (if task.waiting then max after.time time else after.time) + cost task call }
          some { (if after.isAlive then world.setTask after else world) with clock := time }
      | (.replaced process, after, world) =>
          let after := { after with
            process, waiting := false, time := after.time + cost task call }
          some { world.setTask after with clock := time }
      | (.killed signal, after, world) =>
          some ({ world.setTask after with clock := time }.finish after.number
            (.signaled signal false))

def candidates (world : World) : List Task :=
  (world.tasks.filter (·.life == .running)).mergeSort fun left right =>
    decide (left.time ≤ right.time)

inductive Round where
  | progress (world : World)
  | halt (world : World)

def nextTimeout (world : World) : Option Nat :=
  (world.tasks.filterMap fun task =>
    match task.life, task.process with
    | .running, .call (.wait _ (some patience)) _ =>
        if task.doom.isSome then none else some (task.time + patience)
    | _, _ => none).min?

def passTime (bound timeout : Option Nat) (world : World) : Round :=
  match timeout with
  | some time =>
      if time ≤ world.clock || bound.any (· ≤ time) then .halt world
      else .progress { world with clock := time }
  | none => .halt world

-- The first of the tasks that can go on does so, unless that would be too late. Where somebody
-- runs out of patience before, that comes first.
def tryEach (load : Loader) (bound timeout : Option Nat) : List Task → World → Round
  | [], world => world.passTime bound timeout
  | task :: tasks, world =>
      let time := max task.time world.clock
      if timeout.any fun timeout => world.clock < timeout && timeout < time then
        world.passTime bound timeout
      else if bound.any (· ≤ time) then .halt world
      else
        match world.attempt load task with
        | some world => .progress world
        | none => tryEach load bound timeout tasks (world.setTask { task with waiting := true })

def turn (load : Loader) (bound : Option Nat) (world : World) : Round :=
  tryEach load bound world.nextTimeout world.candidates world

-- Turns until a condition holds, at most `fuel` of them.
def runUntil (load : Loader) (bound : Option Nat) (holds : World → Bool) : Nat → World → World
  | 0, world => world
  | fuel + 1, world =>
      if holds world then world
      else
        match world.turn load bound with
        | .progress world => runUntil load bound holds fuel world
        | .halt world => world

def completion? (world : World) (number : Nat) : Option Completion :=
  (world.task? number).bind fun task =>
    match task.life with
    | .ended completion => some completion
    | _ => none

end World
end Acceptance.Kernel
