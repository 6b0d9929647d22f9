import Acceptance.Completion
import Acceptance.FileTree.Access

namespace Acceptance

open Text (Bytes)

-- What is asked of a process and what comes of it.

inductive Channel where
  | nothing
  | collected
  | opened (place : Place)
  deriving DecidableEq, Repr

structure Request where
  program : String
  arguments : List String
  input : Channel := .nothing
  output : Channel := .nothing
  diagnostics : Channel := .nothing
  deriving DecidableEq, Repr

inductive Stream where
  | output
  | diagnostics
  deriving DecidableEq, Repr

inductive Reply where
  | refused (cause : IoError)
  -- The process came to an end after `elapsed` milliseconds. The given pieces were collected, in
  -- this order, and the tree was left as given.
  | ended (completion : Completion) (collected : List (Stream × Bytes)) (tree : FileTree)
      (elapsed : Nat)
  deriving DecidableEq, Repr

-- Starts a process in a tree and waits for it, at most for the given number of milliseconds.
abbrev Launcher := Option Nat → FileTree → Request → Reply

def captured (collected : List (Stream × Bytes)) : Bytes := collected.flatMap (·.2)

-- What a process finds on its standard input. There is no end to a device of zeros; it counts as
-- empty here.
def FileTree.inputOf (tree : FileTree) : Channel → Bytes
  | .opened place =>
      match tree.entry? place with
      | some (.file content _) => content
      | _ => []
  | _ => []

-- What a process does, told without its streams: whether it starts, how it ends, which pieces it
-- writes, and how it leaves the tree apart from those.
abbrev Behaviour := Option Nat → FileTree → (program : String) → (arguments : List String) →
  (input : Bytes) → Reply

-- The channels that take the two streams, each with the offset of the next byte.
structure Sinks where
  output : Channel
  diagnostics : Channel
  outputOffset : Nat := 0
  diagnosticsOffset : Nat := 0
  deriving DecidableEq, Repr

namespace Sinks

def write (tree : FileTree) (channel : Channel) (offset : Nat) (bytes : Bytes) : FileTree :=
  match channel with
  | .opened place => tree.writeAt place offset bytes
  | _ => tree

def step (state : Sinks × FileTree) (piece : Stream × Bytes) : Sinks × FileTree :=
  let (sinks, tree) := state
  match piece with
  | (.output, bytes) =>
      ({ sinks with outputOffset := sinks.outputOffset + bytes.length },
        write tree sinks.output sinks.outputOffset bytes)
  | (.diagnostics, bytes) =>
      ({ sinks with diagnosticsOffset := sinks.diagnosticsOffset + bytes.length },
        write tree sinks.diagnostics sinks.diagnosticsOffset bytes)

def deliver (sinks : Sinks) (pieces : List (Stream × Bytes)) (tree : FileTree) : FileTree :=
  (pieces.foldl step (sinks, tree)).2

end Sinks

def Channel.collects (channel : Channel) : Bool := channel == .collected

-- The launcher of programs that behave as given: what they write is delivered to the channels of
-- the request when they have ended.
def Launcher.ofBehaviour (behaviour : Behaviour) : Launcher := fun bound tree request =>
  match behaviour bound tree request.program request.arguments (tree.inputOf request.input) with
  | .refused cause => .refused cause
  | .ended completion pieces after elapsed =>
      let sinks : Sinks := { output := request.output, diagnostics := request.diagnostics }
      let collected := pieces.filter fun (stream, _) =>
        match stream with
        | .output => request.output.collects
        | .diagnostics => request.diagnostics.collects
      .ended completion collected (sinks.deliver pieces after) elapsed

end Acceptance
