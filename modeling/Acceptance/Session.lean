import Acceptance.Outcome
import Acceptance.Process

namespace Acceptance

-- The state of a run: the file tree, the time that has passed, and everything the runner did that
-- can be seen from outside, in order.

inductive Event where
  | printed (block : String)
  | warned (block : String)
  | wrote (stream : Stream) (content : String)
  | started (stage : Stage) (request : Request)
  | removed (path : String)
  | created (path : String)
  deriving DecidableEq, Repr

structure Session where
  tree : FileTree
  events : List Event := []
  clock : Nat := 0
  deriving DecidableEq, Repr

namespace Session

def emit (session : Session) (event : Event) : Session :=
  { session with events := session.events ++ [event] }

def say (session : Session) (block : String) : Session := session.emit (.printed block)

def sayAll (session : Session) (blocks : List String) : Session := blocks.foldl say session

def warn (session : Session) (block : String) : Session := session.emit (.warned block)

def printedText (session : Session) : String :=
  String.join (session.events.filterMap fun
    | .printed block => some (block ++ "\n")
    | .wrote .output content => some content
    | _ => none)

def warnedText (session : Session) : String :=
  String.join (session.events.filterMap fun
    | .warned block => some (block ++ "\n")
    | .wrote .diagnostics content => some content
    | _ => none)

def streamAt? (tree : FileTree) (path : String) : Option Stream :=
  match tree.status path with
  | .ok (.device (.descriptor 1)) => some .output
  | .ok (.device (.descriptor 2)) => some .diagnostics
  | _ => none

def write (session : Session) (path content : String) : Except IoError Session :=
  match session.tree.write path (Text.utf8 content) with
  | .error cause => .error cause
  | .ok tree =>
      match streamAt? tree path with
      | some stream => .ok ({ session with tree }.emit (.wrote stream content))
      | none => .ok { session with tree }

end Session

-- Starts a process for a stage and waits for it. The reply says what became of it; the tree is
-- taken over as the process left it.
def Launcher.start (launch : Launcher) (bound : Option Nat) (stage : Stage) (request : Request)
    (session : Session) : Reply × Session :=
  match launch bound session.tree request with
  | .refused cause => (.refused cause, session)
  | .ended completion collected tree elapsed =>
      (.ended completion collected tree elapsed,
        { session.emit (.started stage request) with
          tree, clock := session.clock + elapsed })

end Acceptance
