import Acceptance.Process
import Acceptance.Text.Octets

namespace Acceptance.Kernel

open Text (Bytes)

-- System calls, and processes as what they do next.

abbrev Settings := List (String × String)

structure Opening where
  reads : Bool := false
  writes : Bool := false
  appends : Bool := false
  creates : Bool := false
  exclusive : Bool := false
  truncates : Bool := false
  mode : Nat := 0o666
  deriving DecidableEq, Repr

def Opening.forReading : Opening := { reads := true }

def Opening.forWriting : Opening := { writes := true, creates := true, truncates := true }

def Opening.forAppending : Opening := { writes := true, creates := true, appends := true }

inductive Kind where
  | file
  | directory
  | link
  | device
  | pipe
  deriving DecidableEq, Repr

structure Status where
  kind : Kind
  size : Nat := 0
  mode : Nat := 0o755
  names : Nat := 1
  identity : String
  device : Option Device := none
  appends : Bool := false
  deriving DecidableEq, Repr

inductive Change where
  | makeDirectory (path : String)
  | removeDirectory (path : String)
  | remove (path : String)
  | rename (old new : String)
  | link (old new : String)
  | symlink (target path : String)
  | setMode (path : String) (mode : Nat)
  deriving DecidableEq, Repr

inductive Origin where
  | start
  | current
  | finish
  deriving DecidableEq, Repr

inductive Disposition where
  | standard
  | ignored
  | caught
  deriving DecidableEq, Repr

inductive Call where
  | read (descriptor count : Nat)
  | write (descriptor : Nat) (bytes : Bytes)
  | open (path : String) (opening : Opening)
  | close (descriptor : Nat)
  -- A second descriptor from `least` on. One that is hidden does not outlive a change of program.
  | duplicate (descriptor least : Nat) (hidden : Bool)
  | redirect (descriptor target : Nat)
  | seek (descriptor : Nat) (origin : Origin) (offset : Int)
  | pipe
  | inspect (path : String) (follow : Bool)
  | inspectOpen (descriptor : Nat)
  | list (path : String)
  | readLink (path : String)
  | change (change : Change)
  | enter (path : String)
  | here
  | mask (value : Option Nat)
  -- Becomes another program. There is an answer only if that fails.
  | become (path : String) (arguments : List String) (settings : Settings)
  -- Waits for a child, any one or a given one, at most for a number of microseconds.
  | wait (child : Option Nat) (patience : Option Nat)
  | signal (target : Int) (number : Nat)
  | dispose (number : Nat) (disposition : Disposition)
  | disposition (number : Nat)
  | arrived
  | work (time : Nat)
  | rest (time : Nat)
  | clock
  | identity
  | lead
  deriving DecidableEq, Repr

abbrev Call.Answer : Call → Type
  | .read _ _ => Except IoError Bytes
  | .write _ _ | .open _ _ | .duplicate _ _ _ | .seek _ _ _ => Except IoError Nat
  | .close _ | .redirect _ _ | .change _ | .enter _ | .signal _ _ => Except IoError Unit
  | .pipe => Nat × Nat
  | .inspect _ _ | .inspectOpen _ => Except IoError Status
  | .list _ => Except IoError (List String)
  | .readLink _ | .here => Except IoError String
  | .mask _ | .clock => Nat
  | .become _ _ _ => IoError
  | .wait _ _ => Except IoError (Option (Nat × Completion))
  | .dispose _ _ | .work _ | .rest _ | .lead => Unit
  | .disposition _ => Disposition
  | .arrived => List Nat
  | .identity => Nat × Nat

inductive Process where
  | exit (status : Nat)
  | fork (child : Process) (next : Nat → Process)
  | call (call : Call) (next : call.Answer → Process)

end Acceptance.Kernel
