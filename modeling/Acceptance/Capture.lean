import Acceptance.Process

namespace Acceptance.Capture

open Text (Bytes)

def chunkLimit : Nat := 8192

inductive Phase where
  | reading
  -- The chunk has been read and is not in the buffer yet.
  | holding (chunk : Bytes)
  | finished
  deriving DecidableEq, Repr

structure Reader where
  unread : Bytes
  phase : Phase := .reading
  deriving DecidableEq, Repr

structure Readers where
  output : Reader
  diagnostics : Reader
  collected : List (Stream × Bytes) := []
  deriving DecidableEq, Repr

structure Move where
  stream : Stream
  ready : Nat := 0
  deriving DecidableEq, Repr

-- A read gives what is ready, or tells that the stream has come to its end. Where nothing is ready
-- the reader waits.
def Reader.read (reader : Reader) (ready : Nat) : Reader :=
  let count := min ready chunkLimit
  if reader.unread.isEmpty then { reader with phase := .finished }
  else if count = 0 then reader
  else
    let (chunk, rest) := reader.unread.splitAt count
    { unread := rest, phase := .holding chunk }

namespace Readers

def start (streams : Stream → Bytes) : Readers where
  output := { unread := streams .output }
  diagnostics := { unread := streams .diagnostics }

def reader (readers : Readers) : Stream → Reader
  | .output => readers.output
  | .diagnostics => readers.diagnostics

def setReader (readers : Readers) : Stream → Reader → Readers
  | .output, reader => { readers with output := reader }
  | .diagnostics, reader => { readers with diagnostics := reader }

def add (readers : Readers) (stream : Stream) (chunk : Bytes) : Readers :=
  { readers with collected := (stream, chunk) :: readers.collected }

def step (readers : Readers) (move : Move) : Readers :=
  let reader := readers.reader move.stream
  match reader.phase with
  | .reading => readers.setReader move.stream (reader.read move.ready)
  | .holding chunk =>
      (readers.setReader move.stream { reader with phase := .reading }).add move.stream chunk
  | .finished => readers

def run (readers : Readers) (moves : List Move) : Readers := moves.foldl step readers

def isDone (readers : Readers) : Bool :=
  readers.output.phase == .finished && readers.diagnostics.phase == .finished

def pieces (readers : Readers) : List (Stream × Bytes) := readers.collected.reverse

end Readers

-- What a stream brings when the given pieces are written one after the other.
def streamOf (written : List (Stream × Bytes)) (stream : Stream) : Bytes :=
  (written.filter (·.1 == stream)).flatMap (·.2)

def chunkSizes (length : Nat) : List Nat :=
  if length = 0 then []
  else min length chunkLimit :: chunkSizes (length - chunkLimit)
termination_by length
decreasing_by
  unfold chunkLimit
  omega

def chunkMoves (stream : Stream) (size : Nat) : List Move := [{ stream, ready := size }, { stream }]

def promptly (written : List (Stream × Bytes)) : List Move :=
  written.flatMap fun (stream, bytes) => (chunkSizes bytes.length).flatMap (chunkMoves stream)

-- The readers are waited for, unless the time ran out.
def closing (completion : Completion) : List Move :=
  if completion = .timedOut then [] else [{ stream := .output }, { stream := .diagnostics }]

def gather (completion : Completion) (written : List (Stream × Bytes)) : List (Stream × Bytes) :=
  ((Readers.start (streamOf written)).run (promptly written ++ closing completion)).pieces

end Acceptance.Capture
