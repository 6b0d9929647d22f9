import Acceptance.Kernel.Launch
import Acceptance.Proofs.Course

namespace Acceptance.Capture

open Text (Bytes)

-- What is collected of a process under any schedule of the two readers.

inductive Merges {α : Type} : List α → List α → List α → Prop where
  | nil : Merges [] [] []
  | left {first second merged : List α} (element : α) (rest : Merges first second merged) :
      Merges (element :: first) second (element :: merged)
  | right {first second merged : List α} (element : α) (rest : Merges first second merged) :
      Merges first (element :: second) (element :: merged)

section Merges

variable {α : Type} {first second merged : List α}

theorem Merges.append_left (front : List α) (rest : Merges first second merged) :
    Merges (front ++ first) second (front ++ merged) := by
  induction front with
  | nil => exact rest
  | cons element front ih => exact .left element ih

theorem Merges.append_right (front : List α) (rest : Merges first second merged) :
    Merges first (front ++ second) (front ++ merged) := by
  induction front with
  | nil => exact rest
  | cons element front ih => exact .right element ih

theorem Merges.eq_left (merges : Merges first [] merged) : merged = first := by
  induction first generalizing merged with
  | nil =>
      cases merges
      rfl
  | cons element first ih =>
      cases merges with
      | left _ rest => rw [ih rest]

theorem Merges.eq_right (merges : Merges [] second merged) : merged = second := by
  induction second generalizing merged with
  | nil =>
      cases merges
      rfl
  | cons element second ih =>
      cases merges with
      | right _ rest => rw [ih rest]

end Merges

variable {stream : Stream} {streams : Stream → Bytes} {readers : Readers}

theorem streamOf_cons (piece : Stream × Bytes) (written : List (Stream × Bytes))
    (stream : Stream) : streamOf (piece :: written) stream =
      (if piece.1 = stream then piece.2 else []) ++ streamOf written stream := by
  unfold streamOf
  by_cases same : piece.1 = stream <;> simp [same]

theorem streamOf_concat (written : List (Stream × Bytes)) (piece : Stream × Bytes)
    (stream : Stream) : streamOf (written ++ [piece]) stream =
      streamOf written stream ++ if piece.1 = stream then piece.2 else [] := by
  unfold streamOf
  by_cases same : piece.1 = stream <;> simp [same]

theorem captured_merges (written : List (Stream × Bytes)) :
    Merges (streamOf written .output) (streamOf written .diagnostics) (captured written) := by
  induction written with
  | nil => exact .nil
  | cons piece written ih =>
      obtain ⟨stream, bytes⟩ := piece
      rw [streamOf_cons, streamOf_cons]
      cases stream with
      | output => exact ih.append_left bytes
      | diagnostics => exact ih.append_right bytes

theorem Merges.pieces {output diagnostics buffer : Bytes}
    (merges : Merges output diagnostics buffer) : ∃ written,
    streamOf written .output = output ∧ streamOf written .diagnostics = diagnostics ∧
      captured written = buffer := by
  induction merges with
  | nil => exact ⟨[], rfl, rfl, rfl⟩
  | left byte _ ih =>
      obtain ⟨written, rfl, rfl, rfl⟩ := ih
      exact ⟨(.output, [byte]) :: written, by simp [streamOf_cons], by simp [streamOf_cons], rfl⟩
  | right byte _ ih =>
      obtain ⟨written, rfl, rfl, rfl⟩ := ih
      exact ⟨(.diagnostics, [byte]) :: written, by simp [streamOf_cons], by simp [streamOf_cons],
        rfl⟩

namespace Readers

@[simp] theorem reader_setReader (readers : Readers) (stream other : Stream) (reader : Reader) :
    (readers.setReader stream reader).reader other =
      if other = stream then reader else readers.reader other := by
  cases stream <;> cases other <;> rfl

@[simp] theorem pieces_setReader (readers : Readers) (stream : Stream) (reader : Reader) :
    (readers.setReader stream reader).pieces = readers.pieces := by
  cases stream <;> rfl

@[simp] theorem reader_add (readers : Readers) (stream other : Stream) (chunk : Bytes) :
    (readers.add stream chunk).reader other = readers.reader other := by
  cases other <;> rfl

@[simp] theorem pieces_add (readers : Readers) (stream : Stream) (chunk : Bytes) :
    (readers.add stream chunk).pieces = readers.pieces ++ [(stream, chunk)] :=
  List.reverse_cons

theorem step_reading {ready : Nat} (reading : (readers.reader stream).phase = .reading) :
    readers.step ⟨stream, ready⟩ =
      readers.setReader stream ((readers.reader stream).read ready) := by
  simp only [step, reading]

theorem step_holding {ready : Nat} {chunk : Bytes}
    (holding : (readers.reader stream).phase = .holding chunk) :
    readers.step ⟨stream, ready⟩ =
      (readers.setReader stream { readers.reader stream with phase := .reading }).add stream
        chunk := by
  simp only [step, holding]

theorem step_finished {ready : Nat} (finished : (readers.reader stream).phase = .finished) :
    readers.step ⟨stream, ready⟩ = readers := by
  simp only [step, finished]

end Readers

def Reader.pending (reader : Reader) : Bytes :=
  match reader.phase with
  | .holding chunk => chunk ++ reader.unread
  | _ => reader.unread

theorem Reader.read_pending {reader : Reader} (reading : reader.phase = .reading) (ready : Nat) :
    (reader.read ready).pending = reader.pending := by
  unfold read
  simp only
  split
  · simp [pending, reading]
  split
  · rfl
  · simp [pending, reading]

theorem Reader.read_finished {reader : Reader} (reading : reader.phase = .reading) {ready : Nat}
    (finished : (reader.read ready).phase = .finished) : (reader.read ready).unread = [] := by
  unfold read at finished ⊢
  simp only at finished ⊢
  split at finished
  · rename_i empty
    rw [if_pos empty]
    exact List.isEmpty_iff.mp empty
  split at finished
  · rw [reading] at finished
    cases finished
  · cases finished

-- All that a stream brings is in the buffer or has yet to get there, and a reader only comes to
-- its end when nothing is left.
structure Readers.Lossless (streams : Stream → Bytes) (readers : Readers) : Prop where
  whole : ∀ stream, streamOf readers.pieces stream ++ (readers.reader stream).pending =
    streams stream
  ended : ∀ stream, (readers.reader stream).phase = .finished →
    (readers.reader stream).unread = []

namespace Readers

theorem start_lossless (streams : Stream → Bytes) : (start streams).Lossless streams := by
  constructor
  · intro stream
    cases stream <;> rfl
  · intro stream finished
    cases stream <;> cases finished

theorem step_lossless (lossless : readers.Lossless streams) (move : Move) :
    (readers.step move).Lossless streams := by
  obtain ⟨stream, ready⟩ := move
  cases phase : (readers.reader stream).phase with
  | finished =>
      rw [step_finished phase]
      exact lossless
  | reading =>
      rw [step_reading phase]
      constructor
      · intro other
        rw [pieces_setReader, reader_setReader]
        by_cases same : other = stream
        · subst same
          rw [if_pos rfl, Reader.read_pending phase]
          exact lossless.whole other
        · rw [if_neg same]
          exact lossless.whole other
      · intro other finished
        rw [reader_setReader] at finished ⊢
        by_cases same : other = stream
        · subst same
          rw [if_pos rfl] at finished ⊢
          exact Reader.read_finished phase finished
        · rw [if_neg same] at finished ⊢
          exact lossless.ended other finished
  | holding chunk =>
      rw [step_holding phase]
      constructor
      · intro other
        have whole := lossless.whole other
        rw [pieces_add, pieces_setReader, reader_add, reader_setReader, streamOf_concat]
        by_cases same : other = stream
        · subst same
          simpa [Reader.pending, phase] using whole
        · simpa [same, Ne.symm same] using whole
      · intro other finished
        rw [reader_add, reader_setReader] at finished ⊢
        by_cases same : other = stream
        · rw [if_pos same] at finished
          cases finished
        · rw [if_neg same] at finished ⊢
          exact lossless.ended other finished

theorem run_lossless (lossless : readers.Lossless streams) (moves : List Move) :
    (readers.run moves).Lossless streams := by
  induction moves generalizing readers with
  | nil => exact lossless
  | cons move moves ih => exact ih (step_lossless lossless move)

theorem Lossless.begins (lossless : readers.Lossless streams) (stream : Stream) :
    streamOf readers.pieces stream <+: streams stream :=
  ⟨_, lossless.whole stream⟩

theorem isDone_iff : readers.isDone ↔ ∀ stream, (readers.reader stream).phase = .finished := by
  simp only [isDone, Bool.and_eq_true, beq_iff_eq]
  constructor
  · intro done stream
    cases stream with
    | output => exact done.1
    | diagnostics => exact done.2
  · intro finished
    exact ⟨finished .output, finished .diagnostics⟩

theorem Lossless.complete (lossless : readers.Lossless streams) (done : readers.isDone)
    (stream : Stream) : streamOf readers.pieces stream = streams stream := by
  have finished := isDone_iff.mp done stream
  have whole := lossless.whole stream
  simpa [Reader.pending, finished, lossless.ended stream finished] using whole

end Readers

-- A piece falls into chunks, each of which is read at once.
theorem chunkSizes_chunks (bytes : Bytes) : ∃ chunks : List Bytes,
    chunks.flatten = bytes ∧ chunks.map List.length = chunkSizes bytes.length ∧
      ∀ chunk ∈ chunks, chunk ≠ [] ∧ chunk.length ≤ chunkLimit := by
  induction size : bytes.length using Nat.strongRecOn generalizing bytes with
  | ind size ih =>
      subst size
      rw [chunkSizes]
      split
      · rename_i empty
        exact ⟨[], (List.length_eq_zero_iff.mp empty).symm, rfl, by simp⟩
      · rename_i filled
        have positive : 0 < chunkLimit := by decide
        obtain ⟨chunks, whole, sizes, fit⟩ := ih (bytes.drop chunkLimit).length
          (by rw [List.length_drop]; omega) _ rfl
        refine ⟨bytes.take chunkLimit :: chunks, ?_, ?_, ?_⟩
        · rw [List.flatten_cons, whole, List.take_append_drop]
        · rw [List.map_cons, sizes, List.length_take, List.length_drop, Nat.min_comm]
        · intro chunk member
          rcases List.mem_cons.mp member with rfl | later
          · refine ⟨?_, by rw [List.length_take]; omega⟩
            intro empty
            have nothing := congrArg List.length empty
            rw [List.length_take, List.length_nil] at nothing
            omega
          · exact fit chunk later

namespace Readers

theorem run_append (readers : Readers) (earlier later : List Move) :
    readers.run (earlier ++ later) = (readers.run earlier).run later := List.foldl_append

structure Takes (stream : Stream) (bytes rest : Bytes) (before after : Readers) : Prop where
  left : ∀ other, after.reader other =
    if other = stream then { unread := rest } else before.reader other
  added : captured after.pieces = captured before.pieces ++ bytes

theorem run_chunk {chunk rest : Bytes} (filled : chunk ≠ []) (small : chunk.length ≤ chunkLimit)
    (waiting : readers.reader stream = { unread := chunk ++ rest }) :
    Takes stream chunk rest readers (readers.run (chunkMoves stream chunk.length)) := by
  have reads : (readers.reader stream).read chunk.length =
      { unread := rest, phase := .holding chunk } := by
    have positive := List.length_pos_iff.mpr filled
    simp only [waiting, Reader.read, Nat.min_eq_left small]
    simp [filled]
  have holds : ((readers.step ⟨stream, chunk.length⟩).reader stream).phase = .holding chunk := by
    rw [step_reading (by rw [waiting]), reads, reader_setReader, if_pos rfl]
  have ran : readers.run (chunkMoves stream chunk.length) =
      (readers.step ⟨stream, chunk.length⟩).step ⟨stream, 0⟩ := rfl
  rw [ran, step_holding holds, step_reading (by rw [waiting]), reads]
  constructor
  · intro other
    rw [reader_add, reader_setReader, reader_setReader, reader_setReader]
    by_cases same : other = stream
    · simp [same]
    · simp [same]
  · simp [captured]

theorem Takes.next {one two rest rest' : Bytes} {first second : Readers}
    (front : Takes stream one rest readers first) (back : Takes stream two rest' first second) :
    Takes stream (one ++ two) rest' readers second := by
  constructor
  · intro other
    rw [back.left, front.left]
    by_cases same : other = stream
    · rw [if_pos same, if_pos same]
    · rw [if_neg same, if_neg same, if_neg same]
  · rw [back.added, front.added, List.append_assoc]

theorem run_chunks {chunks : List Bytes} {rest : Bytes}
    (fit : ∀ chunk ∈ chunks, chunk ≠ [] ∧ chunk.length ≤ chunkLimit)
    (waiting : readers.reader stream = { unread := chunks.flatten ++ rest }) :
    Takes stream chunks.flatten rest readers
      (readers.run ((chunks.map List.length).flatMap (chunkMoves stream))) := by
  induction chunks generalizing readers with
  | nil =>
      constructor
      · intro other
        by_cases same : other = stream
        · rw [if_pos same, same]
          exact waiting
        · rw [if_neg same]
          rfl
      · exact (List.append_nil _).symm
  | cons chunk chunks ih =>
      rw [List.flatten_cons, List.append_assoc] at waiting
      rw [List.map_cons, List.flatMap_cons, run_append, List.flatten_cons]
      obtain ⟨filled, small⟩ := fit chunk List.mem_cons_self
      have front := run_chunk filled small waiting
      refine front.next (ih (fun chunk member => fit chunk (List.mem_cons_of_mem _ member)) ?_)
      rw [front.left, if_pos rfl]

-- Each piece is in the buffer before the next one is written.
theorem run_promptly (written : List (Stream × Bytes)) (rest : Stream → Bytes)
    (waiting : ∀ stream,
      readers.reader stream = { unread := streamOf written stream ++ rest stream }) :
    (∀ stream, (readers.run (promptly written)).reader stream = { unread := rest stream }) ∧
      captured (readers.run (promptly written)).pieces =
        captured readers.pieces ++ captured written := by
  induction written generalizing readers with
  | nil => exact ⟨waiting, (List.append_nil _).symm⟩
  | cons piece written ih =>
      obtain ⟨stream, bytes⟩ := piece
      obtain ⟨chunks, rfl, sizes, fit⟩ := chunkSizes_chunks bytes
      have own := waiting stream
      rw [streamOf_cons, if_pos rfl, List.append_assoc] at own
      have front := run_chunks fit own
      rw [sizes] at front
      have moved : readers.run (promptly ((stream, chunks.flatten) :: written)) =
          (readers.run ((chunkSizes chunks.flatten.length).flatMap (chunkMoves stream))).run
            (promptly written) := by
        rw [← run_append]
        rfl
      have next : ∀ other, (readers.run ((chunkSizes chunks.flatten.length).flatMap
          (chunkMoves stream))).reader other =
            { unread := streamOf written other ++ rest other } := by
        intro other
        rw [front.left]
        by_cases same : other = stream
        · rw [if_pos same, same]
        · rw [if_neg same, waiting other, streamOf_cons, if_neg (Ne.symm same), List.nil_append]
      obtain ⟨left, added⟩ := ih next
      rw [moved]
      refine ⟨left, ?_⟩
      rw [added, front.added, List.append_assoc]
      rfl

theorem run_closing {completion : Completion} (waited : completion ≠ .timedOut)
    (empty : ∀ stream, readers.reader stream = { unread := [] }) :
    (readers.run (closing completion)).isDone ∧
      (readers.run (closing completion)).pieces = readers.pieces := by
  have first := empty .output
  have second := empty .diagnostics
  obtain ⟨output, diagnostics, collected⟩ := readers
  simp only [reader] at first second
  subst first second
  rw [closing, if_neg waited]
  exact ⟨rfl, rfl⟩

end Readers

-- What the buffer can hold when it is looked at: both readers have been waited for, unless the
-- time ran out.
def Collects (streams : Stream → Bytes) (completion : Completion)
    (collected : List (Stream × Bytes)) : Prop :=
  ∃ moves, (completion ≠ .timedOut → ((Readers.start streams).run moves).isDone) ∧
    ((Readers.start streams).run moves).pieces = collected

-- A merge of both streams, or of what each of them begins with if the time ran out.
def Merged (streams : Stream → Bytes) (completion : Completion) (buffer : Bytes) : Prop :=
  ∃ output diagnostics, output <+: streams .output ∧ diagnostics <+: streams .diagnostics ∧
    (completion ≠ .timedOut →
      output = streams .output ∧ diagnostics = streams .diagnostics) ∧
    Merges output diagnostics buffer

variable {completion : Completion} {collected : List (Stream × Bytes)} {buffer : Bytes}

theorem Collects.merged (collects : Collects streams completion collected) :
    Merged streams completion (captured collected) := by
  obtain ⟨moves, waited, rfl⟩ := collects
  have lossless := Readers.run_lossless (Readers.start_lossless streams) moves
  refine ⟨_, _, lossless.begins .output, lossless.begins .diagnostics, ?_, captured_merges _⟩
  intro inTime
  have done := waited inTime
  exact ⟨lossless.complete done .output, lossless.complete done .diagnostics⟩

-- Readers that keep up collect what is written, whatever the streams would have brought later.
theorem collects_promptly (written : List (Stream × Bytes)) (rest : Stream → Bytes)
    (begun : ∀ stream, streams stream = streamOf written stream ++ rest stream)
    (waited : completion ≠ .timedOut → ∀ stream, rest stream = []) :
    Collects streams completion
        ((Readers.start streams).run (promptly written ++ closing completion)).pieces ∧
      captured ((Readers.start streams).run (promptly written ++ closing completion)).pieces =
        captured written := by
  have waiting : ∀ stream, (Readers.start streams).reader stream =
      { unread := streamOf written stream ++ rest stream } := by
    intro stream
    rw [← begun]
    cases stream <;> rfl
  obtain ⟨left, added⟩ := Readers.run_promptly written rest waiting
  have same : captured ((Readers.start streams).run (promptly written)).pieces =
    captured written := added
  by_cases late : completion = .timedOut
  · subst late
    rw [show closing .timedOut = [] from rfl, List.append_nil]
    exact ⟨⟨_, fun inTime => absurd rfl inTime, rfl⟩, same⟩
  · have empty : ∀ stream, ((Readers.start streams).run (promptly written)).reader stream =
        { unread := [] } := by
      intro stream
      rw [left, waited late stream]
    obtain ⟨done, kept⟩ := Readers.run_closing late empty
    rw [← Readers.run_append] at done kept
    refine ⟨⟨_, fun _ => done, rfl⟩, ?_⟩
    rw [kept, same]

theorem Merged.collects (merged : Merged streams completion buffer) :
    ∃ collected, Collects streams completion collected ∧ captured collected = buffer := by
  obtain ⟨output, diagnostics, front, front', waited, merges⟩ := merged
  obtain ⟨written, rfl, rfl, rfl⟩ := merges.pieces
  have begun : ∀ stream, streamOf written stream <+: streams stream := by
    intro stream
    cases stream with
    | output => exact front
    | diagnostics => exact front'
  have whole : completion ≠ .timedOut → ∀ stream, streamOf written stream = streams stream := by
    intro inTime stream
    cases stream with
    | output => exact (waited inTime).1
    | diagnostics => exact (waited inTime).2
  -- Only a part of the streams is written; nobody reads the rest.
  refine ⟨_, collects_promptly written
    (fun stream => (streams stream).drop (streamOf written stream).length) ?_ ?_⟩
  · intro stream
    exact (List.prefix_iff_eq_append.mp (begun stream)).symm
  · intro inTime stream
    rw [whole inTime stream]
    exact List.drop_length

theorem gather_collects (completion : Completion) (written : List (Stream × Bytes)) :
    Collects (streamOf written) completion (gather completion written) ∧
      captured (gather completion written) = captured written :=
  collects_promptly written (fun _ => []) (fun _ => (List.append_nil _).symm) fun _ _ => rfl

end Acceptance.Capture

namespace Acceptance

open Capture (Collects Merged streamOf gather)

theorem Kernel.launcher_ended {load : Kernel.Loader} {env : Environment} {bound : Option Nat}
    {tree after : FileTree} {request : Request} {completion : Completion}
    {collected : List (Stream × Text.Bytes)} {elapsed : Nat}
    (ended : Kernel.launcher load env bound tree request =
      .ended completion collected after elapsed) :
    ∃ time world, Kernel.conduct load env bound tree request = .ok (completion, time, world) ∧
      collected = gather completion world.written := by
  unfold Kernel.launcher at ended
  cases conducted : Kernel.conduct load env bound tree request with
  | error cause =>
      rw [conducted] at ended
      cases ended
  | ok result =>
      obtain ⟨completion', time, world⟩ := result
      rw [conducted] at ended
      cases ended
      exact ⟨time, world, rfl, rfl⟩

theorem Pipeline.startCompiler_ended {pipeline : Pipeline} {case : Case} {input : Place}
    {session : Session} {after : FileTree} {completion : Completion}
    {collected : List (Stream × Text.Bytes)} {elapsed : Nat}
    (answer : pipeline.launch pipeline.bound session.tree (pipeline.compilerRequest case input) =
      .ended completion collected after elapsed) :
    (pipeline.startCompiler case input session).1 =
      pipeline.compileResult case completion (Text.lossy (captured collected)) after := by
  rw [startCompiler_eq, Launcher.start, logCommand_tree, answer]

namespace Capture

-- With nothing on the other stream the buffer holds one stream, in whatever chunks it came.
theorem Merged.alone {streams : Stream → Text.Bytes} {completion : Completion}
    {buffer : Text.Bytes} (merged : Merged streams completion buffer) {stream other : Stream}
    (differ : stream ≠ other) (silent : streams other = []) :
    buffer <+: streams stream ∧ (completion ≠ .timedOut → buffer = streams stream) := by
  obtain ⟨output, diagnostics, front, front', waited, merges⟩ := merged
  cases stream <;> cases other
  · exact absurd rfl differ
  · rw [silent, List.prefix_nil] at front'
    subst front'
    rw [merges.eq_left]
    exact ⟨front, fun inTime => (waited inTime).1⟩
  · rw [silent, List.prefix_nil] at front
    subst front
    rw [merges.eq_right]
    exact ⟨front', fun inTime => (waited inTime).2⟩
  · exact absurd rfl differ

theorem captured_output_merges_streams (completion : Completion) :
    (∀ streams buffer,
      (∃ collected, Collects streams completion collected ∧ captured collected = buffer) ↔
        Merged streams completion buffer) ∧
    (∀ streams collected stream other, Collects streams completion collected → stream ≠ other →
      streams other = [] →
        ∃ part, part <+: streams stream ∧ (completion ≠ .timedOut → part = streams stream) ∧
          Text.lossy (captured collected) = Text.lossy part) ∧
    (∀ written, Collects (streamOf written) completion (gather completion written) ∧
      captured (gather completion written) = captured written) ∧
    (∀ (load : Kernel.Loader) (env : Environment) (bound : Option Nat) (tree after : FileTree)
      (request : Request) (collected : List (Stream × Text.Bytes)) (elapsed : Nat),
      Kernel.launcher load env bound tree request = .ended completion collected after elapsed →
        ∃ time world, Kernel.conduct load env bound tree request = .ok (completion, time, world) ∧
          collected = gather completion world.written ∧
          Collects (streamOf world.written) completion collected) ∧
    ∀ (pipeline : Pipeline) (case : Case) (input : Place) (session : Session) (after : FileTree)
      (collected : List (Stream × Text.Bytes)) (elapsed : Nat),
      pipeline.launch pipeline.bound session.tree (pipeline.compilerRequest case input) =
        .ended completion collected after elapsed →
      (pipeline.startCompiler case input session).1 =
        pipeline.compileResult case completion (Text.lossy (captured collected)) after := by
  refine ⟨fun streams buffer => ⟨?_, Merged.collects⟩, ?_, gather_collects completion, ?_, ?_⟩
  · rintro ⟨collected, collects, rfl⟩
    exact collects.merged
  · intro streams collected stream other collects differ silent
    obtain ⟨begun, whole⟩ := collects.merged.alone differ silent
    exact ⟨_, begun, whole, rfl⟩
  · intro load env bound tree after request collected elapsed ended
    obtain ⟨time, world, conducted, rfl⟩ := Kernel.launcher_ended ended
    exact ⟨time, world, conducted, rfl, (gather_collects completion world.written).1⟩
  · intro pipeline case input session after collected elapsed answer
    exact Pipeline.startCompiler_ended answer

-- A tool that writes one character, in halves.
namespace Halves

def streams : Stream → Text.Bytes
  | .output => Text.utf8 "é"
  | .diagnostics => []

-- The first byte waits outside the buffer while the other reader comes to its end.
def moves : List Move :=
  [⟨.output, 1⟩, ⟨.diagnostics, 0⟩, ⟨.output, 0⟩, ⟨.output, 8⟩, ⟨.output, 0⟩, ⟨.output, 0⟩]

def collected : List (Stream × Text.Bytes) := [(.output, [0xC3]), (.output, [0xA9])]

def load : Kernel.Loader := fun _ _ _ =>
  .call (.write 1 [0xC3]) fun _ => .call (.write 1 [0xA9]) fun _ => .exit 0

def tree : FileTree where
  entries := [(["tool"], .file (Kernel.Image.ofName "tool") 493)]

def request : Request where
  program := "/tool"
  arguments := []
  output := .collected
  diagnostics := .collected

def launch : Launcher := Kernel.launcher load { settings := [] }

end Halves

theorem captured_output_merges_streams_halves :
    (Collects Halves.streams (.exited 0) Halves.collected ∧
      Merged Halves.streams (.exited 0) [0xC3, 0xA9] ∧
      Text.lossy (captured Halves.collected) = "é") ∧
    captured (gather (.exited 0) Halves.collected) = [0xC3, 0xA9] ∧
    Halves.launch none Halves.tree Halves.request =
        .ended (.exited 0) Halves.collected Halves.tree 0 ∧
      ∃ time world, Kernel.conduct Halves.load { settings := [] } none Halves.tree Halves.request =
          .ok (.exited 0, time, world) ∧ Halves.collected = gather (.exited 0) world.written ∧
        Collects (streamOf world.written) (.exited 0) Halves.collected := by
  have collects : Collects Halves.streams (.exited 0) Halves.collected :=
    ⟨Halves.moves, fun _ => by decide, by decide⟩
  have ended : Halves.launch none Halves.tree Halves.request =
      .ended (.exited 0) Halves.collected Halves.tree 0 := by decide +kernel
  obtain ⟨merges, texts, gathers, launches, _⟩ := captured_output_merges_streams (.exited 0)
  have merged := (merges Halves.streams [0xC3, 0xA9]).mp ⟨_, collects, rfl⟩
  obtain ⟨part, _, whole, text⟩ := texts _ _ .output .diagnostics collects (by decide) rfl
  refine ⟨⟨collects, merged, ?_⟩, (gathers Halves.collected).2, ended,
    launches _ _ _ _ _ _ _ _ ended⟩
  rw [text, whole (by decide)]
  decide

end Capture
end Acceptance
