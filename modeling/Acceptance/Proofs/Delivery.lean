import Acceptance.Process
import Acceptance.Proofs.Access

namespace Acceptance

open Text (Bytes)

namespace FileTree

-- How the output of a process reaches the files its streams are connected to. The pieces come in
-- any order, but each stream goes to its own file, one piece behind the other.

variable {tree : FileTree} {place other : Place} {offset : Nat} {bytes : Bytes}

theorem splice_end (content bytes : Bytes) :
    splice content content.length bytes = content ++ bytes := by
  simp [splice]

theorem writeAt_cases (tree : FileTree) (place : Place) (offset : Nat) (bytes : Bytes) :
    tree.writeAt place offset bytes = tree ∨
      ∃ content mode, tree.entry? place = some (.file content mode) ∧
        tree.writeAt place offset bytes = tree.store place (splice content offset bytes) mode := by
  unfold writeAt
  split
  · rename_i content mode present
    exact .inr ⟨content, mode, present, rfl⟩
  · exact .inl rfl

theorem writeAt_own {content : Bytes} {mode : Nat}
    (present : tree.entry? place = some (.file content mode)) (end_ : offset = content.length) :
    entry? (tree.writeAt place offset bytes) place = some (.file (content ++ bytes) mode) := by
  have inner : place ≠ [] := by
    rintro rfl
    cases present
  simp [writeAt, present, end_, splice_end, entry?_store, mem_twins, inner]

theorem writeAt_other (apart : other ∉ tree.twins place) :
    entry? (tree.writeAt place offset bytes) other = tree.entry? other := by
  rcases writeAt_cases tree place offset bytes with same | ⟨content, mode, _, stored⟩
  · rw [same]
  · simp [stored, entry?_store, apart]

theorem writeAt_shared : (tree.writeAt place offset bytes).shared = tree.shared := by
  rcases writeAt_cases tree place offset bytes with same | ⟨content, mode, _, stored⟩
  · rw [same]
  · simp [stored]

theorem writeAt_ways (alone : Leaf (tree.entry? place) → tree.Alone place) :
    SameWays tree (tree.writeAt place offset bytes) := by
  rcases writeAt_cases tree place offset bytes with same | ⟨content, mode, present, stored⟩
  · rw [same]
    exact .refl tree
  · have leaf : Leaf (tree.entry? place) := by simp [present, Leaf]
    rw [stored, store_alone (alone leaf)]
    exact .put leaf trivial

theorem Leaf.of_ways {left right : FileTree} (ways : SameWays left right)
    (leaf : Leaf (right.entry? place)) : Leaf (left.entry? place) := by
  rcases ways.entry place with same | ⟨own, _⟩
  · rwa [same]
  · exact own

end FileTree

def printed (stream : Stream) (pieces : List (Stream × Bytes)) : Bytes :=
  (pieces.filter (·.1 == stream)).flatMap (·.2)

namespace Sinks

variable {sinks : Sinks} {tree : FileTree} {place : Place} {pieces : List (Stream × Bytes)}

def channel (sinks : Sinks) : Stream → Channel
  | .output => sinks.output
  | .diagnostics => sinks.diagnostics

def offset (sinks : Sinks) : Stream → Nat
  | .output => sinks.outputOffset
  | .diagnostics => sinks.diagnosticsOffset

-- The sinks after a piece: only the offset of its stream has moved.
theorem step_channel (piece : Stream × Bytes) (stream : Stream) :
    (step (sinks, tree) piece).1.channel stream = sinks.channel stream := by
  obtain ⟨own, bytes⟩ := piece
  cases own <;> cases stream <;> rfl

theorem step_offset (piece : Stream × Bytes) (stream : Stream) :
    (step (sinks, tree) piece).1.offset stream =
      sinks.offset stream + if piece.1 = stream then piece.2.length else 0 := by
  obtain ⟨own, bytes⟩ := piece
  cases own <;> cases stream <;> simp [step, offset]

theorem step_tree (piece : Stream × Bytes) :
    (step (sinks, tree) piece).2 =
      write tree (sinks.channel piece.1) (sinks.offset piece.1) piece.2 := by
  obtain ⟨own, bytes⟩ := piece
  cases own <;> rfl

theorem deliver_cons (piece : Stream × Bytes) (pieces : List (Stream × Bytes)) :
    sinks.deliver (piece :: pieces) tree =
      (step (sinks, tree) piece).1.deliver pieces (step (sinks, tree) piece).2 := rfl

theorem write_shared (channel : Channel) (offset : Nat) (bytes : Bytes) :
    (write tree channel offset bytes).shared = tree.shared := by
  cases channel <;> first | rfl | exact FileTree.writeAt_shared

theorem write_twins (channel : Channel) (offset : Nat) (bytes : Bytes) :
    (write tree channel offset bytes).twins = tree.twins := by
  funext place
  rw [FileTree.twins, write_shared]
  rfl

theorem deliver_shared : (sinks.deliver pieces tree).shared = tree.shared := by
  induction pieces generalizing sinks tree with
  | nil => rfl
  | cons piece pieces ih => rw [deliver_cons, ih, step_tree, write_shared]

-- A file changes only through a stream that is connected to it under one of its names.
theorem deliver_other
    (apart : ∀ stream spot, sinks.channel stream = .opened spot → place ∉ tree.twins spot) :
    FileTree.entry? (sinks.deliver pieces tree) place = tree.entry? place := by
  induction pieces generalizing sinks tree with
  | nil => rfl
  | cons piece pieces ih =>
      have kept : FileTree.entry? (step (sinks, tree) piece).2 place = tree.entry? place := by
        rw [step_tree]
        cases target : sinks.channel piece.1 with
        | nothing => rfl
        | collected => rfl
        | opened spot => exact FileTree.writeAt_other (apart _ _ target)
      rw [deliver_cons, ih, kept]
      intro stream spot connected
      rw [step_channel] at connected
      rw [step_tree, write_twins]
      exact apart stream spot connected

theorem deliver_own {stream : Stream} {content : Bytes} {mode : Nat}
    (opened : sinks.channel stream = .opened place)
    (apart : ∀ other, other ≠ stream → sinks.channel other ≠ .opened place)
    (alone : tree.Alone place) (present : tree.entry? place = some (.file content mode))
    (end_ : sinks.offset stream = content.length) :
    FileTree.entry? (sinks.deliver pieces tree) place =
      some (.file (content ++ printed stream pieces) mode) := by
  induction pieces generalizing sinks tree content with
  | nil => simpa [deliver, printed] using present
  | cons piece pieces ih =>
      have quiet : (step (sinks, tree) piece).2.Alone place := by
        unfold FileTree.Alone
        rw [step_tree, write_shared]
        exact alone
      obtain ⟨own, bytes⟩ := piece
      by_cases same : own = stream
      · subst same
        have written : FileTree.entry? (step (sinks, tree) (own, bytes)).2 place =
            some (.file (content ++ bytes) mode) := by
          simp only [step_tree, opened, write]
          exact FileTree.writeAt_own present end_
        rw [deliver_cons, ih ((step_channel _ _).trans opened)
          (fun other differ => by rw [step_channel]; exact apart other differ) quiet written
          (by simp [step_offset, end_])]
        simp [printed]
      · have kept : FileTree.entry? (step (sinks, tree) (own, bytes)).2 place =
            some (.file content mode) := by
          rw [step_tree, ← present]
          cases target : sinks.channel own with
          | nothing => rfl
          | collected => rfl
          | opened spot =>
              refine FileTree.writeAt_other (FileTree.not_mem_twins alone ?_)
              rintro rfl
              exact apart own same target
        rw [deliver_cons, ih ((step_channel _ _).trans opened)
          (fun other differ => by rw [step_channel]; exact apart other differ) quiet kept
          (by simp [step_offset, same, end_])]
        simp [printed, same]

theorem deliver_ways (alone : ∀ stream place, sinks.channel stream = .opened place →
      FileTree.Leaf (tree.entry? place) → tree.Alone place) :
    FileTree.SameWays tree (sinks.deliver pieces tree) := by
  induction pieces generalizing sinks tree with
  | nil => exact .refl tree
  | cons piece pieces ih =>
      have ways : FileTree.SameWays tree (step (sinks, tree) piece).2 := by
        rw [step_tree]
        cases target : sinks.channel piece.1 with
        | nothing => exact .refl tree
        | collected => exact .refl tree
        | opened spot => exact FileTree.writeAt_ways (alone _ _ target)
      refine ways.trans (ih ?_)
      intro stream spot opened leaf
      unfold FileTree.Alone
      rw [step_tree, write_shared]
      exact alone stream spot ((step_channel _ _).symm.trans opened) (leaf.of_ways ways)

theorem deliver_nowhere (closed : ∀ stream place, sinks.channel stream ≠ .opened place) :
    sinks.deliver pieces tree = tree := by
  induction pieces generalizing sinks tree with
  | nil => rfl
  | cons piece pieces ih =>
      have kept : (step (sinks, tree) piece).2 = tree := by
        rw [step_tree]
        cases target : sinks.channel piece.1 with
        | nothing => rfl
        | collected => rfl
        | opened spot => exact (closed _ _ target).elim
      rw [deliver_cons, kept, ih]
      intro stream spot
      rw [step_channel]
      exact closed stream spot

def ofRequest (request : Request) : Sinks :=
  { output := request.output, diagnostics := request.diagnostics }

end Sinks

namespace Launcher

variable {behaviour : Behaviour} {bound : Option Nat} {tree after : FileTree} {request : Request}

theorem ofBehaviour_refused {cause : IoError} :
    ofBehaviour behaviour bound tree request = .refused cause ↔
      behaviour bound tree request.program request.arguments (tree.inputOf request.input) =
        .refused cause := by
  unfold ofBehaviour
  split <;> simp_all

theorem ofBehaviour_ended {completion : Completion} {elapsed : Nat} :
    (∃ collected, ofBehaviour behaviour bound tree request =
        .ended completion collected after elapsed) ↔
      ∃ pieces own, behaviour bound tree request.program request.arguments
          (tree.inputOf request.input) = .ended completion pieces own elapsed ∧
        after = (Sinks.ofRequest request).deliver pieces own := by
  constructor
  · rintro ⟨collected, ran⟩
    unfold ofBehaviour at ran
    split at ran
    · cases ran
    · rename_i pieces own elapsed answer
      cases ran
      exact ⟨pieces, own, answer, rfl⟩
  · rintro ⟨pieces, own, answer, rfl⟩
    unfold ofBehaviour
    rw [answer]
    exact ⟨_, rfl⟩

theorem ofBehaviour_ended_closed {completion : Completion} {elapsed : Nat}
    (closed : ∀ stream place, (Sinks.ofRequest request).channel stream ≠ .opened place) :
    (∃ collected, ofBehaviour behaviour bound tree request =
        .ended completion collected after elapsed) ↔
      ∃ pieces, behaviour bound tree request.program request.arguments
        (tree.inputOf request.input) = .ended completion pieces after elapsed := by
  simp only [ofBehaviour_ended, Sinks.deliver_nowhere closed]
  constructor
  · rintro ⟨pieces, own, answer, rfl⟩
    exact ⟨pieces, answer⟩
  · rintro ⟨pieces, answer⟩
    exact ⟨pieces, after, answer, rfl⟩

end Launcher
end Acceptance
