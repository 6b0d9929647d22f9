import Acceptance.Proofs.Course
import Acceptance.Proofs.Delivery
import Acceptance.Proofs.Ordinary

namespace Acceptance

open Text (Bytes)
open Command (Template)
open FileTree (IsName EndsIn)

-- The files of a case and the collaborators that are started on them. The names of a layout tell
-- the files apart, and all of them are looked for in one directory.

def Layout.names (layout : Layout) : List String :=
  [layout.specInput, layout.input, layout.expected, layout.program, layout.actualOutput,
    layout.actualDiagnostics]

structure Layout.Plain (layout : Layout) : Prop where
  proper : ∀ name ∈ layout.names, IsName name ∧ '/' ∉ name.toList
  distinct : layout.names.Nodup

instance (layout : Layout) : Decidable layout.Plain :=
  decidable_of_iff ((∀ name ∈ layout.names, IsName name ∧ '/' ∉ name.toList) ∧ layout.names.Nodup)
    ⟨fun ⟨proper, distinct⟩ => ⟨proper, distinct⟩, fun plain => ⟨plain.proper, plain.distinct⟩⟩

example : ({} : Layout).Plain := by decide

def Case.LaidOut (case : Case) (layout : Layout) : Prop :=
  layout.Plain ∧ ∃ label dir, case = .ofDirectory label dir layout

theorem Layout.Plain.ends {layout : Layout} {name : String} (plain : layout.Plain) (dir : String)
    (member : name ∈ layout.names) : EndsIn (Path.join dir name) name :=
  FileTree.endsIn_join dir (plain.proper name member).1 (plain.proper name member).2

theorem Layout.Plain.apart {layout : Layout} (plain : layout.Plain) :
    layout.input ≠ layout.program ∧ layout.expected ≠ layout.program ∧
    layout.program ≠ layout.actualOutput ∧ layout.program ≠ layout.actualDiagnostics ∧
    layout.expected ≠ layout.actualOutput ∧ layout.expected ≠ layout.actualDiagnostics ∧
    layout.actualOutput ≠ layout.actualDiagnostics := by
  have distinct := plain.distinct
  simp only [names, List.nodup_cons, List.mem_cons, not_or] at distinct
  obtain ⟨_, ⟨_, input, _⟩, ⟨first, second, third, _⟩, ⟨fourth, fifth, _⟩, ⟨sixth, _⟩, _⟩ :=
    distinct
  exact ⟨input, first, fourth, fifth, second, third, sixth⟩

namespace Case.LaidOut

variable {case : Case} {layout : Layout} {before after : FileTree} {place spot : Place}

theorem input (told : case.LaidOut layout) : EndsIn case.input layout.input := by
  obtain ⟨plain, label, dir, rfl⟩ := told
  exact plain.ends dir (by simp [Layout.names])

theorem expected (told : case.LaidOut layout) : EndsIn case.expected layout.expected := by
  obtain ⟨plain, label, dir, rfl⟩ := told
  exact plain.ends dir (by simp [Layout.names])

theorem program (told : case.LaidOut layout) : EndsIn case.program layout.program := by
  obtain ⟨plain, label, dir, rfl⟩ := told
  exact plain.ends dir (by simp [Layout.names])

theorem output (told : case.LaidOut layout) : EndsIn case.actualOutput layout.actualOutput := by
  obtain ⟨plain, label, dir, rfl⟩ := told
  exact plain.ends dir (by simp [Layout.names])

theorem diagnostics (told : case.LaidOut layout) :
    EndsIn case.actualDiagnostics layout.actualDiagnostics := by
  obtain ⟨plain, label, dir, rfl⟩ := told
  exact plain.ends dir (by simp [Layout.names])

theorem diagnostics_stay (told : case.LaidOut layout)
    (first : before.site? case.actualOutput = some place)
    (second : before.site? case.actualDiagnostics = some spot)
    (kept : after.site? case.actualOutput = some place) :
    after.site? case.actualDiagnostics = some spot := by
  obtain ⟨plain, label, dir, rfl⟩ := told
  obtain ⟨proper, slashless⟩ := plain.proper layout.actualOutput (by simp [Layout.names])
  obtain ⟨proper', slashless'⟩ := plain.proper layout.actualDiagnostics (by simp [Layout.names])
  exact FileTree.site_sibling proper slashless proper' slashless' first second kept

theorem blank_artifacts {built first opened : FileTree} (told : case.LaidOut layout)
    (fair : built.isOrdinary case.actualOutput) (fair' : built.isOrdinary case.actualDiagnostics)
    (made : built.create case.actualOutput = .ok (place, first))
    (madeToo : first.create case.actualDiagnostics = .ok (spot, opened)) :
    opened.site? case.actualOutput = some place ∧ opened.site? case.actualDiagnostics = some spot ∧
      (∃ mode, opened.entry? place = some (.file [] mode)) ∧
      ∃ mode, opened.entry? spot = some (.file [] mode) := by
  obtain ⟨_, _, _, _, _, _, differ⟩ := told.1.apart
  obtain ⟨site, change, mode, blank⟩ := FileTree.create_ordinary told.output fair made
  obtain ⟨site', change', blank'⟩ :=
    FileTree.create_ordinary told.diagnostics (change.ordinary fair') madeToo
  refine ⟨?_, ?_, ⟨mode, ?_⟩, blank'⟩
  · rw [← change'.ways.site, ← change.ways.site, site]
  · rw [← change'.ways.site, site']
  · rw [change'.entry place
      (FileTree.sites_differ told.output told.diagnostics differ site site'), blank]

end Case.LaidOut

def Behaviour.answer (behaviour : Behaviour) (bound : Option Nat) (template : Template)
    (case : Case) (input : Bytes) (tree : FileTree) : Reply :=
  behaviour bound tree template.program (template.fill (Bindings.ofCase case)) input

-- Whatever it is given, the command changes the tree in the given manner only.
def Behaviour.Keeps (behaviour : Behaviour) (bound : Option Nat) (template : Template) (case : Case)
    (manner : FileTree → FileTree → Prop) : Prop :=
  ∀ before input completion pieces after elapsed,
    behaviour.answer bound template case input before = .ended completion pieces after elapsed →
      manner before after

namespace Pipeline

variable {behaviour : Behaviour} {pipeline : Pipeline} {case : Case} {tree after : FileTree}
  {input program output diagnostics : Place} {cause : IoError} {completion : Completion}
  {elapsed : Nat} {diff : Template}

theorem compiler_refused (launched : pipeline.launch = .ofBehaviour behaviour) :
    pipeline.launch pipeline.bound tree (pipeline.compilerRequest case input) = .refused cause ↔
      behaviour.answer pipeline.bound pipeline.collaborators.compiler case
        (tree.inputOf (.opened input)) tree = .refused cause := by
  rw [launched]
  exact Launcher.ofBehaviour_refused

theorem compiler_ended (launched : pipeline.launch = .ofBehaviour behaviour) :
    (∃ collected, pipeline.launch pipeline.bound tree (pipeline.compilerRequest case input) =
        .ended completion collected after elapsed) ↔
      ∃ pieces, behaviour.answer pipeline.bound pipeline.collaborators.compiler case
        (tree.inputOf (.opened input)) tree = .ended completion pieces after elapsed := by
  rw [launched]
  exact Launcher.ofBehaviour_ended_closed (by intro stream place; cases stream <;> nofun)

theorem machine_refused (launched : pipeline.launch = .ofBehaviour behaviour) :
    pipeline.launch pipeline.bound tree
        (pipeline.machineRequest case program output diagnostics) = .refused cause ↔
      behaviour.answer pipeline.bound pipeline.collaborators.vm case
        (tree.inputOf (.opened program)) tree = .refused cause := by
  rw [launched]
  exact Launcher.ofBehaviour_refused

def sinks (output diagnostics : Place) : Sinks :=
  { output := .opened output, diagnostics := .opened diagnostics }

theorem machine_ended (launched : pipeline.launch = .ofBehaviour behaviour) :
    (∃ collected, pipeline.launch pipeline.bound tree
        (pipeline.machineRequest case program output diagnostics) =
          .ended completion collected after elapsed) ↔
      ∃ pieces own, behaviour.answer pipeline.bound pipeline.collaborators.vm case
          (tree.inputOf (.opened program)) tree = .ended completion pieces own elapsed ∧
        after = (sinks output diagnostics).deliver pieces own := by
  rw [launched]
  exact Launcher.ofBehaviour_ended

theorem comparator_refused (launched : pipeline.launch = .ofBehaviour behaviour) :
    pipeline.launch pipeline.bound tree (request diff case) = .refused cause ↔
      behaviour.answer pipeline.bound diff case [] tree = .refused cause := by
  rw [launched]
  exact Launcher.ofBehaviour_refused

theorem comparator_ended (launched : pipeline.launch = .ofBehaviour behaviour) :
    (∃ collected, pipeline.launch pipeline.bound tree (request diff case) =
        .ended completion collected after elapsed) ↔
      ∃ pieces, behaviour.answer pipeline.bound diff case [] tree =
        .ended completion pieces after elapsed := by
  rw [launched]
  exact Launcher.ofBehaviour_ended_closed (by intro stream place; cases stream <;> nofun)

end Pipeline
end Acceptance
