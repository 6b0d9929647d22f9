import Acceptance.Proofs.Access
import Acceptance.Proofs.Laps

namespace Acceptance

namespace FileTree

-- The order in which a run starts its collaborators, and the files that it touches itself. All
-- that is done for a case is the beginning of one script.

variable {tree after : FileTree} {path : String} {place : Place}

-- At most the entry that a path names is different: it is gone. A link is not followed.
structure Cleared (path : String) (tree after : FileTree) : Prop where
  cwd : after.cwd = tree.cwd
  only : ∀ place, after.entry? place ≠ tree.entry? place →
    tree.site? path = some place ∧ after.entry? place = none
  together : ∀ one other, tree.site? path ≠ some one → tree.site? path ≠ some other →
    (after.Together one other ↔ tree.Together one other)

-- At most the file that a path leads to is different, under each of its names: it is empty.
structure Emptied (path : String) (tree after : FileTree) : Prop where
  cwd : after.cwd = tree.cwd
  shared : after.shared = tree.shared
  only : ∀ place, after.entry? place ≠ tree.entry? place →
    (∃ spot, tree.lead? path = some spot ∧ place ∈ tree.twins spot) ∧
      ∃ mode, after.entry? place = some (.file [] mode)

theorem removeStale_cleared (removed : tree.removeStale path = .ok after) :
    Cleared path tree after := by
  rcases removeStale_cases removed with rfl | ⟨place, found, _, rfl⟩
  · exact ⟨rfl, fun place differs => (differs rfl).elim, fun _ _ _ _ => Iff.rfl⟩
  have site : tree.site? path = some place := by rw [site?, found, spot_entry]
  refine ⟨rfl, ?_, ?_⟩
  · intro other differs
    rw [entry?_erase] at differs ⊢
    split at differs
    · rename_i here
      exact ⟨by rw [site, here.1], if_pos here⟩
    · exact (differs rfl).elim
  · intro one other kept kept'
    rw [site, ne_eq, Option.some.injEq] at kept kept'
    rw [together_erase]
    exact ⟨fun facts => facts.2.2, fun together => ⟨Ne.symm kept, Ne.symm kept', together⟩⟩

theorem create_emptied (made : tree.create path = .ok (place, after)) :
    Emptied path tree after := by
  have lead := create_leads made
  rcases create_cases made with ⟨_, _, _, _, rfl, rfl⟩ | ⟨_, mode, _, _, rfl⟩ | ⟨_, _, _, rfl⟩
  · refine ⟨rfl, rfl, fun other differs => ?_⟩
    rw [entry?_put] at differs ⊢
    split at differs
    · rename_i here
      exact ⟨⟨_, lead, here.1 ▸ mem_twins⟩, _, if_pos here⟩
    · exact (differs rfl).elim
  · refine ⟨store_cwd, store_shared, fun other differs => ?_⟩
    rw [entry?_store] at differs ⊢
    split at differs
    · rename_i here
      exact ⟨⟨_, lead, here.1⟩, mode, if_pos here⟩
    · exact (differs rfl).elim
  · exact ⟨rfl, rfl, fun _ differs => (differs rfl).elim⟩

end FileTree

namespace Pipeline

variable (pipeline : Pipeline) (case : Case)

-- What one deed for a case does to the tree. What a process does is its own affair.
inductive Does : FileTree → Event → FileTree → Prop where
  | removed {tree after : FileTree} (done : tree.removeStale case.program = .ok after)
      (frame : FileTree.Cleared case.program tree after) :
      Does tree (.removed case.program) after
  | created {tree after : FileTree} {path : String} {place : Place}
      (own : path = case.actualOutput ∨ path = case.actualDiagnostics)
      (done : tree.create path = .ok (place, after)) (frame : FileTree.Emptied path tree after) :
      Does tree (.created path) after
  | started {tree after : FileTree} {stage : Stage} {request : Request} {completion : Completion}
      {collected : List (Stream × Text.Bytes)} {elapsed : Nat}
      (answer : pipeline.launch pipeline.bound tree request =
        .ended completion collected after elapsed) :
      Does tree (.started stage request) after

inductive Trail : FileTree → List Event → FileTree → Prop where
  | nil {tree : FileTree} : Trail tree [] tree
  | cons {tree next after : FileTree} {deed : Event} {deeds : List Event}
      (first : Does pipeline case tree deed next) (rest : Trail next deeds after) :
      Trail tree (deed :: deeds) after

variable {pipeline case} {tree next after : FileTree} {first deeds : List Event} {deed : Event}

theorem Trail.append (one : Trail pipeline case tree first next)
    (other : Trail pipeline case next deeds after) :
    Trail pipeline case tree (first ++ deeds) after := by
  induction one with
  | nil => exact other
  | cons step _ ih => exact .cons step (ih other)

theorem Does.trail (step : Does pipeline case tree deed after) :
    Trail pipeline case tree [deed] after := .cons step .nil

theorem removed_does (done : tree.removeStale case.program = .ok after) :
    Does pipeline case tree (.removed case.program) after :=
  .removed done (FileTree.removeStale_cleared done)

theorem created_does {path : String} {place : Place}
    (own : path = case.actualOutput ∨ path = case.actualDiagnostics)
    (done : tree.create path = .ok (place, after)) :
    Does pipeline case tree (.created path) after :=
  .created own done (FileTree.create_emptied done)

theorem Compiling.trail {status : CompileStatus}
    (compiling : Compiling pipeline case tree deeds status after) :
    Trail pipeline case tree deeds after := by
  cases compiling with
  | stale => exact .nil
  | missing removed | refused removed => exact (removed_does removed).trail
  | ended removed _ answer => exact .cons (removed_does removed) (Does.started answer).trail

theorem Executing.trail {result : Except Fault Completion}
    (executing : Executing pipeline case tree deeds result after) :
    Trail pipeline case tree deeds after := by
  cases executing with
  | noProgram | noOutput => exact .nil
  | noDiagnostics _ made => exact (created_does (.inl rfl) made).trail
  | refused _ made madeToo =>
      exact .cons (created_does (.inl rfl) made) (created_does (.inr rfl) madeToo).trail
  | ended _ made madeToo answer =>
      exact .cons (created_does (.inl rfl) made)
        (.cons (created_does (.inr rfl) madeToo) (Does.started answer).trail)

theorem Comparing.trail {verdict : Except Fault Outcome}
    (comparing : Comparing pipeline case tree deeds verdict after) :
    Trail pipeline case tree deeds after := by
  cases comparing with
  | builtin | refused => exact .nil
  | ended _ answer => exact (Does.started answer).trail

theorem Course.trail {verdict : Except Fault Outcome}
    (course : Course pipeline case tree deeds verdict after) :
    Trail pipeline case tree deeds after := by
  cases course with
  | unfinished compiling => exact compiling.trail
  | faulted compiling executing => exact compiling.trail.append executing.trail
  | compared compiling executing comparing =>
      exact (compiling.trail.append executing.trail).append comparing.trail

def building (pipeline : Pipeline) (case : Case) (input : Place) : List Event :=
  [.removed case.program, .started .compile (pipeline.compilerRequest case input)]

def running (pipeline : Pipeline) (case : Case) (program output diagnostics : Place) :
    List Event :=
  [.created case.actualOutput, .created case.actualDiagnostics,
    .started .execute (pipeline.machineRequest case program output diagnostics)]

def comparison (pipeline : Pipeline) (case : Case) : List Event :=
  match pipeline.collaborators.comparator with
  | .builtin => []
  | .external diff => [.started .diff (request diff case)]

def script (pipeline : Pipeline) (case : Case) (input program output diagnostics : Place) :
    List Event :=
  pipeline.building case input ++
    (pipeline.running case program output diagnostics ++ pipeline.comparison case)

def stages (pipeline : Pipeline) : List Stage :=
  match pipeline.collaborators.comparator with
  | .builtin => [.compile, .execute]
  | .external _ => [.compile, .execute, .diff]

-- The old program is out of the way, the compiler exits with 0 within the bound, and there is a
-- program behind it.
def Compiles (pipeline : Pipeline) (case : Case) (tree : FileTree) (input : Place)
    (built : FileTree) : Prop :=
  ∃ cleared collected elapsed, tree.removeStale case.program = .ok cleared ∧
    cleared.locate case.input = .ok input ∧
    pipeline.launch pipeline.bound cleared (pipeline.compilerRequest case input) =
      .ended (.exited 0) collected built elapsed ∧
    built.isFile case.program

theorem Compiling.begins {status : CompileStatus}
    (compiling : Compiling pipeline case tree deeds status after) :
    ∃ input, deeds <+: pipeline.building case input := by
  cases compiling with
  | stale => exact ⟨[], List.nil_prefix⟩
  | missing | refused => exact ⟨[], _, rfl⟩
  | ended => exact ⟨_, List.prefix_rfl⟩

theorem Compiling.built (compiling : Compiling pipeline case tree deeds .compiled after) :
    ∃ input, deeds = pipeline.building case input ∧
      Compiles pipeline case tree input after := by
  obtain ⟨cleared, input, collected, elapsed, removed, found, answer, file⟩ := compiling.compiled
  exact ⟨input, (compiling.unique (.ended removed found answer)).1, cleared, collected, elapsed,
    removed, found, answer, file⟩

theorem compile_compiled_iff (session : Session) : (pipeline.compile case session).1 = .compiled ↔
    ∃ input built, Compiles pipeline case session.tree input built := by
  obtain ⟨deeds, compiling, _⟩ := compile_course pipeline case session
  constructor
  · intro compiled
    rw [compiled] at compiling
    obtain ⟨input, _, compiles⟩ := compiling.built
    exact ⟨input, _, compiles⟩
  · rintro ⟨input, built, cleared, collected, elapsed, removed, found, answer, file⟩
    have ended := Compiling.ended removed found answer
    rw [compileResult_compiled.mpr ⟨rfl, file⟩] at ended
    exact (compiling.unique ended).2.1

theorem Executing.begins {result : Except Fault Completion}
    (executing : Executing pipeline case tree deeds result after) :
    ∃ program output diagnostics, deeds <+: pipeline.running case program output diagnostics := by
  cases executing with
  | noProgram | noOutput => exact ⟨[], [], [], List.nil_prefix⟩
  | noDiagnostics | refused => exact ⟨[], [], [], _, rfl⟩
  | ended => exact ⟨_, _, _, List.prefix_rfl⟩

theorem Executing.ran {completion : Completion}
    (executing : Executing pipeline case tree deeds (.ok completion) after) :
    ∃ program output diagnostics, deeds = pipeline.running case program output diagnostics := by
  cases executing with
  | ended => exact ⟨_, _, _, rfl⟩

theorem Comparing.begins {verdict : Except Fault Outcome}
    (comparing : Comparing pipeline case tree deeds verdict after) :
    deeds <+: pipeline.comparison case := by
  cases comparing with
  | builtin | refused => exact List.nil_prefix
  | ended chosen =>
      simp only [comparison, chosen]
      exact List.prefix_rfl

theorem Course.begins {verdict : Except Fault Outcome}
    (course : Course pipeline case tree deeds verdict after) :
    ∃ input program output diagnostics,
      deeds <+: pipeline.script case input program output diagnostics := by
  cases course with
  | unfinished compiling =>
      obtain ⟨input, begins⟩ := compiling.begins
      exact ⟨input, [], [], [], begins.trans (List.prefix_append _ _)⟩
  | faulted compiling executing =>
      obtain ⟨input, rfl, _⟩ := compiling.built
      obtain ⟨program, output, diagnostics, begins⟩ := executing.begins
      exact ⟨input, program, output, diagnostics, (List.prefix_append_right_inj _).mpr
        (begins.trans (List.prefix_append _ _))⟩
  | compared compiling executing comparing =>
      obtain ⟨input, rfl, _⟩ := compiling.built
      obtain ⟨program, output, diagnostics, rfl⟩ := executing.ran
      refine ⟨input, program, output, diagnostics, ?_⟩
      rw [List.append_assoc]
      exact (List.prefix_append_right_inj _).mpr
        ((List.prefix_append_right_inj _).mpr comparing.begins)

theorem Course.unbuilt {verdict : Except Fault Outcome}
    (course : Course pipeline case tree deeds verdict after)
    (unbuilt : ∀ input built, ¬Compiles pipeline case tree input built) :
    verdict = .ok .compileFailed ∧ ∃ input, deeds <+: pipeline.building case input := by
  cases course with
  | unfinished compiling => exact ⟨rfl, compiling.begins⟩
  | faulted compiling | compared compiling =>
      obtain ⟨input, _, compiles⟩ := compiling.built
      exact (unbuilt _ _ compiles).elim

theorem Course.executes {verdict : Except Fault Outcome} {request : Request}
    (course : Course pipeline case tree deeds verdict after)
    (started : .started .execute request ∈ deeds) :
    ∃ input built, Compiles pipeline case tree input built ∧
      pipeline.building case input <+: deeds := by
  cases course with
  | unfinished compiling =>
      obtain ⟨input, begins⟩ := compiling.begins
      simpa [building] using begins.subset started
  | faulted compiling =>
      obtain ⟨input, rfl, compiles⟩ := compiling.built
      exact ⟨input, _, compiles, List.prefix_append _ _⟩
  | compared compiling =>
      obtain ⟨input, rfl, compiles⟩ := compiling.built
      rw [List.append_assoc]
      exact ⟨input, _, compiles, List.prefix_append _ _⟩

end Pipeline

def Event.stage? : Event → Option Stage
  | .started stage _ => some stage
  | _ => none

theorem Pipeline.script_stages {pipeline : Pipeline} {case : Case}
    {input program output diagnostics : Place} :
    (pipeline.script case input program output diagnostics).filterMap Event.stage? =
      pipeline.stages := by
  unfold Pipeline.script Pipeline.comparison Pipeline.stages
  cases pipeline.collaborators.comparator <;> rfl

namespace Run

structure Lap.Disciplined (pipeline : Pipeline) (lap : Lap) : Prop where
  ran : pipeline.runCase lap.case lap.start = (lap.result, lap.finish)
  recorded : lap.finish.deeds = lap.start.deeds ++ lap.deeds
  script : ∃ input program output diagnostics,
    lap.deeds <+: pipeline.script lap.case input program output diagnostics
  stages : lap.deeds.filterMap Event.stage? <+: pipeline.stages
  -- The machine comes behind a compiler that has done its work.
  executes : ∀ request, .started .execute request ∈ lap.deeds →
    ∃ input built, pipeline.Compiles lap.case lap.start.tree input built ∧
      pipeline.building lap.case input <+: lap.deeds
  compiles : (pipeline.compile lap.case lap.start).1 = .compiled ↔
    ∃ input built, pipeline.Compiles lap.case lap.start.tree input built
  -- A case that does not compile is no fault, and its artifacts stay as they are.
  unbuilt : (pipeline.compile lap.case lap.start).1 ≠ .compiled →
    (∃ record, lap.result = .ok record ∧ record.outcome = .compileFailed) ∧
      ∃ input, lap.deeds <+: pipeline.building lap.case input
  trail : pipeline.Trail lap.case lap.start.tree lap.deeds lap.finish.tree

theorem Lap.of_disciplined (pipeline : Pipeline) (case : Case) (session : Session) :
    (Lap.of pipeline case session).Disciplined pipeline := by
  obtain ⟨course, recorded⟩ := Lap.of_course pipeline case session
  obtain ⟨input, program, output, diagnostics, begins⟩ := course.begins
  refine ⟨Lap.of_ran, recorded, ⟨input, program, output, diagnostics, begins⟩, ?_,
    fun _ started => course.executes started, Pipeline.compile_compiled_iff _, ?_, course.trail⟩
  · rw [← Pipeline.script_stages]
    exact begins.filterMap _
  · intro failed
    rw [ne_eq, Pipeline.compile_compiled_iff] at failed
    obtain ⟨verdict, early⟩ :=
      course.unbuilt fun input built compiles => failed ⟨input, built, compiles⟩
    refine ⟨?_, early⟩
    cases result : (Lap.of pipeline case session).result with
    | error fault => simp [result, Except.map] at verdict
    | ok record =>
        rw [result] at verdict
        exact ⟨record, rfl, Except.ok.inj verdict⟩

theorem stage_discipline_and_frame (pipeline : Pipeline) (cases : List Case) (summary : Summary)
    (session : Session) :
    (laps pipeline cases session).map (·.case) <+: cases ∧
      (runCases pipeline cases summary session).2.deeds =
        session.deeds ++ (laps pipeline cases session).flatMap (·.deeds) ∧
      Linked session.tree (laps pipeline cases session)
        (runCases pipeline cases summary session).2.tree ∧
      ∀ lap ∈ laps pipeline cases session, lap.Disciplined pipeline := by
  refine ⟨laps_cases _ _ _, laps_deeds _ _ _ _, laps_linked _ _ _ _, fun lap member => ?_⟩
  obtain ⟨case, session, rfl⟩ := mem_laps member
  exact Lap.of_disciplined pipeline case session

namespace Notes

def case : Case := .ofDirectory "add" "tests/add" {}

def tree : FileTree where
  entries := [(["tests"], .directory), (["add", "tests"], .directory),
    (["test.in", "add", "tests"], .file (Text.utf8 "42") 420),
    (["my.out", "add", "tests"], .link "../../notes.txt"),
    (["notes.txt"], .file (Text.utf8 "keep") 420)]

def launch : Launcher := fun _ tree _ =>
  .ended (.exited 0) [] (tree.put ["a.frisc", "add", "tests"] (.file [] 420)) 1

def pipeline : Pipeline where
  launch := launch
  collaborators := ⟨⟨"compiler", []⟩, ⟨"machine", []⟩, .builtin⟩

end Notes

-- The runner empties what the output leads to, which need not be an artifact.
theorem linked_output_empties_other_file :
    let finished := (runCases Notes.pipeline [Notes.case] (.empty 1) { tree := Notes.tree }).2
    "notes.txt" ∉ [Notes.case.program, Notes.case.actualOutput, Notes.case.actualDiagnostics] ∧
      (∀ bound tree request completion collected after elapsed,
        Notes.launch bound tree request = .ended completion collected after elapsed →
          FileTree.entry? after ["notes.txt"] = tree.entry? ["notes.txt"]) ∧
      Notes.tree.read "notes.txt" = .ok (Text.utf8 "keep") ∧
      finished.tree.read "notes.txt" = .ok [] := by
  have emptied : FileTree.read (runCases Notes.pipeline [Notes.case] (.empty 1)
    { tree := Notes.tree }).2.tree "notes.txt" = .ok [] := rfl
  refine ⟨by decide, ?_, rfl, emptied⟩
  intro bound tree request completion collected after elapsed answer
  cases answer
  simp [FileTree.entry?_put]

end Run
end Acceptance
