import Acceptance.Pipeline

namespace Acceptance

-- The course of a case: what can be done to the tree on its way, in which order, and with which
-- verdict. The relations name each branch once; the pipeline takes exactly the branch that holds.

def Event.isDeed : Event → Bool
  | .started _ _ | .removed _ | .created _ => true
  | _ => false

namespace Session

variable {session : Session}

def deeds (session : Session) : List Event := session.events.filter Event.isDeed

@[simp] theorem say_tree (block : String) : (session.say block).tree = session.tree := rfl

@[simp] theorem say_deeds (block : String) : (session.say block).deeds = session.deeds := by
  simp [deeds, say, emit, Event.isDeed]

@[simp] theorem sayAll_tree (blocks : List String) :
    (session.sayAll blocks).tree = session.tree := by
  unfold sayAll
  induction blocks generalizing session with
  | nil => rfl
  | cons block blocks ih => rw [List.foldl_cons, ih, say_tree]

@[simp] theorem sayAll_deeds (blocks : List String) :
    (session.sayAll blocks).deeds = session.deeds := by
  unfold sayAll
  induction blocks generalizing session with
  | nil => rfl
  | cons block blocks ih => rw [List.foldl_cons, ih, say_deeds]

theorem removed_deeds (path : String) (tree : FileTree) :
    ({ session.emit (.removed path) with tree } : Session).deeds =
      session.deeds ++ [.removed path] := by
  simp [deeds, emit, Event.isDeed]

theorem created_deeds (path : String) (tree : FileTree) :
    ({ session.emit (.created path) with tree } : Session).deeds =
      session.deeds ++ [.created path] := by
  simp [deeds, emit, Event.isDeed]

end Session

-- A process that starts leaves one deed and its tree behind; one that does not, nothing.
theorem Launcher.start_cases (launch : Launcher) (bound : Option Nat) (stage : Stage)
    (request : Request) (session : Session) :
    (∃ cause, launch bound session.tree request = .refused cause ∧
        launch.start bound stage request session = (.refused cause, session)) ∨
      ∃ completion collected tree elapsed after,
        launch bound session.tree request = .ended completion collected tree elapsed ∧
        launch.start bound stage request session =
          (.ended completion collected tree elapsed, after) ∧
        after.tree = tree ∧ after.deeds = session.deeds ++ [.started stage request] := by
  unfold Launcher.start
  cases answer : launch bound session.tree request with
  | refused cause => exact .inl ⟨cause, rfl, rfl⟩
  | ended completion collected tree elapsed =>
      refine .inr ⟨completion, collected, tree, elapsed, _, rfl, rfl, rfl, ?_⟩
      simp [Session.deeds, Session.emit, Event.isDeed]

namespace Pipeline

variable {pipeline : Pipeline} {case : Case} {session : Session}

@[simp] theorem logCommand_tree (template : Command.Template) :
    (pipeline.logCommand template case session).tree = session.tree := by
  unfold logCommand
  split <;> rfl

@[simp] theorem logCommand_deeds (template : Command.Template) :
    (pipeline.logCommand template case session).deeds = session.deeds := by
  unfold logCommand
  split
  · exact Session.say_deeds _
  · rfl

def compilerRequest (pipeline : Pipeline) (case : Case) (input : Place) : Request :=
  { request pipeline.collaborators.compiler case with
    input := .opened input, output := .collected, diagnostics := .collected }

def machineRequest (pipeline : Pipeline) (case : Case) (program output diagnostics : Place) :
    Request :=
  { request pipeline.collaborators.vm case with
    input := .opened program, output := .opened output, diagnostics := .opened diagnostics }

variable (pipeline : Pipeline) (case : Case)

inductive Compiling (tree : FileTree) : List Event → CompileStatus → FileTree → Prop where
  | stale {cause : IoError} (kept : tree.removeStale case.program = .error cause) :
      Compiling tree [] (.failed (.staleProgram case.program cause) "") tree
  | missing {cleared : FileTree} {cause : IoError}
      (removed : tree.removeStale case.program = .ok cleared)
      (lost : cleared.locate case.input = .error cause) :
      Compiling tree [.removed case.program] (.failed (.missingInput case.input cause) "") cleared
  | refused {cleared : FileTree} {input : Place} {cause : IoError}
      (removed : tree.removeStale case.program = .ok cleared)
      (found : cleared.locate case.input = .ok input)
      (answer : pipeline.launch pipeline.bound cleared (pipeline.compilerRequest case input) =
        .refused cause) :
      Compiling tree [.removed case.program]
        (.failed (.notStarted pipeline.collaborators.compiler.program cause) "") cleared
  | ended {cleared after : FileTree} {input : Place} {completion : Completion}
      {collected : List (Stream × Text.Bytes)} {elapsed : Nat}
      (removed : tree.removeStale case.program = .ok cleared)
      (found : cleared.locate case.input = .ok input)
      (answer : pipeline.launch pipeline.bound cleared (pipeline.compilerRequest case input) =
        .ended completion collected after elapsed) :
      Compiling tree
        [.removed case.program, .started .compile (pipeline.compilerRequest case input)]
        (pipeline.compileResult case completion (Text.lossy (captured collected)) after) after

inductive Executing (tree : FileTree) : List Event → Except Fault Completion → FileTree → Prop where
  | noProgram {cause : IoError} (lost : tree.locate case.program = .error cause) :
      Executing tree [] (.error (.artifact case.program cause)) tree
  | noOutput {program : Place} {cause : IoError} (found : tree.locate case.program = .ok program)
      (blocked : tree.create case.actualOutput = .error cause) :
      Executing tree [] (.error (.artifact case.actualOutput cause)) tree
  | noDiagnostics {program output : Place} {first : FileTree} {cause : IoError}
      (found : tree.locate case.program = .ok program)
      (made : tree.create case.actualOutput = .ok (output, first))
      (blocked : first.create case.actualDiagnostics = .error cause) :
      Executing tree [.created case.actualOutput]
        (.error (.artifact case.actualDiagnostics cause)) first
  | refused {program output diagnostics : Place} {first opened : FileTree} {cause : IoError}
      (found : tree.locate case.program = .ok program)
      (made : tree.create case.actualOutput = .ok (output, first))
      (madeToo : first.create case.actualDiagnostics = .ok (diagnostics, opened))
      (answer : pipeline.launch pipeline.bound opened
        (pipeline.machineRequest case program output diagnostics) = .refused cause) :
      Executing tree [.created case.actualOutput, .created case.actualDiagnostics]
        (.error (.spawn .execute pipeline.collaborators.vm.program cause)) opened
  | ended {program output diagnostics : Place} {first opened after : FileTree}
      {completion : Completion} {collected : List (Stream × Text.Bytes)} {elapsed : Nat}
      (found : tree.locate case.program = .ok program)
      (made : tree.create case.actualOutput = .ok (output, first))
      (madeToo : first.create case.actualDiagnostics = .ok (diagnostics, opened))
      (answer : pipeline.launch pipeline.bound opened
        (pipeline.machineRequest case program output diagnostics) =
          .ended completion collected after elapsed) :
      Executing tree
        [.created case.actualOutput, .created case.actualDiagnostics,
          .started .execute (pipeline.machineRequest case program output diagnostics)]
        (.ok completion) after

inductive Comparing (tree : FileTree) : List Event → Except Fault Outcome → FileTree → Prop where
  | builtin (chosen : pipeline.collaborators.comparator = .builtin) :
      Comparing tree []
        (.ok (outcomeOf (tree.sameContent case.actualOutput case.expected))) tree
  | refused {diff : Command.Template} {cause : IoError}
      (chosen : pipeline.collaborators.comparator = .external diff)
      (answer : pipeline.launch pipeline.bound tree (request diff case) = .refused cause) :
      Comparing tree [] (.error (.spawn .diff diff.program cause)) tree
  | ended {diff : Command.Template} {completion : Completion}
      {collected : List (Stream × Text.Bytes)} {after : FileTree} {elapsed : Nat}
      (chosen : pipeline.collaborators.comparator = .external diff)
      (answer : pipeline.launch pipeline.bound tree (request diff case) =
        .ended completion collected after elapsed) :
      Comparing tree [.started .diff (request diff case)]
        (.ok (outcomeOf completion.isSuccess)) after

inductive Course (tree : FileTree) : List Event → Except Fault Outcome → FileTree → Prop where
  | unfinished {deeds : List Event} {reason : CompileFailure} {output : String} {after : FileTree}
      (compiling : Compiling pipeline case tree deeds (.failed reason output) after) :
      Course tree deeds (.ok .compileFailed) after
  | faulted {first second : List Event} {built after : FileTree} {fault : Fault}
      (compiling : Compiling pipeline case tree first .compiled built)
      (executing : Executing pipeline case built second (.error fault) after) :
      Course tree (first ++ second) (.error fault) after
  | compared {first second third : List Event} {built ran after : FileTree}
      {completion : Completion} {verdict : Except Fault Outcome}
      (compiling : Compiling pipeline case tree first .compiled built)
      (executing : Executing pipeline case built second (.ok completion) ran)
      (comparing : Comparing pipeline case ran third verdict after) :
      Course tree (first ++ second ++ third) verdict after

variable (session : Session)

theorem startCompiler_eq (input : Place) : pipeline.startCompiler case input session =
    match pipeline.launch.start pipeline.bound .compile (pipeline.compilerRequest case input)
      (pipeline.logCommand pipeline.collaborators.compiler case session) with
    | (.refused cause, session) =>
        (.failed (.notStarted pipeline.collaborators.compiler.program cause) "", session)
    | (.ended completion collected tree _, session) =>
        (pipeline.compileResult case completion (Text.lossy (captured collected)) tree,
          session) := rfl

theorem startCompiler_course {tree : FileTree} {input : Place}
    (removed : tree.removeStale case.program = .ok session.tree)
    (found : session.tree.locate case.input = .ok input) : ∃ deeds,
    Compiling pipeline case tree (.removed case.program :: deeds)
      (pipeline.startCompiler case input session).1
      (pipeline.startCompiler case input session).2.tree ∧
    (pipeline.startCompiler case input session).2.deeds = session.deeds ++ deeds := by
  rcases Launcher.start_cases pipeline.launch pipeline.bound .compile
      (pipeline.compilerRequest case input)
      (pipeline.logCommand pipeline.collaborators.compiler case session) with
    ⟨cause, answer, ran⟩ | ⟨completion, collected, tree, elapsed, after, answer, ran, rfl, deeds⟩
  · rw [logCommand_tree] at answer
    rw [startCompiler_eq, ran]
    exact ⟨[], by simpa using Compiling.refused removed found answer, by simp⟩
  · rw [logCommand_tree] at answer
    rw [startCompiler_eq, ran]
    exact ⟨_, .ended removed found answer, by simpa using deeds⟩

theorem compile_course : ∃ deeds,
    Compiling pipeline case session.tree deeds (pipeline.compile case session).1
      (pipeline.compile case session).2.tree ∧
    (pipeline.compile case session).2.deeds = session.deeds ++ deeds := by
  unfold compile
  cases removed : session.tree.removeStale case.program with
  | error cause => exact ⟨[], .stale removed, by simp⟩
  | ok cleared =>
      simp only
      cases found : cleared.locate case.input with
      | error cause => exact ⟨_, .missing removed found, Session.removed_deeds _ _⟩
      | ok input =>
          simp only
          obtain ⟨deeds, compiling, added⟩ := startCompiler_course pipeline case
            { session.emit (.removed case.program) with tree := cleared } removed found
          refine ⟨_, compiling, ?_⟩
          rw [added, Session.removed_deeds, List.append_assoc]
          rfl

theorem startMachine_eq (program output diagnostics : Place) :
    pipeline.startMachine case program output diagnostics session =
      match pipeline.launch.start pipeline.bound .execute
        (pipeline.machineRequest case program output diagnostics)
        (pipeline.logCommand pipeline.collaborators.vm case session) with
      | (.refused cause, session) =>
          (.error (.spawn .execute pipeline.collaborators.vm.program cause), session)
      | (.ended completion _ _ _, session) =>
          if completion = .timedOut then
            (.ok completion, session.say (pipeline.shown.paint .yellow
              (pipeline.phrases.vmTimedOut case.name (pipeline.bound.getD 0 / 1000))))
          else (.ok completion, session) := rfl

theorem startMachine_course {tree first : FileTree} {program output diagnostics : Place}
    (found : tree.locate case.program = .ok program)
    (made : tree.create case.actualOutput = .ok (output, first))
    (madeToo : first.create case.actualDiagnostics = .ok (diagnostics, session.tree)) :
    ∃ deeds, Executing pipeline case tree
      (.created case.actualOutput :: .created case.actualDiagnostics :: deeds)
      (pipeline.startMachine case program output diagnostics session).1
      (pipeline.startMachine case program output diagnostics session).2.tree ∧
    (pipeline.startMachine case program output diagnostics session).2.deeds =
      session.deeds ++ deeds := by
  rcases Launcher.start_cases pipeline.launch pipeline.bound .execute
      (pipeline.machineRequest case program output diagnostics)
      (pipeline.logCommand pipeline.collaborators.vm case session) with
    ⟨cause, answer, ran⟩ | ⟨completion, collected, tree, elapsed, after, answer, ran, rfl, deeds⟩
  · rw [logCommand_tree] at answer
    rw [startMachine_eq, ran]
    exact ⟨[], by simpa using Executing.refused found made madeToo answer, by simp⟩
  · rw [logCommand_tree] at answer
    rw [startMachine_eq, ran]
    rw [logCommand_deeds] at deeds
    have executing := Executing.ended found made madeToo answer
    by_cases late : completion = .timedOut
    · simp only [if_pos late]
      exact ⟨_, executing, by simpa using deeds⟩
    · simp only [if_neg late]
      exact ⟨_, executing, deeds⟩

theorem execute_course : ∃ deeds,
    Executing pipeline case session.tree deeds (pipeline.execute case session).1
      (pipeline.execute case session).2.tree ∧
    (pipeline.execute case session).2.deeds = session.deeds ++ deeds := by
  unfold execute openArtifact createArtifact
  cases found : session.tree.locate case.program with
  | error cause => exact ⟨[], .noProgram found, by simp⟩
  | ok program =>
      simp only
      cases made : session.tree.create case.actualOutput with
      | error cause => exact ⟨[], .noOutput found made, by simp⟩
      | ok pair =>
          obtain ⟨output, first⟩ := pair
          simp only
          cases madeToo : first.create case.actualDiagnostics with
          | error cause => exact ⟨_, .noDiagnostics found made madeToo, Session.created_deeds _ _⟩
          | ok pair =>
              obtain ⟨diagnostics, opened⟩ := pair
              simp only
              obtain ⟨deeds, executing, added⟩ := startMachine_course pipeline case
                { ({ session.emit (.created case.actualOutput) with tree := first } :
                  Session).emit (.created case.actualDiagnostics) with tree := opened }
                found made madeToo
              refine ⟨_, executing, ?_⟩
              rw [added, Session.created_deeds, Session.created_deeds]
              simp

theorem compare_course : ∃ deeds,
    Comparing pipeline case session.tree deeds (pipeline.compare case session).1
      (pipeline.compare case session).2.tree ∧
    (pipeline.compare case session).2.deeds = session.deeds ++ deeds := by
  unfold compare
  cases chosen : pipeline.collaborators.comparator with
  | builtin => exact ⟨[], .builtin chosen, by simp⟩
  | external diff =>
      simp only
      rcases Launcher.start_cases pipeline.launch pipeline.bound .diff (request diff case)
          (pipeline.logCommand diff case session) with
        ⟨cause, answer, ran⟩ |
          ⟨completion, collected, tree, elapsed, after, answer, ran, rfl, deeds⟩
      · rw [logCommand_tree] at answer
        rw [ran]
        exact ⟨[], by simpa using Comparing.refused chosen answer, by simp⟩
      · rw [logCommand_tree] at answer
        rw [logCommand_deeds] at deeds
        rw [ran]
        exact ⟨_, .ended chosen answer, deeds⟩

theorem classify_course : ∃ deeds,
    Course pipeline case session.tree deeds (pipeline.classify case session).1
      (pipeline.classify case session).2.tree ∧
    (pipeline.classify case session).2.deeds = session.deeds ++ deeds := by
  obtain ⟨first, compiling, compiled⟩ := compile_course pipeline case session
  unfold classify finish
  generalize pipeline.compile case session = step at compiling compiled ⊢
  obtain ⟨status, middle⟩ := step
  cases status with
  | failed reason output =>
      simp only at compiling compiled ⊢
      rw [Session.sayAll_tree, Session.sayAll_deeds]
      exact ⟨first, .unfinished compiling, compiled⟩
  | compiled =>
      simp only at compiling compiled ⊢
      obtain ⟨second, executing, executed⟩ := execute_course pipeline case middle
      generalize pipeline.execute case middle = step at executing executed ⊢
      obtain ⟨result, ran⟩ := step
      cases result with
      | error fault =>
          refine ⟨_, .faulted compiling executing, ?_⟩
          rw [executed, compiled, List.append_assoc]
      | ok completion =>
          simp only at executing executed ⊢
          obtain ⟨third, comparing, compared⟩ := compare_course pipeline case ran
          generalize pipeline.compare case ran = step at comparing compared ⊢
          obtain ⟨verdict, last⟩ := step
          have deeds : last.deeds = session.deeds ++ (first ++ second ++ third) := by
            rw [compared, executed, compiled]
            simp
          cases verdict with
          | error fault => exact ⟨_, .compared compiling executing comparing, deeds⟩
          | ok outcome =>
              simp only
              rw [Session.sayAll_tree, Session.sayAll_deeds]
              exact ⟨_, .compared compiling executing comparing, deeds⟩

def verdict : Except Fault Outcome := (pipeline.runCase case session).1.map (·.outcome)

theorem verdict_eq : pipeline.verdict case session = (pipeline.classify case session).1 := by
  unfold verdict runCase
  generalize pipeline.classify case session = step
  obtain ⟨result, after⟩ := step
  cases result <;> rfl

theorem runCase_session :
    (pipeline.runCase case session).2 = (pipeline.classify case session).2 := by
  unfold runCase
  generalize pipeline.classify case session = step
  obtain ⟨result, after⟩ := step
  cases result <;> rfl

theorem runCase_course : ∃ deeds,
    Course pipeline case session.tree deeds (pipeline.verdict case session)
      (pipeline.runCase case session).2.tree ∧
    (pipeline.runCase case session).2.deeds = session.deeds ++ deeds := by
  rw [verdict_eq, runCase_session]
  exact classify_course pipeline case session

variable {pipeline case session} {tree after after' : FileTree} {deeds deeds' : List Event}

theorem compileResult_compiled {completion : Completion} {output : String} :
    pipeline.compileResult case completion output after = .compiled ↔
      completion = .exited 0 ∧ after.isFile case.program := by
  unfold compileResult
  by_cases late : completion = .timedOut
  · simp [late]
  by_cases success : completion = .exited 0
  · simp [success, Completion.isSuccess]
  · simp [late, success, Completion.isSuccess]

theorem Compiling.compiled (compiling : Compiling pipeline case tree deeds .compiled after) :
    ∃ cleared input collected elapsed, tree.removeStale case.program = .ok cleared ∧
      cleared.locate case.input = .ok input ∧
      pipeline.launch pipeline.bound cleared (pipeline.compilerRequest case input) =
        .ended (.exited 0) collected after elapsed ∧
      after.isFile case.program := by
  generalize reached : CompileStatus.compiled = status at compiling
  cases compiling with
  | stale | missing | refused => cases reached
  | ended removed found answer =>
      obtain ⟨rfl, file⟩ := compileResult_compiled.mp reached.symm
      exact ⟨_, _, _, _, removed, found, answer, file⟩

theorem Comparing.same (comparing : Comparing pipeline case tree deeds (.ok .passed) after)
    (chosen : pipeline.collaborators.comparator = .builtin) :
    tree.sameContent case.actualOutput case.expected := by
  generalize passed : (.ok .passed : Except Fault Outcome) = verdict at comparing
  cases comparing with
  | builtin _ =>
      unfold outcomeOf at passed
      split at passed
      · assumption
      · cases passed
  | refused external _ | ended external _ => simp [chosen] at external

theorem Comparing.passed (chosen : pipeline.collaborators.comparator = .builtin)
    (same : tree.sameContent case.actualOutput case.expected) :
    Comparing pipeline case tree [] (.ok .passed) tree := by
  have comparing : Comparing pipeline case tree [] (.ok (outcomeOf _)) tree := .builtin chosen
  rwa [same] at comparing

theorem Compiling.unique {status status' : CompileStatus}
    (one : Compiling pipeline case tree deeds status after)
    (other : Compiling pipeline case tree deeds' status' after') :
    deeds = deeds' ∧ status = status' ∧ after = after' := by
  cases one <;> cases other <;> simp_all

theorem Executing.unique {result result' : Except Fault Completion}
    (one : Executing pipeline case tree deeds result after)
    (other : Executing pipeline case tree deeds' result' after') :
    deeds = deeds' ∧ result = result' ∧ after = after' := by
  cases one <;> cases other <;> simp_all

theorem Comparing.unique {verdict verdict' : Except Fault Outcome}
    (one : Comparing pipeline case tree deeds verdict after)
    (other : Comparing pipeline case tree deeds' verdict' after') :
    deeds = deeds' ∧ verdict = verdict' ∧ after = after' := by
  cases one <;> cases other <;> simp_all

theorem Course.unique {verdict verdict' : Except Fault Outcome}
    (one : Course pipeline case tree deeds verdict after)
    (other : Course pipeline case tree deeds' verdict' after') :
    deeds = deeds' ∧ verdict = verdict' ∧ after = after' := by
  cases one with
  | unfinished compiling =>
      cases other with
      | unfinished compiling' =>
          obtain ⟨rfl, -, rfl⟩ := compiling.unique compiling'
          exact ⟨rfl, rfl, rfl⟩
      | faulted compiling' => cases (compiling.unique compiling').2.1
      | compared compiling' => cases (compiling.unique compiling').2.1
  | faulted compiling executing =>
      cases other with
      | unfinished compiling' => cases (compiling.unique compiling').2.1
      | faulted compiling' executing' =>
          obtain ⟨rfl, -, rfl⟩ := compiling.unique compiling'
          obtain ⟨rfl, same, rfl⟩ := executing.unique executing'
          exact ⟨rfl, by cases same; rfl, rfl⟩
      | compared compiling' executing' =>
          obtain ⟨rfl, -, rfl⟩ := compiling.unique compiling'
          cases (executing.unique executing').2.1
  | compared compiling executing comparing =>
      cases other with
      | unfinished compiling' => cases (compiling.unique compiling').2.1
      | faulted compiling' executing' =>
          obtain ⟨rfl, -, rfl⟩ := compiling.unique compiling'
          cases (executing.unique executing').2.1
      | compared compiling' executing' comparing' =>
          obtain ⟨rfl, -, rfl⟩ := compiling.unique compiling'
          obtain ⟨rfl, -, rfl⟩ := executing.unique executing'
          obtain ⟨rfl, same, rfl⟩ := comparing.unique comparing'
          exact ⟨rfl, same, rfl⟩

theorem Course.taken {verdict : Except Fault Outcome}
    (course : Course pipeline case session.tree deeds verdict after) :
    pipeline.verdict case session = verdict ∧ (pipeline.runCase case session).2.tree = after ∧
      (pipeline.runCase case session).2.deeds = session.deeds ++ deeds := by
  obtain ⟨own, taken, added⟩ := runCase_course pipeline case session
  obtain ⟨sameDeeds, sameVerdict, sameTree⟩ := course.unique taken
  exact ⟨sameVerdict.symm, sameTree.symm, sameDeeds ▸ added⟩

end Pipeline
end Acceptance
