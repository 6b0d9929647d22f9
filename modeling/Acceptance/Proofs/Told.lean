import Acceptance.Proofs.Retold

namespace Acceptance

open Command (Template)
open FileTree (Matched)

-- Two runs that go the same way and are told in different ways. What is printed on request is
-- printed in between; nothing else is left out for it.

def Event.block? : Event → Option String
  | .printed block => some block
  | _ => none

namespace Session

variable {session : Session}

def blocks (session : Session) : List String := session.events.filterMap Event.block?

theorem sayAll_events (blocks : List String) :
    (session.sayAll blocks).events = session.events ++ blocks.map .printed := by
  induction blocks generalizing session with
  | nil => exact (List.append_nil _).symm
  | cons block blocks ih =>
      show ((session.say block).sayAll blocks).events = _
      rw [ih]
      simp [say, emit]

theorem sayAll_blocks (blocks : List String) :
    (session.sayAll blocks).blocks = session.blocks ++ blocks := by
  have printed : (blocks.map Event.printed).filterMap Event.block? = blocks := by
    rw [List.filterMap_map]
    exact List.filterMap_some
  rw [Session.blocks, sayAll_events, List.filterMap_append, printed, Session.blocks]

end Session

structure Comparison where
  -- The trees that they may be in.
  near : FileTree → FileTree → Prop
  -- Whether the second run says all that the first one says, and whether it says nothing else.
  louder : Prop
  verbatim : Prop
  louder_of_verbatim : verbatim → louder

namespace Comparison

variable {how : Comparison} {quiet loud : List String}

structure Says (how : Comparison) (quiet loud : List String) : Prop where
  more : how.louder → quiet.Sublist loud
  same : how.verbatim → loud = quiet

theorem Says.of_eq (same : how.louder → loud = quiet) : how.Says quiet loud where
  more louder := same louder ▸ List.Sublist.refl _
  same verbatim := same (how.louder_of_verbatim verbatim)

theorem Says.given (spoken : how.louder → how.Says quiet loud) : how.Says quiet loud where
  more louder := (spoken louder).more louder
  same verbatim := (spoken (how.louder_of_verbatim verbatim)).same verbatim

theorem Says.append {quiet' loud' : List String} (spoken : how.Says quiet loud)
    (spoken' : how.Says quiet' loud') : how.Says (quiet ++ quiet') (loud ++ loud') where
  more louder := (spoken.more louder).append (spoken'.more louder)
  same verbatim := by rw [spoken.same verbatim, spoken'.same verbatim]

theorem Says.on_request {wanted wanted' : Prop} [Decidable wanted] [Decidable wanted']
    (more : how.louder → wanted → wanted') (same : how.verbatim → wanted' → wanted)
    (blocks : List String) :
    how.Says (if wanted then blocks else []) (if wanted' then blocks else []) := by
  by_cases asked : wanted
  · refine .of_eq fun louder => ?_
    rw [if_pos asked, if_pos (more louder asked)]
  · rw [if_neg asked]
    refine ⟨fun _ => List.nil_sublist _, fun verbatim => ?_⟩
    rw [if_neg fun asked' => asked (same verbatim asked')]

end Comparison

-- Trees in which the same is found, and which still are so after the same deed.
structure FileTree.Interchangeable (near : FileTree → FileTree → Prop) : Prop where
  locate : ∀ {left right}, near left right → ∀ path, right.locate path = left.locate path
  isFile : ∀ {left right}, near left right → ∀ path, right.isFile path = left.isFile path
  sameContent : ∀ {left right}, near left right → ∀ one other,
    right.sameContent one other = left.sameContent one other
  removeStale : ∀ {left right}, near left right → ∀ path,
    Matched near (left.removeStale path) (right.removeStale path)
  create : ∀ {left right}, near left right → ∀ path,
    Matched (fun one other => other.1 = one.1 ∧ near one.2 other.2)
      (left.create path) (right.create path)

-- Programs that behave the same in such trees, if not as fast.
def Launcher.Follows (near : FileTree → FileTree → Prop) (one other : Launcher) : Prop :=
  ∀ bound left right request, near left right →
    Replies near (one bound left request) (other bound right request)

variable {how : Comparison} {left right : Session}

structure Session.Told (how : Comparison) (quiet loud : Session) : Prop where
  tree : how.near quiet.tree loud.tree
  deeds : loud.deeds = quiet.deeds
  blocks : how.louder → quiet.blocks.Sublist loud.blocks
  events : how.verbatim → loud.events = quiet.events

namespace Session.Told

theorem sayAll (told : left.Told how right) {blocks blocks' : List String}
    (spoken : how.Says blocks blocks') : (left.sayAll blocks).Told how (right.sayAll blocks') := by
  refine ⟨?_, ?_, fun louder => ?_, fun verbatim => ?_⟩
  · rw [sayAll_tree, sayAll_tree]
    exact told.tree
  · rw [sayAll_deeds, sayAll_deeds, told.deeds]
  · rw [sayAll_blocks, sayAll_blocks]
    exact (told.blocks louder).append (spoken.more louder)
  · rw [sayAll_events, sayAll_events, told.events verbatim, spoken.same verbatim]

theorem say (told : left.Told how right) {block block' : String}
    (same : how.louder → block' = block) : (left.say block).Told how (right.say block') := by
  have spoken : how.Says [block] [block'] := .of_eq fun louder => congrArg ([·]) (same louder)
  exact told.sayAll spoken

theorem act (told : left.Told how right) (deed : Event) {tree tree' : FileTree}
    (near : how.near tree tree') (clock clock' : Nat) :
    Told how { left.emit deed with tree, clock }
      { right.emit deed with tree := tree', clock := clock' } := by
  refine ⟨near, ?_, fun louder => ?_, fun verbatim => congrArg (· ++ [deed]) (told.events verbatim)⟩
  · show (right.events ++ [deed]).filter _ = (left.events ++ [deed]).filter _
    rw [List.filter_append, List.filter_append]
    exact congrArg (· ++ _) told.deeds
  · show ((left.events ++ [deed]).filterMap _).Sublist ((right.events ++ [deed]).filterMap _)
    rw [List.filterMap_append, List.filterMap_append]
    exact (told.blocks louder).append (List.Sublist.refl _)

end Session.Told

def InStep (how : Comparison) {α : Type} (one other : α × Session) : Prop :=
  other.1 = one.1 ∧ one.2.Told how other.2

theorem InStep.both {α : Type} {one other : α × Session} (step : InStep how one other) :
    ∃ result left right, one = (result, left) ∧ other = (result, right) ∧ left.Told how right := by
  obtain ⟨result, left⟩ := one
  obtain ⟨result', right⟩ := other
  obtain ⟨rfl, told⟩ := step
  exact ⟨_, left, right, rfl, rfl, told⟩

theorem Launcher.Follows.start {one other : Launcher} (follows : one.Follows how.near other)
    (told : left.Told how right) (bound : Option Nat) (stage : Stage) (request : Request) :
    (∃ cause, one.start bound stage request left = (.refused cause, left) ∧
        other.start bound stage request right = (.refused cause, right)) ∨
      ∃ completion collected tree tree' elapsed elapsed' after after',
        one.start bound stage request left = (.ended completion collected tree elapsed, after) ∧
        other.start bound stage request right =
          (.ended completion collected tree' elapsed', after') ∧
        how.near tree tree' ∧ after.Told how after' := by
  have replies := follows bound left.tree right.tree request told.tree
  unfold Launcher.start
  cases answer : one bound left.tree request with
  | refused cause =>
      rw [answer] at replies
      rw [replies.of_refused]
      exact .inl ⟨cause, rfl, rfl⟩
  | ended completion collected tree elapsed =>
      rw [answer] at replies
      obtain ⟨tree', elapsed', answer', near⟩ := replies.of_ended
      rw [answer']
      exact .inr ⟨completion, collected, tree, tree', elapsed, elapsed', _, _, rfl, rfl, near,
        told.act (.started stage request) near _ _⟩

namespace Pipeline

structure Told (how : Comparison) (quiet loud : Pipeline) : Prop where
  trees : FileTree.Interchangeable how.near
  launch : quiet.launch.Follows how.near loud.launch
  collaborators : loud.collaborators = quiet.collaborators
  bound : loud.bound = quiet.bound
  shown : how.louder → loud.shown = quiet.shown
  more : how.louder → quiet.verbose → loud.verbose
  same : how.verbatim → loud.verbose → quiet.verbose

variable {quiet loud : Pipeline} {case : Case}

namespace Told

variable (same : quiet.Told how loud)
include same

theorem compilerRequest : loud.compilerRequest = quiet.compilerRequest := by
  unfold Pipeline.compilerRequest
  rw [same.collaborators]

theorem machineRequest : loud.machineRequest = quiet.machineRequest := by
  unfold Pipeline.machineRequest
  rw [same.collaborators]

theorem compileResult {tree tree' : FileTree} (near : how.near tree tree')
    (completion : Completion) (output : String) :
    loud.compileResult case completion output tree' =
      quiet.compileResult case completion output tree := by
  rw [Pipeline.compileResult, Pipeline.compileResult, same.bound, same.trees.isFile near]

theorem phrases (louder : how.louder) : loud.phrases = quiet.phrases := by
  unfold Pipeline.phrases
  rw [same.shown louder]

theorem on_request (asked : Bool) (blocks : List String) :
    how.Says (if quiet.verbose && asked then blocks else [])
      (if loud.verbose && asked then blocks else []) := by
  refine .on_request (fun louder => ?_) (fun verbatim => ?_) blocks
  · rw [Bool.and_eq_true, Bool.and_eq_true]
    exact And.imp_left (same.more louder)
  · rw [Bool.and_eq_true, Bool.and_eq_true]
    exact And.imp_left (same.same verbatim)

end Told

def commandBlocks (pipeline : Pipeline) (template : Template) (case : Case) : List String :=
  if pipeline.verbose then
    ["  " ++ pipeline.shown.paint .blue pipeline.phrases.commandLead ++ " " ++
      template.render (Bindings.ofCase case)]
  else []

theorem logCommand_eq (pipeline : Pipeline) (template : Template) (session : Session) :
    pipeline.logCommand template case session =
      session.sayAll (pipeline.commandBlocks template case) := by
  unfold logCommand commandBlocks
  split <;> rfl

theorem logCommand_told (same : quiet.Told how loud) (told : left.Told how right)
    (template : Template) (case : Case) :
    (quiet.logCommand template case left).Told how (loud.logCommand template case right) := by
  rw [logCommand_eq, logCommand_eq]
  refine told.sayAll (.given fun louder => ?_)
  unfold commandBlocks
  rw [same.shown louder, same.phrases louder]
  exact .on_request same.more same.same _

theorem failureBlocks_told (same : quiet.Told how loud) (reason : CompileFailure)
    (output : String) :
    how.Says (quiet.failureBlocks reason output) (loud.failureBlocks reason output) := by
  refine .given fun louder => ?_
  unfold failureBlocks
  rw [same.shown louder, same.phrases louder]
  refine .append ?_ (same.on_request _ _)
  cases reason with
  | timedOut bound => exact .of_eq fun _ => rfl
  | _ => exact .on_request same.more same.same _

theorem mismatchBlocks_told (same : quiet.Told how loud) (case : Case) (outcome : Outcome) :
    how.Says (quiet.mismatchBlocks case outcome) (loud.mismatchBlocks case outcome) := by
  refine .given fun louder => ?_
  unfold mismatchBlocks
  rw [same.shown louder, same.phrases louder]
  exact same.on_request _ _

theorem startCompiler_told (same : quiet.Told how loud) (told : left.Told how right)
    (case : Case) (input : Place) :
    InStep how (quiet.startCompiler case input left) (loud.startCompiler case input right) := by
  rw [startCompiler_eq, startCompiler_eq, same.collaborators, same.bound, same.compilerRequest]
  have logged := logCommand_told same told quiet.collaborators.compiler case
  rcases same.launch.start logged quiet.bound .compile (quiet.compilerRequest case input) with
    ⟨cause, ran, ran'⟩ | ⟨completion, collected, _, _, _, _, after, after', ran, ran', near, told⟩
  · rw [ran, ran']
    exact ⟨rfl, logged⟩
  · rw [ran, ran']
    exact ⟨same.compileResult near completion _, told⟩

theorem compile_told (same : quiet.Told how loud) (told : left.Told how right)
    (case : Case) : InStep how (quiet.compile case left) (loud.compile case right) := by
  have removal := same.trees.removeStale told.tree case.program
  unfold compile
  cases removed : left.tree.removeStale case.program with
  | error cause =>
      rw [removed] at removal
      rw [removal.of_failed]
      exact ⟨rfl, told⟩
  | ok cleared =>
      rw [removed] at removal
      obtain ⟨cleared', removed', near⟩ := removal.of_done
      rw [removed']
      simp only [same.trees.locate near]
      have told := told.act (.removed case.program) near left.clock right.clock
      cases cleared.locate case.input with
      | error cause => exact ⟨rfl, told⟩
      | ok input => exact startCompiler_told same told case input

theorem createArtifact_told (trees : FileTree.Interchangeable how.near)
    (told : left.Told how right) (path : String) :
    InStep how (createArtifact path left) (createArtifact path right) := by
  have creation := trees.create told.tree path
  unfold createArtifact
  cases made : left.tree.create path with
  | error cause =>
      rw [made] at creation
      rw [creation.of_failed]
      exact ⟨rfl, told⟩
  | ok opened =>
      rw [made] at creation
      obtain ⟨⟨place', tree'⟩, made', place, near⟩ := creation.of_done
      rw [made']
      exact ⟨congrArg Except.ok place, told.act (.created path) near left.clock right.clock⟩

theorem startMachine_told (same : quiet.Told how loud) (told : left.Told how right)
    (case : Case) (program output diagnostics : Place) :
    InStep how (quiet.startMachine case program output diagnostics left)
      (loud.startMachine case program output diagnostics right) := by
  rw [startMachine_eq, startMachine_eq, same.collaborators, same.bound, same.machineRequest]
  have logged := logCommand_told same told quiet.collaborators.vm case
  rcases same.launch.start logged quiet.bound .execute
      (quiet.machineRequest case program output diagnostics) with
    ⟨cause, ran, ran'⟩ | ⟨completion, collected, _, _, _, _, after, after', ran, ran', near, told⟩
  · rw [ran, ran']
    exact ⟨rfl, logged⟩
  · rw [ran, ran']
    dsimp only
    split
    · exact ⟨rfl, told.say fun louder => by rw [same.shown louder, same.phrases louder]⟩
    · exact ⟨rfl, told⟩

theorem execute_told (same : quiet.Told how loud) (told : left.Told how right)
    (case : Case) : InStep how (quiet.execute case left) (loud.execute case right) := by
  unfold execute openArtifact
  rw [same.trees.locate told.tree]
  cases left.tree.locate case.program with
  | error cause => exact ⟨rfl, told⟩
  | ok program =>
      obtain ⟨output, after, after', made, made', told⟩ :=
        (createArtifact_told same.trees told case.actualOutput).both
      simp only [made, made']
      cases output with
      | error fault => exact ⟨rfl, told⟩
      | ok output =>
          obtain ⟨diagnostics, after, after', made, made', told⟩ :=
            (createArtifact_told same.trees told case.actualDiagnostics).both
          simp only [made, made']
          cases diagnostics with
          | error fault => exact ⟨rfl, told⟩
          | ok diagnostics => exact startMachine_told same told case program output diagnostics

theorem compare_told (same : quiet.Told how loud) (told : left.Told how right)
    (case : Case) : InStep how (quiet.compare case left) (loud.compare case right) := by
  unfold compare
  rw [same.collaborators, same.bound]
  cases quiet.collaborators.comparator with
  | builtin =>
      refine ⟨?_, told⟩
      simp only [same.trees.sameContent told.tree]
  | external diff =>
      have logged := logCommand_told same told diff case
      dsimp only
      rcases same.launch.start logged quiet.bound .diff (request diff case) with
        ⟨cause, ran, ran'⟩ |
          ⟨completion, collected, _, _, _, _, after, after', ran, ran', near, told⟩
      · rw [ran, ran']
        exact ⟨rfl, logged⟩
      · rw [ran, ran']
        exact ⟨rfl, told⟩

theorem finish_told (same : quiet.Told how loud) (told : left.Told how right)
    (case : Case) : InStep how (quiet.finish case left) (loud.finish case right) := by
  obtain ⟨result, after, after', ran, ran', told⟩ := (execute_told same told case).both
  unfold finish
  rw [ran, ran']
  cases result with
  | error fault => exact ⟨rfl, told⟩
  | ok completion =>
      obtain ⟨result, after, after', ran, ran', told⟩ := (compare_told same told case).both
      simp only [ran, ran']
      cases result with
      | error fault => exact ⟨rfl, told⟩
      | ok outcome =>
          exact ⟨rfl, told.sayAll (mismatchBlocks_told same case outcome)⟩

theorem classify_told (same : quiet.Told how loud) (told : left.Told how right)
    (case : Case) : InStep how (quiet.classify case left) (loud.classify case right) := by
  obtain ⟨status, after, after', ran, ran', told⟩ := (compile_told same told case).both
  unfold classify
  rw [ran, ran']
  cases status with
  | compiled => exact finish_told same told case
  | failed reason output =>
      exact ⟨rfl, told.sayAll (failureBlocks_told same reason output)⟩

theorem runCase_told (same : quiet.Told how loud) (told : left.Told how right)
    (case : Case) :
    (∃ fault after after', quiet.runCase case left = (.error fault, after) ∧
        loud.runCase case right = (.error fault, after') ∧ after.Told how after') ∨
      ∃ record record' after after', quiet.runCase case left = (.ok record, after) ∧
        loud.runCase case right = (.ok record', after') ∧ record'.told = record.told ∧
        after.Told how after' := by
  obtain ⟨result, after, after', ran, ran', told⟩ := (classify_told same told case).both
  unfold runCase
  rw [ran, ran']
  cases result with
  | error fault => exact .inl ⟨fault, after, after', rfl, rfl, told⟩
  | ok outcome =>
      refine .inr ⟨_, _, after, after', rfl, rfl, ?_, told⟩
      show (case.name, outcome) = (case.name, outcome)
      rfl

end Pipeline

namespace Run

variable {quiet loud : Pipeline}

attribute [local irreducible] Pipeline.runCase

theorem runCases_told (same : quiet.Told how loud) (cases : List Case)
    {summary summary' : Summary} (retold : summary.Retold summary')
    (told : left.Told how right) :
    (∃ name fault after after',
        runCases quiet cases summary left = (.error (name, fault), after) ∧
        runCases loud cases summary' right = (.error (name, fault), after') ∧
        after.Told how after') ∨
      ∃ final final' after after', runCases quiet cases summary left = (.ok final, after) ∧
        runCases loud cases summary' right = (.ok final', after') ∧
        final.Retold final' ∧ after.Told how after' := by
  induction cases generalizing summary summary' left right with
  | nil => exact .inr ⟨summary, summary', left, right, rfl, rfl, retold, told⟩
  | cons case cases ih =>
      rw [runCases_eq, runCases_eq]
      have banner : how.louder → Report.bannerLine loud.shown case.name =
        Report.bannerLine quiet.shown case.name := fun louder => by rw [same.shown louder]
      rcases Pipeline.runCase_told same (told.say banner) case with
        ⟨fault, after, after', ran, ran', told⟩ |
        ⟨record, record', after, after', ran, ran', again, told⟩
      · rw [ran, ran']
        exact .inl ⟨case.name, fault, after, after', rfl, rfl, told⟩
      · rw [ran, ran']
        have line : how.louder → Report.outcomeLine loud.shown record' =
            Report.outcomeLine quiet.shown record := by
          intro louder
          obtain ⟨name, outcome⟩ : record'.name = record.name ∧ record'.outcome = record.outcome :=
            Prod.mk.inj again
          rw [Report.outcomeLine, Report.outcomeLine, name, outcome, same.shown louder]
        exact ih (retold.add again) (told.say line)

end Run
end Acceptance
