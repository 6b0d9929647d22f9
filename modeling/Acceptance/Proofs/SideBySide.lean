import Acceptance.Proofs.Agreement
import Acceptance.Proofs.CaseFiles

namespace Acceptance

open Text (Bytes)
open Command (Template)
open FileTree (AgreeOff Spare Beside Leaves)

-- Two runs of a case side by side.

def Case.artifacts (case : Case) : List String := [case.actualOutput, case.actualDiagnostics]

-- The path does not lead to an artifact, not even through links.
def Case.Clear (case : Case) (path : String) (tree : FileTree) : Prop :=
  ∀ artifact ∈ case.artifacts, ∀ place, tree.site? artifact = some place →
    tree.lead? path ≠ some place

theorem Case.Clear.ways {case : Case} {path : String} {left right : FileTree}
    (clear : case.Clear path left) (ways : FileTree.SameWays left right) :
    case.Clear path right := by
  intro artifact member place site
  rw [← ways.lead]
  exact clear artifact member place ((ways.site artifact).trans site)

structure Case.Refilled (case : Case) (left right : FileTree) : Prop where
  beside : Beside case.artifacts left right
  content : ∀ artifact ∈ case.artifacts, ∃ place content mode mode',
    left.site? artifact = some place ∧ left.entry? place = some (.file content mode) ∧
      right.entry? place = some (.file content mode')

theorem Case.Refilled.read {case : Case} {left right : FileTree}
    (refilled : case.Refilled left right) (path : String) :
    (left.read path).toOption = (right.read path).toOption := by
  have content : ∀ place, (right.entry? place).bind Entry.bytes? =
      (left.entry? place).bind Entry.bytes? := by
    intro place
    by_cases hidden : ∃ artifact ∈ case.artifacts, left.site? artifact = some place
    · obtain ⟨artifact, member, site⟩ := hidden
      obtain ⟨spot, content, mode, mode', site', present, present'⟩ :=
        refilled.content artifact member
      cases site.symm.trans site'
      rw [present, present']
      rfl
    · rw [refilled.beside.agree.entry place fun artifact member site =>
        hidden ⟨artifact, member, site⟩]
  apply Option.ext
  intro bytes
  rw [toOption_eq_some, toOption_eq_some]
  constructor
  · exact fun found => refilled.beside.ways.read found fun place _ => content place
  · exact fun found => refilled.beside.ways.symm.read found fun place _ => (content place).symm

theorem FileTree.sameContent_eq (tree : FileTree) (first second : String) :
    tree.sameContent first second =
      match (tree.read first).toOption, (tree.read second).toOption with
      | some one, some other => one == other
      | _, _ => false := by
  unfold sameContent
  cases tree.read first <;> cases tree.read second <;> rfl

inductive Replies (related : FileTree → FileTree → Prop) : Reply → Reply → Prop where
  | refused (cause : IoError) : Replies related (.refused cause) (.refused cause)
  | ended {completion : Completion} {pieces : List (Stream × Bytes)} {left right : FileTree}
      {elapsed elapsed' : Nat} (still : related left right) :
      Replies related (.ended completion pieces left elapsed)
        (.ended completion pieces right elapsed')

theorem Replies.of_refused {related : FileTree → FileTree → Prop} {cause : IoError} {other : Reply}
    (replies : Replies related (.refused cause) other) : other = .refused cause := by
  cases replies
  rfl

theorem Replies.of_ended {related : FileTree → FileTree → Prop} {completion : Completion}
    {pieces : List (Stream × Bytes)} {left : FileTree} {elapsed : Nat} {other : Reply}
    (replies : Replies related (.ended completion pieces left elapsed) other) :
    ∃ right elapsed', other = .ended completion pieces right elapsed' ∧ related left right := by
  cases replies with
  | ended still => exact ⟨_, _, rfl, still⟩

-- What the compiler finds: the program has just been removed, and the artifacts are files if
-- anything.
structure Case.Vacant (case : Case) (tree : FileTree) : Prop where
  program : ∀ place, tree.site? case.program = some place → tree.entry? place = none
  spare : ∀ artifact ∈ case.artifacts, tree.Spare artifact

theorem Case.Vacant.of_gone {case : Case} {tree : FileTree} {place : Place}
    (site : tree.site? case.program = some place) (gone : tree.entry? place = none)
    (spare : ∀ artifact ∈ case.artifacts, tree.Spare artifact) : case.Vacant tree :=
  ⟨fun spot here => by rwa [← Option.some.inj (site.symm.trans here)], spare⟩

-- What the machine finds: there is a program, and it is none of the artifacts.
structure Case.Loaded (case : Case) (tree : FileTree) : Prop where
  program : tree.isFile case.program
  clear : case.Clear case.program tree
  spare : ∀ artifact ∈ case.artifacts, tree.Spare artifact

theorem Case.Loaded.beside {case : Case} {left right : FileTree} (loaded : case.Loaded left)
    (beside : Beside case.artifacts left right) : case.Loaded right :=
  ⟨(beside.alike loaded.clear).isFile.trans loaded.program, loaded.clear.ways beside.ways,
    beside.right⟩

-- In the trees in question the program neither reads nor writes an artifact, except through its
-- standard streams.
structure Behaviour.Discreet (behaviour : Behaviour) (bound : Option Nat) (template : Template)
    (case : Case) (ready : FileTree → Prop) : Prop where
  leaves : behaviour.Keeps bound template case fun before after => ready before →
    ∀ artifact ∈ case.artifacts, Leaves artifact before after
  blind : ∀ left right input, ready left → ready right → Beside case.artifacts left right →
    Replies (AgreeOff case.artifacts) (behaviour.answer bound template case input left)
      (behaviour.answer bound template case input right)

namespace Behaviour.Discreet

variable {behaviour : Behaviour} {bound : Option Nat} {template : Template} {case : Case}
  {ready : FileTree → Prop} {input : Bytes} {left right after : FileTree} {cause : IoError}
  {completion : Completion} {pieces : List (Stream × Bytes)} {elapsed : Nat}

theorem refused (discreet : behaviour.Discreet bound template case ready) (here : ready left)
    (there : ready right) (beside : Beside case.artifacts left right)
    (answer : behaviour.answer bound template case input left = .refused cause) :
    behaviour.answer bound template case input right = .refused cause := by
  have replies := discreet.blind left right input here there beside
  rw [answer] at replies
  exact replies.of_refused

theorem ended (discreet : behaviour.Discreet bound template case ready) (here : ready left)
    (there : ready right) (beside : Beside case.artifacts left right)
    (answer : behaviour.answer bound template case input left =
      .ended completion pieces after elapsed) :
    ∃ after' elapsed', behaviour.answer bound template case input right =
      .ended completion pieces after' elapsed' ∧ Beside case.artifacts after after' := by
  have replies := discreet.blind left right input here there beside
  rw [answer] at replies
  obtain ⟨after', elapsed', answer', still⟩ := replies.of_ended
  exact ⟨after', elapsed', answer', still,
    fun artifact member => (beside.left artifact member).leaves
      (discreet.leaves _ _ _ _ _ _ answer here artifact member),
    fun artifact member => (beside.right artifact member).leaves
      (discreet.leaves _ _ _ _ _ _ answer' there artifact member)⟩

end Behaviour.Discreet

-- The program reads the artifacts, but cares for their content only.
def Behaviour.Attentive (behaviour : Behaviour) (bound : Option Nat) (template : Template)
    (case : Case) : Prop :=
  ∀ left right, Beside case.artifacts left right →
    (∀ artifact ∈ case.artifacts,
      (left.read artifact).toOption = (right.read artifact).toOption) →
    Replies (fun _ _ => True) (behaviour.answer bound template case [] left)
      (behaviour.answer bound template case [] right)

-- The collaborators of a case keep to themselves: only the comparator looks at the artifacts, and
-- the compiler leaves no link to one of them in place of the program.
structure Pipeline.Discreet (pipeline : Pipeline) (behaviour : Behaviour) (case : Case) : Prop where
  launched : pipeline.launch = .ofBehaviour behaviour
  compiler : behaviour.Discreet pipeline.bound pipeline.collaborators.compiler case case.Vacant
  unlinked : behaviour.Keeps pipeline.bound pipeline.collaborators.compiler case
    fun before after => case.Vacant before → case.Clear case.program after
  machine : behaviour.Discreet pipeline.bound pipeline.collaborators.vm case case.Loaded
  comparator : ∀ diff, pipeline.collaborators.comparator = .external diff →
    behaviour.Attentive pipeline.bound diff case

namespace Case.LaidOut

variable {case : Case} {layout : Layout} {left right tree cleared : FileTree} {place spot : Place}
  {cause : IoError} {artifact : String}

theorem artifact_ends (told : case.LaidOut layout) (member : artifact ∈ case.artifacts) :
    ∃ name, FileTree.EndsIn artifact name ∧ name ≠ layout.program := by
  obtain ⟨_, _, programOutput, programDiagnostics, _⟩ := told.1.apart
  simp only [artifacts, List.mem_cons, List.not_mem_nil, or_false] at member
  rcases member with rfl | rfl
  · exact ⟨_, told.output, programOutput.symm⟩
  · exact ⟨_, told.diagnostics, programDiagnostics.symm⟩

-- Where nothing is, nothing leads to an artifact.
theorem vacant_clear (told : case.LaidOut layout) (vacant : case.Vacant tree) :
    case.Clear case.program tree := by
  intro artifact member place site lead
  cases own : tree.site? case.program with
  | none =>
      obtain ⟨cause, failed⟩ := FileTree.find_of_no_site told.program own
      rw [FileTree.lead?, FileTree.find_straight told.program (by simp [failed]), failed] at lead
      cases lead
  | some spot =>
      have straight : tree.NotLink spot := by
        intro target linked
        simp [vacant.program spot own] at linked
      rw [FileTree.lead_straight told.program own straight] at lead
      obtain ⟨name, ends, differ⟩ := told.artifact_ends member
      exact FileTree.sites_differ ends told.program differ site own (Option.some.inj lead).symm

-- Beside a program an artifact can only be hindered by its own name.
theorem same_cause (told : case.LaidOut layout) (member : artifact ∈ case.artifacts)
    (site : left.site? case.program = some place) (site' : right.site? case.program = some spot)
    (failed : left.find .itself artifact = .error cause) (nowhere : right.site? artifact = none) :
    right.find .itself artifact = .error cause := by
  obtain ⟨plain, label, dir, rfl⟩ := told
  obtain ⟨proper, slashless⟩ := plain.proper layout.program (by simp [Layout.names])
  have joined : ∃ name, artifact = Path.join dir name ∧ FileTree.IsName name ∧
      '/' ∉ name.toList := by
    simp only [artifacts, ofDirectory, List.mem_cons, List.not_mem_nil, or_false] at member
    rcases member with rfl | rfl
    · exact ⟨_, rfl, plain.proper layout.actualOutput (by simp [Layout.names])⟩
    · exact ⟨_, rfl, plain.proper layout.actualDiagnostics (by simp [Layout.names])⟩
  obtain ⟨name, rfl, proper', slashless'⟩ := joined
  obtain ⟨own, failed'⟩ :=
    FileTree.find_of_no_site (FileTree.endsIn_join dir proper' slashless') nowhere
  rw [failed']
  have one := FileTree.error_beside proper slashless proper' slashless' site failed
  have other := FileTree.error_beside proper slashless proper' slashless' site' failed'
  rcases one with refused | ⟨allowed, rfl⟩ <;> rcases other with refused' | ⟨allowed', rfl⟩
  · exact congrArg _ (Option.some.inj (refused'.symm.trans refused))
  · simp [refused] at allowed'
  · simp [allowed] at refused'
  · rfl

theorem blocked_too (told : case.LaidOut layout) (member : artifact ∈ case.artifacts)
    (beside : Beside case.artifacts left right) (site : left.site? case.program = some place)
    (blocked : left.create artifact = .error cause) : right.create artifact = .error cause := by
  obtain ⟨name, ends, _⟩ := told.artifact_ends member
  have failed := ((beside.left artifact member).create_fails ends).mp blocked
  have nowhere : right.site? artifact = none := by
    rw [← beside.agree.site artifact member, FileTree.site?, failed]
    rfl
  exact ((beside.right artifact member).create_fails ends).mpr
    (told.same_cause member site ((beside.ways.site _).symm.trans site) failed nowhere)

-- Where there is no room for a program, there is no input either.
theorem no_input (told : case.LaidOut layout) (nowhere : tree.site? case.program = none)
    (removed : tree.removeStale case.program = .ok cleared) :
    cleared.locate case.input ≠ .ok place := by
  intro found
  obtain ⟨cause, failed⟩ := FileTree.find_of_no_site told.program nowhere
  cases FileTree.removeStale_nowhere told.program removed nowhere
  rw [FileTree.removeStale_error told.program failed] at removed
  obtain ⟨spot, site⟩ := FileTree.site_of_lead told.input found
  have ends := told.program
  obtain ⟨plain, label, dir, rfl⟩ := told
  obtain ⟨proper, slashless⟩ := plain.proper layout.input (by simp [Layout.names])
  obtain ⟨proper', slashless'⟩ := plain.proper layout.program (by simp [Layout.names])
  split at removed
  · rename_i missing
    subst missing
    rcases FileTree.error_beside proper slashless proper' slashless' site failed with
      refused | ⟨_, wrong⟩
    · exact ends.not_refused refused
    · exact absurd wrong (by decide)
  · cases removed

end Case.LaidOut

namespace Pipeline

variable {behaviour : Behaviour} {pipeline : Pipeline} {case : Case} {layout : Layout}
  {left right after cleared cleared' : FileTree} {deeds : List Event}

theorem Compiling.follows {status : CompileStatus} (discreet : pipeline.Discreet behaviour case)
    (removed : left.removeStale case.program = .ok cleared)
    (removed' : right.removeStale case.program = .ok cleared')
    (vacant : case.Vacant cleared) (vacant' : case.Vacant cleared')
    (beside : Beside case.artifacts cleared cleared') (clear : case.Clear case.input cleared)
    (compiling : Compiling pipeline case left deeds status after) :
    ∃ deeds' status' after', Compiling pipeline case right deeds' status' after' ∧
      (status = .compiled ∧ status' = .compiled ∧ Beside case.artifacts after after' ∧
          case.Clear case.program after ∨
        status ≠ .compiled ∧ status' ≠ .compiled) := by
  have alike : FileTree.Alike case.input cleared cleared' := beside.alike clear
  cases compiling with
  | stale kept => simp [removed] at kept
  | missing own lost =>
      obtain rfl := Except.ok.inj (removed.symm.trans own)
      cases lost' : cleared'.locate case.input with
      | ok input => simp [(alike.locate input).mp lost'] at lost
      | error cause => exact ⟨_, _, _, .missing removed' lost', .inr ⟨nofun, nofun⟩⟩
  | refused own found ran =>
      obtain rfl := Except.ok.inj (removed.symm.trans own)
      have answer := discreet.compiler.refused vacant vacant' beside
        ((compiler_refused discreet.launched).mp ran)
      rw [← alike.input found] at answer
      exact ⟨_, _, _, .refused removed' ((alike.locate _).mpr found)
        ((compiler_refused discreet.launched).mpr answer), .inr ⟨nofun, nofun⟩⟩
  | @ended _ _ _ completion _ _ own found ran =>
      obtain rfl := Except.ok.inj (removed.symm.trans own)
      obtain ⟨pieces, answer⟩ := (compiler_ended discreet.launched).mp ⟨_, ran⟩
      obtain ⟨after', elapsed', answer', near⟩ :=
        discreet.compiler.ended vacant vacant' beside answer
      have clear' := discreet.unlinked _ _ _ _ _ _ answer vacant
      rw [← alike.input found] at answer'
      obtain ⟨collected, ran'⟩ := (compiler_ended discreet.launched).mpr ⟨pieces, answer'⟩
      refine ⟨_, _, _, .ended removed' ((alike.locate _).mpr found) ran', ?_⟩
      rw [Ne, Ne, compileResult_compiled, compileResult_compiled, (near.alike clear').isFile]
      by_cases compiled : completion = .exited 0 ∧ after.isFile case.program
      · exact .inl ⟨compiled, compiled, near, clear'⟩
      · exact .inr ⟨compiled, compiled⟩

-- Making the artifacts does not change what the machine gets to read.
theorem machine_input {place : Place} {opened opened' : FileTree}
    (own : Beside case.artifacts left opened) (near : Beside case.artifacts opened opened')
    (clear : case.Clear case.program left) (found : left.locate case.program = .ok place) :
    opened'.inputOf (.opened place) = opened.inputOf (.opened place) :=
  (near.alike (clear.ways own.ways)).input (((own.alike clear).locate place).mpr found)

theorem delivered {output diagnostics : Place} {first opened own : FileTree}
    (told : case.LaidOut layout) (spare : ∀ artifact ∈ case.artifacts, left.Spare artifact)
    (made : left.create case.actualOutput = .ok (output, first))
    (madeToo : first.create case.actualDiagnostics = .ok (diagnostics, opened))
    (leaves : ∀ artifact ∈ case.artifacts, Leaves artifact opened own)
    (pieces : List (Stream × Bytes)) :
    let ran := (sinks output diagnostics).deliver pieces own
    Beside case.artifacts own ran ∧
      ran.site? case.actualOutput = some output ∧
      ran.site? case.actualDiagnostics = some diagnostics ∧
      (∃ mode, ran.entry? output = some (.file (printed .output pieces) mode)) ∧
      ∃ mode, ran.entry? diagnostics = some (.file (printed .diagnostics pieces) mode) := by
  intro ran
  have here : case.actualOutput ∈ case.artifacts := by simp [Case.artifacts]
  have here' : case.actualDiagnostics ∈ case.artifacts := by simp [Case.artifacts]
  obtain ⟨_, _, _, _, _, _, differ⟩ := told.1.apart
  obtain ⟨site, site', ⟨mode, blank⟩, mode', blank'⟩ := told.blank_artifacts
    (spare _ here).ordinary (spare _ here').ordinary made madeToo
  have ready := (Beside.of_created told.output here spare made).right
  have ready' := (Beside.of_created told.diagnostics here' ready madeToo).right
  obtain ⟨beside, written, written'⟩ := Beside.of_delivered told.output told.diagnostics differ
    (fun artifact member => (ready' artifact member).leaves (leaves artifact member))
    ((leaves _ here).site.trans site) ((leaves _ here').site.trans site')
    (((leaves _ here).entry _ site).trans blank) (((leaves _ here').entry _ site').trans blank')
  exact ⟨beside, (beside.ways.site _).symm.trans ((leaves _ here).site.trans site),
    (beside.ways.site _).symm.trans ((leaves _ here').site.trans site'),
    ⟨mode, written⟩, mode', written'⟩

theorem Executing.follows {result : Except Fault Completion} (told : case.LaidOut layout)
    (discreet : pipeline.Discreet behaviour case)
    (file : left.isFile case.program) (clear : case.Clear case.program left)
    (beside : Beside case.artifacts left right)
    (executing : Executing pipeline case left deeds result after) :
    ∃ deeds' after', Executing pipeline case right deeds' result after' ∧
      ∀ completion, result = .ok completion → case.Refilled after after' := by
  have output : case.actualOutput ∈ case.artifacts := by simp [Case.artifacts]
  have diagnostics : case.actualDiagnostics ∈ case.artifacts := by simp [Case.artifacts]
  obtain ⟨content, mode, seen⟩ := FileTree.isFile_iff.mp file
  obtain ⟨place, found, _⟩ := FileTree.status_eq_ok.mp seen
  obtain ⟨spot, site⟩ := FileTree.site_of_lead told.program found
  have found' := ((beside.alike clear).locate place).mpr found
  have loaded : case.Loaded left := ⟨file, clear, beside.left⟩
  cases executing with
  | noProgram lost => simp [found] at lost
  | noOutput _ blocked =>
      exact ⟨_, _, .noOutput found' (told.blocked_too output beside site blocked), nofun⟩
  | noDiagnostics _ made blocked =>
      obtain ⟨first', made', own, near⟩ := beside.creates told.output output made
      exact ⟨_, _, .noDiagnostics found' made' (told.blocked_too diagnostics near
        ((own.ways.site case.program).symm.trans site) blocked), nofun⟩
  | refused known made madeToo ran =>
      obtain ⟨first', made', own, near⟩ := beside.creates told.output output made
      obtain ⟨opened', madeToo', own', near'⟩ := near.creates told.diagnostics diagnostics madeToo
      cases known.symm.trans found
      have ready := loaded.beside (own.trans own')
      have answer := discreet.machine.refused ready (ready.beside near') near'
        ((machine_refused discreet.launched).mp ran)
      rw [← machine_input (own.trans own') near' clear found] at answer
      exact ⟨_, _, .refused found' made' madeToo' ((machine_refused discreet.launched).mpr answer),
        nofun⟩
  | ended known made madeToo ran =>
      obtain ⟨first', made', own, near⟩ := beside.creates told.output output made
      obtain ⟨opened', madeToo', own', near'⟩ := near.creates told.diagnostics diagnostics madeToo
      cases known.symm.trans found
      obtain ⟨pieces, left', answer, rfl⟩ := (machine_ended discreet.launched).mp ⟨_, ran⟩
      have ready := loaded.beside (own.trans own')
      have ready' := ready.beside near'
      obtain ⟨right', elapsed', answer', apart⟩ := discreet.machine.ended ready ready' near' answer
      have written := delivered told beside.left made madeToo
        (discreet.machine.leaves _ _ _ _ _ _ answer ready) pieces
      have written' := delivered told beside.right made' madeToo'
        (discreet.machine.leaves _ _ _ _ _ _ answer' ready') pieces
      rw [← machine_input (own.trans own') near' clear found] at answer'
      obtain ⟨collected, ran'⟩ :=
        (machine_ended discreet.launched).mpr ⟨pieces, right', answer', rfl⟩
      obtain ⟨one, site, site', ⟨mode, present⟩, modeToo, presentToo⟩ := written
      obtain ⟨other, _, _, ⟨mode', present'⟩, modeToo', presentToo'⟩ := written'
      refine ⟨_, _, .ended found' made' madeToo' ran', fun _ _ =>
        ⟨one.symm.trans (apart.trans other), fun artifact member => ?_⟩⟩
      simp only [Case.artifacts, List.mem_cons, List.not_mem_nil, or_false] at member
      rcases member with rfl | rfl
      · exact ⟨_, _, mode, mode', site, present, present'⟩
      · exact ⟨_, _, modeToo, modeToo', site', presentToo, presentToo'⟩

theorem Comparing.follows {verdict : Except Fault Outcome}
    (discreet : pipeline.Discreet behaviour case)
    (refilled : case.Refilled left right)
    (comparing : Comparing pipeline case left deeds verdict after) :
    ∃ deeds' after', Comparing pipeline case right deeds' verdict after' := by
  cases comparing with
  | builtin chosen =>
      have same : left.sameContent case.actualOutput case.expected =
          right.sameContent case.actualOutput case.expected := by
        rw [FileTree.sameContent_eq, FileTree.sameContent_eq, refilled.read, refilled.read]
      rw [same]
      exact ⟨_, _, .builtin chosen⟩
  | refused chosen ran =>
      have replies := discreet.comparator _ chosen left right refilled.beside fun artifact _ =>
        refilled.read artifact
      rw [(comparator_refused discreet.launched).mp ran] at replies
      exact ⟨_, _, .refused chosen ((comparator_refused discreet.launched).mpr replies.of_refused)⟩
  | ended chosen ran =>
      obtain ⟨pieces, answer⟩ := (comparator_ended discreet.launched).mp ⟨_, ran⟩
      have replies := discreet.comparator _ chosen left right refilled.beside fun artifact _ =>
        refilled.read artifact
      rw [answer] at replies
      obtain ⟨after', elapsed', answer', _⟩ := replies.of_ended
      obtain ⟨collected, ran'⟩ := (comparator_ended discreet.launched).mpr ⟨pieces, answer'⟩
      exact ⟨_, _, .ended chosen ran'⟩

theorem Course.follows {verdict : Except Fault Outcome} (told : case.LaidOut layout)
    (discreet : pipeline.Discreet behaviour case)
    (removed : left.removeStale case.program = .ok cleared)
    (removed' : right.removeStale case.program = .ok cleared')
    (vacant : case.Vacant cleared) (vacant' : case.Vacant cleared')
    (beside : Beside case.artifacts cleared cleared') (clear : case.Clear case.input cleared)
    (course : Course pipeline case left deeds verdict after) :
    ∃ deeds' after', Course pipeline case right deeds' verdict after' := by
  cases course with
  | unfinished compiling =>
      obtain ⟨_, status, _, compiling', ⟨failed, _⟩ | ⟨_, failed⟩⟩ :=
        compiling.follows discreet removed removed' vacant vacant' beside clear
      · cases failed
      · cases status with
        | compiled => exact (failed rfl).elim
        | failed reason output => exact ⟨_, _, .unfinished compiling'⟩
  | faulted compiling executing =>
      obtain ⟨_, _, _, compiling', ⟨_, rfl, near, clear'⟩ | ⟨failed, _⟩⟩ :=
        compiling.follows discreet removed removed' vacant vacant' beside clear
      · obtain ⟨_, _, _, _, _, _, _, file⟩ := compiling.compiled
        obtain ⟨_, _, executing', _⟩ := executing.follows told discreet file clear' near
        exact ⟨_, _, .faulted compiling' executing'⟩
      · exact (failed rfl).elim
  | compared compiling executing comparing =>
      obtain ⟨_, _, _, compiling', ⟨_, rfl, near, clear'⟩ | ⟨failed, _⟩⟩ :=
        compiling.follows discreet removed removed' vacant vacant' beside clear
      · obtain ⟨_, _, _, _, _, _, _, file⟩ := compiling.compiled
        obtain ⟨_, _, executing', refilled⟩ :=
          executing.follows told discreet file clear' near
        obtain ⟨_, _, comparing'⟩ := comparing.follows discreet (refilled _ rfl)
        exact ⟨_, _, .compared compiling' executing' comparing'⟩
      · exact (failed rfl).elim

end Pipeline
end Acceptance
