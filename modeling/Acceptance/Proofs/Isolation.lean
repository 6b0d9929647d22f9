import Acceptance.Proofs.Regions
import Acceptance.Proofs.SideBySide

namespace Acceptance

open Text (Bytes)
open Command (Template)
open FileTree (AgreeOn Below Closed Trims)

def Case.paths (case : Case) : List String :=
  case.input :: case.expected :: case.program :: case.artifacts

-- The ways to the files of a case stay in a region, and what the runner changes for it lies in
-- its directory, under all names.
structure Case.Fenced (case : Case) (home : Place) (region : Place → Prop) (tree : FileTree) :
    Prop where
  coherent : tree.Coherent
  closed : Closed home tree
  directory : tree.isDirectoryAt home
  ways : ∀ path ∈ case.paths, ∀ place, tree.Passes path place → region place
  program : ∀ place, tree.site? case.program = some place → home <:+ place
  artifacts : ∀ path ∈ case.artifacts, ∀ place, tree.lead? path = some place → home <:+ place

namespace Case.Fenced

variable {case : Case} {home : Place} {region : Place → Prop} {tree before after : FileTree}

theorem trims (fenced : case.Fenced home region before) (trims : Trims home before after) :
    case.Fenced home region after where
  coherent := trims.coherent
  closed := trims.closed fenced.closed
  directory := by
    rw [FileTree.isDirectoryAt_congr (trims.agree.entry home fun below => below.2 rfl)]
    exact fenced.directory
  ways path member place passes := fenced.ways path member place (trims.pruned.passes passes)
  program place site := (trims.pruned.find site).elim (fenced.program place) And.left
  artifacts path member place lead :=
    (trims.pruned.find lead).elim (fenced.artifacts path member place) And.left

theorem cleared (fenced : case.Fenced home region before)
    (removed : before.removeStale case.program = .ok after) : Trims home before after :=
  .of_removeStale fenced.coherent fenced.directory fenced.program removed

theorem created {path : String} {place : Place} (fenced : case.Fenced home region before)
    (member : path ∈ case.artifacts) (made : before.create path = .ok (place, after)) :
    Trims home before after ∧ Below home place ∧ region place := by
  obtain ⟨trims, below⟩ := Trims.of_create fenced.coherent fenced.closed fenced.directory
    (fenced.artifacts path member) made
  exact ⟨trims, below, fenced.ways path (by simp [paths, member]) place
    (FileTree.find_passes (FileTree.create_leads made))⟩

theorem creates {path : String} {place : Place} {right : FileTree}
    (fenced : case.Fenced home region before) (fenced' : case.Fenced home region right)
    (agree : AgreeOn region before right) (member : path ∈ case.artifacts)
    (made : before.create path = .ok (place, after)) : ∃ after',
    right.create path = .ok (place, after') ∧ case.Fenced home region after ∧
      case.Fenced home region after' ∧ AgreeOn region after after' := by
  have creation := agree.create fenced.coherent fenced'.coherent
    (fenced.ways path (by simp [paths, member]))
  rw [made] at creation
  obtain ⟨⟨spot, after'⟩, made', rfl, near⟩ := creation.of_done
  exact ⟨after', made', fenced.trims (fenced.created member made).1,
    fenced'.trims (fenced'.created member made').1, near⟩

theorem blocks {path : String} {cause : IoError} {right : FileTree}
    (fenced : case.Fenced home region before) (fenced' : case.Fenced home region right)
    (agree : AgreeOn region before right) (member : path ∈ case.artifacts)
    (blocked : before.create path = .error cause) : right.create path = .error cause := by
  have creation := agree.create fenced.coherent fenced'.coherent
    (fenced.ways path (by simp [paths, member]))
  rw [blocked] at creation
  exact creation.of_failed

theorem agree (fenced : case.Fenced home region before) (agree : AgreeOn region before after)
    (own : region home) (coherent : after.Coherent) (closed : Closed home after) :
    case.Fenced home region after where
  coherent := coherent
  closed := closed
  directory := by
    rw [FileTree.isDirectoryAt_congr (agree.entry home own)]
    exact fenced.directory
  ways path member place passes := fenced.ways path member place
    (passes.agree agree.cwd fun spot seen => agree.entry spot (fenced.ways path member spot seen))
  program place site := fenced.program place (by
    rwa [FileTree.site?, agree.find (fenced.ways _ (by simp [paths]))] at site)
  artifacts path member place lead := fenced.artifacts path member place (by
    rwa [FileTree.lead?, agree.find (fenced.ways path (by simp [paths, member]))] at lead)

-- Relative names without `..` need no other fence than a directory without links.
theorem of_unlinked {layout : Layout} {label dir : String} (coherent : tree.Coherent)
    (closed : Closed home tree) (found : tree.locate dir = .ok home)
    (directory : tree.isDirectoryAt home) (unslashed : dir.toList.getLast? ≠ some '/')
    (relative : ∀ name ∈ layout.names,
      name.toList.head? ≠ some '/' ∧ ".." ∉ FileTree.partsOf name)
    (unlinked : ∀ place, Below home place → tree.NotLink place)
    (ways : ∀ place, tree.Passes dir place → region place)
    (own : ∀ place, home <:+ place → region place) :
    (Case.ofDirectory label dir layout).Fenced home region tree := by
  have known : ∀ path ∈ (Case.ofDirectory label dir layout).paths,
      ∃ name ∈ layout.names, path = Path.join dir name := by
    simp [paths, Case.artifacts, ofDirectory, Layout.names]
  have stays : ∀ path ∈ (Case.ofDirectory label dir layout).paths,
      (∀ place, tree.Passes path place → tree.Passes dir place ∨ home <:+ place) ∧
        ∀ purpose, purpose ≠ .newFile → ∀ place,
          FileTree.spot? (tree.find purpose path) = some place → home <:+ place := by
    intro path member
    obtain ⟨name, listed, rfl⟩ := known path member
    exact FileTree.join_within found unslashed (relative name listed).1 (relative name listed).2
      unlinked
  refine ⟨coherent, closed, directory, fun path member place passes => ?_,
    (stays _ (by simp [paths])).2 .itself (by decide),
    fun path member => (stays path (by simp [paths, member])).2 .target (by decide)⟩
  exact ((stays path member).1 place passes).elim (ways place) (own place)

end Case.Fenced

def Case.Cleared (case : Case) (home : Place) (region : Place → Prop) (tree : FileTree) : Prop :=
  ∃ before, case.Fenced home region before ∧ before.removeStale case.program = .ok tree

-- Once the program has been removed, a path that ends in a name leads to nothing.
theorem FileTree.removeStale_vacated {tree cleared : FileTree} {path name : String} {place : Place}
    (ends : EndsIn path name) (removed : tree.removeStale path = .ok cleared) :
    cleared.find .itself path ≠ .ok (.entry place) := by
  intro found
  have present : cleared.entry? place ≠ none := by
    have arrived := find_of_site ends (congrArg spot? found)
    intro absent
    simp [Ends, absent, found] at arrived
  have gone : ∀ {tree : FileTree} {place}, tree.isDirectoryAt place = false →
      entry? (tree.erase place) place = none := by
    intro tree place outside
    have inner : place ≠ [] := by
      rintro rfl
      cases outside
    simp [ entry?_erase, inner]
  rcases removeStale_cases removed with rfl | ⟨spot, reached, outside, rfl⟩
  · rw [removeStale_entry ends found] at removed
    split at removed
    · cases removed
    · rename_i outside
      have erased := gone (by simpa using outside)
      rw [Except.ok.inj removed] at erased
      exact present erased
  · have same : place = spot := by
      rcases (Pruned.erase _ spot).find (congrArg spot? found) with earlier | changed
      · rw [reached] at earlier
        exact (Option.some.inj earlier).symm
      · exact changed
    rw [same] at present
    exact present (gone outside)

theorem Case.Cleared.fenced {case : Case} {home : Place} {region : Place → Prop} {tree : FileTree}
    (cleared : case.Cleared home region tree) : case.Fenced home region tree := by
  obtain ⟨before, fenced, removed⟩ := cleared
  exact fenced.trims (fenced.cleared removed)

theorem Case.Cleared.lead {case : Case} {layout : Layout} {home place : Place}
    {region : Place → Prop} {tree : FileTree} (told : case.LaidOut layout)
    (cleared : case.Cleared home region tree) (lead : tree.lead? case.program = some place) :
    home <:+ place := by
  have fenced := cleared.fenced
  obtain ⟨before, _, removed⟩ := cleared
  rw [FileTree.lead?, FileTree.find_straight told.program fun spot found =>
    (FileTree.removeStale_vacated told.program removed found).elim] at lead
  exact fenced.program place lead

-- Started in a tree that is ready for it, the command changes only what is in the directory of
-- the case and leaves the case fenced in; and what it does depends only on the region.
structure Behaviour.Local (behaviour : Behaviour) (bound : Option Nat) (template : Template)
    (case : Case) (home : Place) (region : Place → Prop) (ready : FileTree → Prop) : Prop where
  writes : behaviour.Keeps bound template case fun before after => ready before →
    AgreeOn (fun place => ¬Below home place) before after ∧ case.Fenced home region after
  reads : ∀ left right input, ready left → ready right → AgreeOn region left right →
    Replies (AgreeOn region) (behaviour.answer bound template case input left)
      (behaviour.answer bound template case input right)

namespace Behaviour.Local

variable {behaviour : Behaviour} {bound : Option Nat} {template : Template} {case : Case}
  {home : Place} {region : Place → Prop} {ready : FileTree → Prop} {input : Bytes}
  {left right after : FileTree} {cause : IoError} {completion : Completion}
  {pieces : List (Stream × Bytes)} {elapsed : Nat}

theorem refused (own : behaviour.Local bound template case home region ready)
    (first : ready left) (second : ready right) (agree : AgreeOn region left right)
    (answer : behaviour.answer bound template case input left = .refused cause) :
    behaviour.answer bound template case input right = .refused cause := by
  have replies := own.reads left right input first second agree
  rw [answer] at replies
  exact replies.of_refused

theorem ended (own : behaviour.Local bound template case home region ready)
    (first : ready left) (second : ready right) (agree : AgreeOn region left right)
    (answer : behaviour.answer bound template case input left =
      .ended completion pieces after elapsed) :
    ∃ after' elapsed', behaviour.answer bound template case input right =
      .ended completion pieces after' elapsed' ∧ AgreeOn region after after' := by
  have replies := own.reads left right input first second agree
  rw [answer] at replies
  exact replies.of_ended

end Behaviour.Local

structure Pipeline.Local (pipeline : Pipeline) (behaviour : Behaviour) (case : Case) (home : Place)
    (region : Place → Prop) : Prop where
  launched : pipeline.launch = .ofBehaviour behaviour
  compiler : behaviour.Local pipeline.bound pipeline.collaborators.compiler case home region
    (case.Cleared home region)
  machine : behaviour.Local pipeline.bound pipeline.collaborators.vm case home region
    (case.Fenced home region)
  comparator : ∀ diff, pipeline.collaborators.comparator = .external diff →
    behaviour.Local pipeline.bound diff case home region (case.Fenced home region)

namespace Pipeline

variable {behaviour : Behaviour} {pipeline : Pipeline} {case : Case} {home : Place}
  {region : Place → Prop} {tree left right after cleared : FileTree} {deeds : List Event}

theorem Compiling.stays {status : CompileStatus}
    (own : pipeline.Local behaviour case home region) (fenced : case.Fenced home region tree)
    (compiling : Compiling pipeline case tree deeds status after) :
    AgreeOn (fun place => ¬Below home place) tree after ∧ case.Fenced home region after := by
  cases compiling with
  | stale kept => exact ⟨.refl tree, fenced⟩
  | missing removed lost =>
      have trims := fenced.cleared removed
      exact ⟨trims.agree, fenced.trims trims⟩
  | refused removed found ran =>
      have trims := fenced.cleared removed
      exact ⟨trims.agree, fenced.trims trims⟩
  | ended removed found ran =>
      obtain ⟨pieces, answer⟩ := (compiler_ended own.launched).mp ⟨_, ran⟩
      obtain ⟨agree, fenced'⟩ := own.compiler.writes _ _ _ _ _ _ answer ⟨tree, fenced, removed⟩
      exact ⟨(fenced.cleared removed).agree.trans agree, fenced'⟩

theorem opened_within {output diagnostics : Place} {first opened : FileTree}
    (fenced : case.Fenced home region tree)
    (made : tree.create case.actualOutput = .ok (output, first))
    (madeToo : first.create case.actualDiagnostics = .ok (diagnostics, opened)) :
    Trims home tree opened ∧ ∀ stream place,
      (sinks output diagnostics).channel stream = .opened place →
        Below home place ∧ region place := by
  obtain ⟨trims, inside⟩ := fenced.created (by simp [Case.artifacts]) made
  obtain ⟨trims', inside'⟩ := (fenced.trims trims).created (by simp [Case.artifacts]) madeToo
  refine ⟨trims.trans trims', fun stream place connected => ?_⟩
  cases stream <;> cases connected
  · exact inside
  · exact inside'

theorem Executing.stays {result : Except Fault Completion}
    (own : pipeline.Local behaviour case home region) (fenced : case.Fenced home region tree)
    (executing : Executing pipeline case tree deeds result after) :
    AgreeOn (fun place => ¬Below home place) tree after ∧ case.Fenced home region after := by
  cases executing with
  | noProgram lost => exact ⟨.refl tree, fenced⟩
  | noOutput found blocked => exact ⟨.refl tree, fenced⟩
  | noDiagnostics found made blocked =>
      have trims := (fenced.created (by simp [Case.artifacts]) made).1
      exact ⟨trims.agree, fenced.trims trims⟩
  | refused found made madeToo answer =>
      have trims := (opened_within fenced made madeToo).1
      exact ⟨trims.agree, fenced.trims trims⟩
  | ended found made madeToo ran =>
      obtain ⟨trims, inside⟩ := opened_within fenced made madeToo
      obtain ⟨pieces, left, answer, rfl⟩ := (machine_ended own.launched).mp ⟨_, ran⟩
      obtain ⟨agree, fenced'⟩ := own.machine.writes _ _ _ _ _ _ answer (fenced.trims trims)
      have trims' := Trims.of_deliver pieces fenced'.coherent fenced'.closed
        fun stream place connected => (inside stream place connected).1
      exact ⟨(trims.agree.trans agree).trans trims'.agree, fenced'.trims trims'⟩

theorem Comparing.stays {verdict : Except Fault Outcome}
    (own : pipeline.Local behaviour case home region) (fenced : case.Fenced home region tree)
    (comparing : Comparing pipeline case tree deeds verdict after) :
    AgreeOn (fun place => ¬Below home place) tree after ∧ case.Fenced home region after := by
  cases comparing with
  | builtin chosen => exact ⟨.refl tree, fenced⟩
  | refused chosen answer => exact ⟨.refl tree, fenced⟩
  | ended chosen ran =>
      obtain ⟨pieces, answer⟩ := (comparator_ended own.launched).mp ⟨_, ran⟩
      exact (own.comparator _ chosen).writes _ _ _ _ _ _ answer fenced

theorem Course.stays {verdict : Except Fault Outcome}
    (own : pipeline.Local behaviour case home region) (fenced : case.Fenced home region tree)
    (course : Course pipeline case tree deeds verdict after) :
    AgreeOn (fun place => ¬Below home place) tree after ∧ case.Fenced home region after := by
  cases course with
  | unfinished compiling => exact compiling.stays own fenced
  | faulted compiling executing =>
      obtain ⟨first, fenced⟩ := compiling.stays own fenced
      obtain ⟨second, fenced⟩ := executing.stays own fenced
      exact ⟨first.trans second, fenced⟩
  | compared compiling executing comparing =>
      obtain ⟨first, fenced⟩ := compiling.stays own fenced
      obtain ⟨second, fenced⟩ := executing.stays own fenced
      obtain ⟨third, fenced⟩ := comparing.stays own fenced
      exact ⟨(first.trans second).trans third, fenced⟩

theorem Compiling.alike {status : CompileStatus}
    (own : pipeline.Local behaviour case home region) (fenced : case.Fenced home region left)
    (fenced' : case.Fenced home region right) (agree : AgreeOn region left right)
    (compiling : Compiling pipeline case left deeds status after) :
    ∃ deeds' status' after', Compiling pipeline case right deeds' status' after' ∧
      (status' = .compiled ↔ status = .compiled) ∧ AgreeOn region after after' := by
  have removal := agree.removeStale (fenced.ways case.program (by simp [Case.paths]))
  have ways : ∀ {cleared}, left.removeStale case.program = .ok cleared →
      ∀ place, cleared.Passes case.input place → region place := fun removed =>
    (fenced.trims (fenced.cleared removed)).ways case.input (by simp [Case.paths])
  cases compiling with
  | stale kept =>
      rw [kept] at removal
      exact ⟨_, _, _, .stale removal.of_failed, Iff.rfl, agree⟩
  | missing removed lost =>
      rw [removed] at removal
      obtain ⟨cleared', removed', near⟩ := removal.of_done
      rw [← near.locate (ways removed)] at lost
      exact ⟨_, _, _, .missing removed' lost, Iff.rfl, near⟩
  | @refused cleared input cause removed found ran =>
      rw [removed] at removal
      obtain ⟨cleared', removed', near⟩ := removal.of_done
      have answer := own.compiler.refused ⟨left, fenced, removed⟩ ⟨right, fenced', removed'⟩ near
        ((compiler_refused own.launched).mp ran)
      rw [← near.input (ways removed _ (FileTree.passes_of_locate found))] at answer
      exact ⟨_, _, _, .refused removed' ((near.locate (ways removed)).trans found)
        ((compiler_refused own.launched).mpr answer), Iff.rfl, near⟩
  | @ended cleared after input completion collected elapsed removed found ran =>
      rw [removed] at removal
      obtain ⟨cleared', removed', near⟩ := removal.of_done
      obtain ⟨pieces, answer⟩ := (compiler_ended own.launched).mp ⟨_, ran⟩
      obtain ⟨_, kept⟩ := own.compiler.writes _ _ _ _ _ _ answer ⟨left, fenced, removed⟩
      obtain ⟨after', elapsed', answer', agree'⟩ := own.compiler.ended ⟨left, fenced, removed⟩
        ⟨right, fenced', removed'⟩ near answer
      rw [← near.input (ways removed _ (FileTree.passes_of_locate found))] at answer'
      obtain ⟨collected', ran'⟩ := (compiler_ended own.launched).mpr ⟨pieces, answer'⟩
      refine ⟨_, _, _, .ended removed' ((near.locate (ways removed)).trans found) ran', ?_, agree'⟩
      rw [compileResult_compiled, compileResult_compiled,
        agree'.isFile (kept.ways case.program (by simp [Case.paths]))]

theorem Executing.alike {result : Except Fault Completion}
    (own : pipeline.Local behaviour case home region) (fenced : case.Fenced home region left)
    (fenced' : case.Fenced home region right) (agree : AgreeOn region left right)
    (executing : Executing pipeline case left deeds result after) :
    ∃ deeds' after', Executing pipeline case right deeds' result after' ∧
      AgreeOn region after after' := by
  have output : case.actualOutput ∈ case.artifacts := by simp [Case.artifacts]
  have diagnostics : case.actualDiagnostics ∈ case.artifacts := by simp [Case.artifacts]
  have ways := fenced.ways case.program (by simp [Case.paths])
  cases executing with
  | noProgram lost => exact ⟨_, _, .noProgram ((agree.locate ways).trans lost), agree⟩
  | noOutput found blocked =>
      exact ⟨_, _, .noOutput ((agree.locate ways).trans found)
        (fenced.blocks fenced' agree output blocked), agree⟩
  | noDiagnostics found made blocked =>
      obtain ⟨first', made', kept, kept', near⟩ := fenced.creates fenced' agree output made
      exact ⟨_, _, .noDiagnostics ((agree.locate ways).trans found) made'
        (kept.blocks kept' near diagnostics blocked), near⟩
  | refused found made madeToo ran =>
      obtain ⟨first', made', kept, kept', near⟩ := fenced.creates fenced' agree output made
      obtain ⟨opened', madeToo', kept, kept', near⟩ := kept.creates kept' near diagnostics madeToo
      have answer := own.machine.refused kept kept' near ((machine_refused own.launched).mp ran)
      rw [← near.input (ways _ (FileTree.passes_of_locate found))] at answer
      exact ⟨_, _, .refused ((agree.locate ways).trans found) made' madeToo'
        ((machine_refused own.launched).mpr answer), near⟩
  | ended found made madeToo ran =>
      have inside := (opened_within fenced made madeToo).2
      obtain ⟨first', made', kept, kept', near⟩ := fenced.creates fenced' agree output made
      obtain ⟨opened', madeToo', kept, kept', near⟩ := kept.creates kept' near diagnostics madeToo
      obtain ⟨pieces, left', answer, rfl⟩ := (machine_ended own.launched).mp ⟨_, ran⟩
      obtain ⟨right', elapsed', answer', far⟩ := own.machine.ended kept kept' near answer
      obtain ⟨_, still⟩ := own.machine.writes _ _ _ _ _ _ answer kept
      obtain ⟨_, still'⟩ := own.machine.writes _ _ _ _ _ _ answer' kept'
      rw [← near.input (ways _ (FileTree.passes_of_locate found))] at answer'
      obtain ⟨collected, ran'⟩ := (machine_ended own.launched).mpr ⟨pieces, right', answer', rfl⟩
      exact ⟨_, _, .ended ((agree.locate ways).trans found) made' madeToo' ran',
        far.deliver pieces still.coherent still'.coherent fun stream place connected =>
          (inside stream place connected).2⟩

theorem Comparing.alike {verdict : Except Fault Outcome}
    (own : pipeline.Local behaviour case home region) (fenced : case.Fenced home region left)
    (fenced' : case.Fenced home region right) (agree : AgreeOn region left right)
    (comparing : Comparing pipeline case left deeds verdict after) :
    ∃ deeds' after', Comparing pipeline case right deeds' verdict after' ∧
      AgreeOn region after after' := by
  cases comparing with
  | builtin chosen =>
      have same : right.sameContent case.actualOutput case.expected =
          left.sameContent case.actualOutput case.expected := by
        rw [FileTree.sameContent, FileTree.sameContent,
          agree.read (fenced.ways case.actualOutput (by simp [Case.paths, Case.artifacts])),
          agree.read (fenced.ways case.expected (by simp [Case.paths]))]
      rw [← same]
      exact ⟨_, _, .builtin chosen, agree⟩
  | refused chosen ran =>
      have answer := (own.comparator _ chosen).refused fenced fenced' agree
        ((comparator_refused own.launched).mp ran)
      exact ⟨_, _, .refused chosen ((comparator_refused own.launched).mpr answer), agree⟩
  | ended chosen ran =>
      obtain ⟨pieces, answer⟩ := (comparator_ended own.launched).mp ⟨_, ran⟩
      obtain ⟨after', elapsed', answer', near⟩ :=
        (own.comparator _ chosen).ended fenced fenced' agree answer
      obtain ⟨collected, ran'⟩ := (comparator_ended own.launched).mpr ⟨pieces, answer'⟩
      exact ⟨_, _, .ended chosen ran', near⟩

theorem Course.alike {verdict : Except Fault Outcome}
    (own : pipeline.Local behaviour case home region) (fenced : case.Fenced home region left)
    (fenced' : case.Fenced home region right) (agree : AgreeOn region left right)
    (course : Course pipeline case left deeds verdict after) :
    ∃ deeds' after', Course pipeline case right deeds' verdict after' ∧
      AgreeOn region after after' := by
  cases course with
  | unfinished compiling =>
      obtain ⟨_, status, _, compiling', same, near⟩ := compiling.alike own fenced fenced' agree
      cases status with
      | compiled => cases same.mp rfl
      | failed reason output => exact ⟨_, _, .unfinished compiling', near⟩
  | faulted compiling executing =>
      obtain ⟨_, status, _, compiling', same, near⟩ := compiling.alike own fenced fenced' agree
      obtain rfl := same.mpr rfl
      obtain ⟨_, _, executing', near⟩ := executing.alike own (compiling.stays own fenced).2
        (compiling'.stays own fenced').2 near
      exact ⟨_, _, .faulted compiling' executing', near⟩
  | compared compiling executing comparing =>
      obtain ⟨_, status, _, compiling', same, near⟩ := compiling.alike own fenced fenced' agree
      obtain rfl := same.mpr rfl
      have kept := (compiling.stays own fenced).2
      have kept' := (compiling'.stays own fenced').2
      obtain ⟨_, _, executing', near⟩ := executing.alike own kept kept' near
      obtain ⟨_, _, comparing', near⟩ := comparing.alike own (executing.stays own kept).2
        (executing'.stays own kept').2 near
      exact ⟨_, _, .compared compiling' executing' comparing', near⟩

end Pipeline
end Acceptance
