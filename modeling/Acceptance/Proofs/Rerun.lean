import Acceptance.Proofs.SideBySide

namespace Acceptance

open Text (Bytes)
open Command (Template)
open FileTree (AgreeOff Spare Beside Leaves)

namespace Pipeline

-- What an earlier run leaves behind does not count. The leftovers are files in place of the
-- program and the artifacts; that a case gives the same outcome when it is run again is one
-- instance.

variable {behaviour : Behaviour} {pipeline : Pipeline} {case : Case} {layout : Layout}
  {start before after cleared : FileTree} {deeds : List Event} {session session' : Session}

theorem verdict_nowhere (told : case.LaidOut layout)
    (nowhere : session.tree.site? case.program = none) :
    pipeline.verdict case session = .ok .compileFailed := by
  obtain ⟨deeds, course, _⟩ := runCase_course pipeline case session
  generalize pipeline.verdict case session = verdict at course
  have unbuilt : ∀ {first built}, ¬Compiling pipeline case session.tree first .compiled built := by
    intro first built compiling
    obtain ⟨_, _, _, _, removed, found, _⟩ := compiling.compiled
    exact told.no_input nowhere removed found
  cases course with
  | unfinished _ => rfl
  | faulted compiling _ | compared compiling _ _ => exact (unbuilt compiling).elim

theorem verdict_blocked (told : case.LaidOut layout) {place : Place}
    (site : session.tree.site? case.program = some place)
    (inside : session.tree.isDirectoryAt place) :
    pipeline.verdict case session = .ok .compileFailed :=
  (Course.unfinished (.stale (FileTree.removeStale_inside told.program site inside))).taken.1

-- The trees differ only in the program and the artifacts, where there are files if anything. On
-- the right the program may be anything that can be removed.
structure Leftovers (case : Case) (left right : FileTree) : Prop where
  agree : AgreeOff (case.program :: case.artifacts) left right
  program : left.Spare case.program
  spare : ∀ artifact ∈ case.artifacts, left.Spare artifact
  spareToo : ∀ artifact ∈ case.artifacts, right.Spare artifact
  removable : ∀ place, right.site? case.program = some place → right.isDirectoryAt place = false

theorem verdict_leftovers (told : case.LaidOut layout) (discreet : pipeline.Discreet behaviour case)
    (leftovers : Leftovers case session.tree session'.tree)
    (clear : case.Clear case.input session.tree) :
    pipeline.verdict case session = pipeline.verdict case session' := by
  have same := leftovers.agree.site case.program (by simp)
  cases site : session.tree.site? case.program with
  | none => rw [verdict_nowhere told site, verdict_nowhere told (same.symm.trans site)]
  | some place =>
      have site' := same.symm.trans site
      have removed := FileTree.removeStale_outside told.program site
        (leftovers.program.outside place site)
      have removed' := FileTree.removeStale_outside told.program site'
        (leftovers.removable place site')
      have change := (FileTree.removeStale_site told.program
        (FileTree.straight_of_ordinary leftovers.program.ordinary site) removed site).2
      have beside := Beside.of_removed told.program leftovers.agree leftovers.program
        leftovers.spare leftovers.spareToo site (fun artifact member site' => by
          obtain ⟨name, ends, differ⟩ := told.artifact_ends member
          exact FileTree.sites_differ ends told.program differ site' site rfl) removed removed'
      have here := (change.ways.site case.program).symm.trans site
      have gone := FileTree.removeStale_gone told.program site
        (leftovers.program.outside place site) removed
      have gone' := FileTree.removeStale_gone told.program site' (leftovers.removable place site')
        removed'
      obtain ⟨deeds, course, _⟩ := runCase_course pipeline case session
      obtain ⟨_, _, course'⟩ := course.follows told discreet removed removed'
        (.of_gone here gone beside.left)
        (.of_gone ((beside.ways.site case.program).symm.trans here) gone' beside.right) beside
        (clear.ways change.ways)
      exact course'.taken.1.symm

theorem vacant_of_removed (told : case.LaidOut layout) (spare : start.Spare case.program)
    (others : ∀ artifact ∈ case.artifacts, cleared.Spare artifact)
    (removed : start.removeStale case.program = .ok cleared) : case.Vacant cleared := by
  cases site : start.site? case.program with
  | none =>
      cases FileTree.removeStale_nowhere told.program removed site
      exact ⟨fun place here => by simp [site] at here, others⟩
  | some place =>
      obtain ⟨gone, change⟩ := FileTree.removeStale_site told.program
        (FileTree.straight_of_ordinary spare.ordinary site) removed site
      exact .of_gone ((change.ways.site case.program).symm.trans site) gone others

def NoDirectory (case : Case) (tree : FileTree) : Prop :=
  ∀ place, tree.site? case.program = some place → tree.isDirectoryAt place = false

-- The collaborators change nothing but the program, and only the compiler makes it a directory.
structure Confined (pipeline : Pipeline) (behaviour : Behaviour) (case : Case) : Prop where
  compiler : behaviour.Keeps pipeline.bound pipeline.collaborators.compiler case
    fun before after => case.Vacant before → AgreeOff [case.program] before after
  machine : behaviour.Keeps pipeline.bound pipeline.collaborators.vm case
    fun before after => case.Loaded before →
      AgreeOff [case.program] before after ∧ (NoDirectory case before → NoDirectory case after)
  comparator : ∀ diff, pipeline.collaborators.comparator = .external diff →
    behaviour.Keeps pipeline.bound diff case fun before after =>
      (∀ artifact ∈ case.artifacts, before.Spare artifact) →
        AgreeOff [case.program] before after ∧ (NoDirectory case before → NoDirectory case after) ∧
          ∀ artifact ∈ case.artifacts, Leaves artifact before after

structure Reached (case : Case) (start now : FileTree) : Prop where
  agree : AgreeOff (case.program :: case.artifacts) start now
  spare : ∀ artifact ∈ case.artifacts, now.Spare artifact

theorem Reached.changed (reached : Reached case start before)
    (agree : AgreeOff [case.program] before after)
    (leaves : ∀ artifact ∈ case.artifacts, Leaves artifact before after) :
    Reached case start after := by
  refine ⟨reached.agree.trans ⟨agree.cwd, agree.together, fun path member => ?_,
    fun place apart => agree.entry place fun path member => apart path ?_⟩,
    fun artifact member => (reached.spare artifact member).leaves (leaves artifact member)⟩
  · rcases List.mem_cons.mp member with rfl | member
    · exact agree.site _ (by simp)
    · exact (leaves path member).site.symm
  · simp [List.mem_singleton.mp member]

theorem Reached.moved (reached : Reached case start before)
    (beside : Beside case.artifacts before after) : Reached case start after := by
  refine ⟨reached.agree.trans ⟨beside.agree.cwd, beside.agree.together,
    fun path _ => beside.ways.site path,
    fun place apart => beside.agree.entry place fun path member => apart path (by simp [member])⟩,
    beside.right⟩

theorem Reached.removed (told : case.LaidOut layout) (spare : start.Spare case.program)
    (others : ∀ artifact ∈ case.artifacts, start.Spare artifact)
    (removed : start.removeStale case.program = .ok cleared) : Reached case start cleared := by
  cases site : start.site? case.program with
  | none =>
      cases FileTree.removeStale_nowhere told.program removed site
      exact ⟨.refl _ _, others⟩
  | some place =>
      have change := (FileTree.removeStale_site told.program
        (FileTree.straight_of_ordinary spare.ordinary site) removed site).2
      obtain ⟨cwd, together, _⟩ :=
        FileTree.removeStale_frame told.program site (spare.alone site).apart removed
      refine ⟨⟨cwd.symm, fun one other => (together one other).symm,
        fun path _ => change.ways.site path, fun spot apart => (change.entry spot ?_).symm⟩,
        fun artifact member => change.spare (others artifact member)⟩
      rintro rfl
      exact apart case.program (by simp) site

theorem NoDirectory.ways (free : NoDirectory case before)
    (ways : FileTree.SameWays before after) : NoDirectory case after := by
  intro place site
  rw [← ways.isDirectoryAt]
  exact free place ((ways.site _).trans site)

theorem NoDirectory.of_file (told : case.LaidOut layout) (file : before.isFile case.program) :
    NoDirectory case before := by
  intro place site
  cases inside : before.isDirectoryAt place with
  | false => rfl
  | true =>
      have present : before.entry? place = some .directory := by
        simpa [FileTree.isDirectoryAt] using inside
      have located := FileTree.locate_straight told.program site
        (by simp [FileTree.NotLink, present]) (by simp [present])
      obtain ⟨content, mode, seen⟩ := FileTree.isFile_iff.mp file
      obtain ⟨spot, found, other⟩ := FileTree.status_eq_ok.mp seen
      cases located.symm.trans found
      simp [present] at other

theorem Compiling.reached {status : CompileStatus} (told : case.LaidOut layout)
    (discreet : pipeline.Discreet behaviour case) (confined : pipeline.Confined behaviour case)
    (spare : start.Spare case.program) (others : ∀ artifact ∈ case.artifacts, start.Spare artifact)
    (compiling : Compiling pipeline case start deeds status after) :
    Reached case start after := by
  cases compiling with
  | stale _ => exact ⟨.refl _ _, others⟩
  | missing removed _ | refused removed _ _ => exact .removed told spare others removed
  | ended removed found ran =>
      obtain ⟨pieces, answer⟩ := (compiler_ended discreet.launched).mp ⟨_, ran⟩
      have reached := Reached.removed told spare others removed
      have vacant := vacant_of_removed told spare reached.spare removed
      exact reached.changed (confined.compiler _ _ _ _ _ _ answer vacant)
        (discreet.compiler.leaves _ _ _ _ _ _ answer vacant)

theorem Compiling.loaded (told : case.LaidOut layout)
    (discreet : pipeline.Discreet behaviour case) (spare : start.Spare case.program)
    (others : ∀ artifact ∈ case.artifacts, start.Spare artifact)
    (compiling : Compiling pipeline case start deeds .compiled after)
    (reached : Reached case start after) : case.Loaded after := by
  obtain ⟨cleared, input, collected, elapsed, removed, found, ran, file⟩ := compiling.compiled
  obtain ⟨pieces, answer⟩ := (compiler_ended discreet.launched).mp ⟨_, ran⟩
  have vacant := vacant_of_removed told spare
    (Reached.removed told spare others removed).spare removed
  exact ⟨file, discreet.unlinked _ _ _ _ _ _ answer vacant, reached.spare⟩

theorem Executing.reached {result : Except Fault Completion} (told : case.LaidOut layout)
    (discreet : pipeline.Discreet behaviour case) (confined : pipeline.Confined behaviour case)
    (reached : Reached case start before) (loaded : case.Loaded before)
    (executing : Executing pipeline case before deeds result after) :
    Reached case start after ∧ NoDirectory case after := by
  have output : case.actualOutput ∈ case.artifacts := by simp [Case.artifacts]
  have diagnostics : case.actualDiagnostics ∈ case.artifacts := by simp [Case.artifacts]
  have free := NoDirectory.of_file told loaded.program
  have made : ∀ {place first}, before.create case.actualOutput = .ok (place, first) →
      Beside case.artifacts before first :=
    fun made => .of_created told.output output reached.spare made
  have madeToo : ∀ {place spot first opened},
      before.create case.actualOutput = .ok (place, first) →
      first.create case.actualDiagnostics = .ok (spot, opened) →
      Beside case.artifacts before opened := fun first second =>
    (made first).trans (.of_created told.diagnostics diagnostics (made first).right second)
  cases executing with
  | noProgram _ | noOutput _ _ => exact ⟨reached, free⟩
  | noDiagnostics _ first _ => exact ⟨reached.moved (made first), free.ways (made first).ways⟩
  | refused _ first second _ =>
      exact ⟨reached.moved (madeToo first second), free.ways (madeToo first second).ways⟩
  | ended _ first second ran =>
      obtain ⟨pieces, own, answer, rfl⟩ := (machine_ended discreet.launched).mp ⟨_, ran⟩
      have ready := loaded.beside (madeToo first second)
      have leaves := discreet.machine.leaves _ _ _ _ _ _ answer ready
      obtain ⟨agree, still⟩ := confined.machine _ _ _ _ _ _ answer ready
      have written := (delivered told reached.spare first second leaves pieces).1
      exact ⟨((reached.moved (madeToo first second)).changed agree leaves).moved written,
        (still (free.ways (madeToo first second).ways)).ways written.ways⟩

theorem Comparing.reached {verdict : Except Fault Outcome}
    (discreet : pipeline.Discreet behaviour case) (confined : pipeline.Confined behaviour case)
    (reached : Reached case start before) (free : NoDirectory case before)
    (comparing : Comparing pipeline case before deeds verdict after) :
    Reached case start after ∧ NoDirectory case after := by
  cases comparing with
  | builtin _ | refused _ _ => exact ⟨reached, free⟩
  | ended chosen ran =>
      obtain ⟨pieces, answer⟩ := (comparator_ended discreet.launched).mp ⟨_, ran⟩
      obtain ⟨agree, still, leaves⟩ :=
        confined.comparator _ chosen _ _ _ _ _ _ answer reached.spare
      exact ⟨reached.changed agree leaves, still free⟩

-- Only a compiler that failed can have left a directory in place of the program.
theorem Course.reached {verdict : Except Fault Outcome} (told : case.LaidOut layout)
    (discreet : pipeline.Discreet behaviour case) (confined : pipeline.Confined behaviour case)
    (spare : start.Spare case.program) (others : ∀ artifact ∈ case.artifacts, start.Spare artifact)
    (course : Course pipeline case start deeds verdict after) :
    Reached case start after ∧ (verdict = .ok .compileFailed ∨ NoDirectory case after) := by
  cases course with
  | unfinished compiling =>
      exact ⟨compiling.reached told discreet confined spare others, .inl rfl⟩
  | faulted compiling executing =>
      have reached := compiling.reached told discreet confined spare others
      have loaded := compiling.loaded told discreet spare others reached
      exact (executing.reached told discreet confined reached loaded).imp_right .inr
  | compared compiling executing comparing =>
      have reached := compiling.reached told discreet confined spare others
      have loaded := compiling.loaded told discreet spare others reached
      obtain ⟨later, free⟩ := executing.reached told discreet confined reached loaded
      exact (comparing.reached discreet confined later free).imp_right .inr

theorem verdict_independent_of_leftovers (behaviour : Behaviour) (pipeline : Pipeline)
    (case : Case) (layout : Layout) (told : case.LaidOut layout)
    (discreet : pipeline.Discreet behaviour case) :
    (∀ session session' : Session,
      AgreeOff (case.program :: case.artifacts) session.tree session'.tree →
      (∀ path ∈ case.program :: case.artifacts,
        session.tree.Spare path ∧ session'.tree.Spare path) →
      case.Clear case.input session.tree →
      pipeline.verdict case session = pipeline.verdict case session') ∧
    ∀ session : Session, pipeline.Confined behaviour case →
      (∀ path ∈ case.program :: case.artifacts, session.tree.Spare path) →
      case.Clear case.input session.tree →
      pipeline.verdict case (pipeline.runCase case session).2 = pipeline.verdict case session := by
  constructor
  · intro session session' agree spare clear
    exact verdict_leftovers told discreet
      ⟨agree, (spare _ (by simp)).1, fun artifact member => (spare artifact (by simp [member])).1,
        fun artifact member => (spare artifact (by simp [member])).2, (spare _ (by simp)).2.outside⟩
      clear
  · intro session confined spare clear
    have others : ∀ artifact ∈ case.artifacts, session.tree.Spare artifact :=
      fun artifact member => spare artifact (by simp [member])
    obtain ⟨deeds, course, _⟩ := runCase_course pipeline case session
    obtain ⟨reached, outcome⟩ :=
      course.reached told discreet confined (spare _ (by simp)) others
    by_cases free : NoDirectory case (pipeline.runCase case session).2.tree
    · exact (verdict_leftovers told discreet
        ⟨reached.agree, spare _ (by simp), others, reached.spare, free⟩ clear).symm
    · rw [outcome.resolve_right free]
      cases site : (pipeline.runCase case session).2.tree.site? case.program with
      | none => exact verdict_nowhere told site
      | some place =>
          refine verdict_blocked told site ?_
          cases inside : (pipeline.runCase case session).2.tree.isDirectoryAt place with
          | true => rfl
          | false =>
              exact (free fun spot here => Option.some.inj (site.symm.trans here) ▸ inside).elim

end Pipeline

-- Collaborators that put something in place of the program or nothing: the compiler what it makes of
-- its input, the machine, which prints its program, what it is told to.
namespace Placing

def case : Case := .ofDirectory "add" "tests/add" {}

theorem told : case.LaidOut {} := ⟨by decide, _, _, rfl⟩

def Standing (tree : FileTree) : Prop :=
  tree.cwd = [] ∧ tree.entry? ["tests"] = some .directory ∧
    tree.entry? ["add", "tests"] = some .directory

instance (tree : FileTree) : Decidable (Standing tree) :=
  inferInstanceAs (Decidable (_ ∧ _ ∧ _))

def placed (entry : Option Entry) (tree : FileTree) : FileTree :=
  entry.elim tree (tree.put ["a.frisc", "add", "tests"])

def behaviour (built : Bytes → Option Entry) (left : Option Entry) : Behaviour :=
  fun _ tree program _ input =>
    if Standing tree then
      if program = "compiler" then
        .ended (.exited (if (built input).isSome then 0 else 1)) [] (placed (built input) tree) 3
      else .ended (.exited 0) [(.output, input)] (placed left tree) 4
    else .ended (.exited 1) [] tree 2

def pipeline (built : Bytes → Option Entry) (left : Option Entry) : Pipeline where
  launch := .ofBehaviour (behaviour built left)
  collaborators := ⟨⟨"compiler", []⟩, ⟨"machine", []⟩, .builtin⟩

variable {built : Bytes → Option Entry} {left : Option Entry} {one other tree : FileTree} {name : String}
  {bound : Option Nat} {template : Template}

theorem Standing.site (standing : Standing tree) (member : name ∈ ({} : Layout).names) :
    tree.site? (Path.join "tests/add" name) = some [name, "add", "tests"] := by
  have allowed : ∀ name ∈ ({} : Layout).names, FileTree.IsName name ∧ '/' ∉ name.toList ∧
      FileTree.refusal? (Path.join "tests/add" name) = none ∧
      Text.size name ≤ FileTree.nameLimit := by decide
  obtain ⟨proper, plain, kept, fits⟩ := allowed name member
  obtain ⟨cwd, upper, lower⟩ := standing
  have inside : tree.isDirectoryAt ["tests"] ∧ tree.isDirectoryAt ["add", "tests"] := by
    simp [FileTree.isDirectoryAt, upper, lower]
  have walked : tree.advance .target [] ["tests", "add"] = .arrived (.entry ["add", "tests"]) := by
    have root : tree.isDirectoryAt [] := rfl
    have short : ¬FileTree.nameLimit < Text.size "tests" ∧
        ¬FileTree.nameLimit < Text.size "add" := by decide
    simp [FileTree.advance, root, inside, upper, lower, short]
  refine (FileTree.site_join "tests/add" proper plain).mpr ⟨kept, fits, _, ?_, inside.2, rfl⟩
  have parts : FileTree.leadOf "tests/add" = ["tests", "add"] := by decide
  have start : (if FileTree.isAbsolute "tests/add" then [] else tree.cwd) = [] := by simp [cwd]
  rw [FileTree.enter, FileTree.resolve, parts, start, walked]

theorem Standing.placed (standing : Standing tree) (entry : Option Entry) :
    Standing (placed entry tree) := by
  cases entry with
  | none => exact standing
  | some entry => simpa [Standing, Placing.placed, FileTree.entry?_put] using standing

theorem placed_entry {place : Place} (entry : Option Entry)
    (apart : place ≠ ["a.frisc", "add", "tests"]) :
    FileTree.entry? (placed entry tree) place = tree.entry? place := by
  cases entry with
  | none => rfl
  | some entry => simp [placed, FileTree.entry?_put, apart]

theorem placed_shared (entry : Option Entry) : (placed entry tree).shared = tree.shared := by
  cases entry <;> rfl

theorem placed_together (entry : Option Entry) (place spot : Place) :
    (placed entry tree).Together place spot ↔ tree.Together place spot := by
  rw [FileTree.Together, FileTree.Together, placed_shared]

theorem artifact_site {artifact : String} (member : artifact ∈ case.artifacts) :
    ∃ name, name ≠ "a.frisc" ∧ ∀ tree, Standing tree →
      tree.site? artifact = some [name, "add", "tests"] := by
  simp only [Case.artifacts, case, Case.ofDirectory, List.mem_cons, List.not_mem_nil,
    or_false] at member
  rcases member with rfl | rfl
  · exact ⟨"my.out", by decide, fun _ standing => standing.site (by decide)⟩
  · exact ⟨"my.err", by decide, fun _ standing => standing.site (by decide)⟩

theorem Standing.leaves (standing : Standing tree) (entry : Option Entry) :
    ∀ artifact ∈ case.artifacts, Leaves artifact tree (Placing.placed entry tree) := by
  intro artifact member
  obtain ⟨name, differ, site⟩ := artifact_site member
  refine ⟨by rw [site _ standing, site _ (standing.placed entry)], fun place here => ?_,
    fun place _ alone => ?_⟩
  · cases (site _ standing).symm.trans here
    exact placed_entry entry (by simpa using differ)
  · unfold FileTree.Alone
    rwa [placed_shared]

theorem Standing.beside (standing : Standing one) (beside : Beside case.artifacts one other) :
    Standing other := by
  have same : ∀ place : Place, place.length < 3 → other.entry? place = one.entry? place := by
    intro place short
    refine (beside.agree.entry place fun artifact member here => ?_).symm
    obtain ⟨name, _, site⟩ := artifact_site member
    cases (site _ standing).symm.trans here
    simp at short
  obtain ⟨cwd, upper, lower⟩ := standing
  exact ⟨beside.agree.cwd ▸ cwd, by rw [same _ (by decide), upper],
    by rw [same _ (by decide), lower]⟩

theorem answer_placed (built : Bytes → Option Entry) (left : Option Entry) (bound : Option Nat)
    (template : Template) (input : Bytes) : ∃ completion pieces entry elapsed, ∀ tree,
      (behaviour built left).answer bound template case input tree =
        if Standing tree then .ended completion pieces (placed entry tree) elapsed
        else .ended (.exited 1) [] tree 2 := by
  unfold Behaviour.answer behaviour
  by_cases compiler : template.program = "compiler"
  · exact ⟨_, _, _, _, fun tree => by rw [if_pos compiler]⟩
  · exact ⟨_, _, _, _, fun tree => by rw [if_neg compiler]⟩

theorem placing_discreet (ready : FileTree → Prop) :
    (behaviour built left).Discreet bound template case ready := by
  constructor
  · intro before input completion pieces after elapsed ran _
    obtain ⟨_, _, entry, _, answer⟩ := answer_placed built left bound template input
    rw [answer] at ran
    split at ran
    · rename_i standing
      cases ran
      exact standing.leaves entry
    · cases ran
      exact fun artifact _ => .refl artifact _
  · intro one other input _ _ beside
    obtain ⟨_, _, entry, _, answer⟩ := answer_placed built left bound template input
    rw [answer, answer]
    by_cases standing : Standing one
    · have standing' := standing.beside beside
      rw [if_pos standing, if_pos standing']
      refine .ended ⟨?_, ?_, fun artifact member => ?_, fun place apart => ?_⟩
      · exact (standing.placed entry).1.trans (standing'.placed entry).1.symm
      · intro place spot
        rw [placed_together, placed_together]
        exact beside.agree.together place spot
      · obtain ⟨name, _, site⟩ := artifact_site member
        rw [site _ (standing.placed entry), site _ (standing'.placed entry)]
      · have same := beside.agree.entry place fun artifact member here => apart artifact member
          ((standing.leaves entry artifact member).site.trans here)
        cases entry with
        | none => exact same
        | some entry => simp only [placed, Option.elim, FileTree.entry?_put, same]
    · rw [if_neg standing, if_neg fun standing' => standing (standing'.beside beside.symm)]
      exact .ended beside.agree

theorem placing_confined : (behaviour built left).Keeps bound template case
    (AgreeOff [case.program]) := by
  intro before input completion pieces after elapsed ran
  obtain ⟨_, _, entry, _, answer⟩ := answer_placed built left bound template input
  rw [answer] at ran
  split at ran
  · rename_i standing
    cases ran
    have site : ∀ {tree}, Standing tree →
        tree.site? case.program = some ["a.frisc", "add", "tests"] :=
      fun standing => standing.site (by decide)
    refine ⟨?_, ?_, fun path member => ?_, fun place apart => ?_⟩
    · exact standing.1.trans (standing.placed entry).1.symm
    · exact fun place spot => (placed_together entry place spot).symm
    · rw [List.mem_singleton.mp member, site standing, site (standing.placed entry)]
    · refine (placed_entry entry fun same => apart case.program (by simp) ?_).symm
      rw [site standing, same]
  · cases ran
    exact .refl _ _

def given : Entry := .file (Text.utf8 "42") 420

-- A case with an input before its first run, and after a run of an older program.
def bare (input : Entry) : FileTree where
  entries := [(["tests"], .directory), (["add", "tests"], .directory),
    (["test.in", "add", "tests"], input), (["test.out", "add", "tests"], given)]

def stale (input : Entry) : FileTree where
  entries := (bare input).entries ++ [(["a.frisc", "add", "tests"], .file (Text.utf8 "41") 384),
    (["my.out", "add", "tests"], .file (Text.utf8 "411") 384)]

-- No input is looked at on the way to the files that come and go.
theorem loose_cases {motive : String → Prop} (program : motive case.program)
    (output : motive case.actualOutput) (diagnostics : motive case.actualDiagnostics) :
    ∀ path ∈ case.program :: case.artifacts, motive path := by
  intro path member
  simp only [Case.artifacts, List.mem_cons, List.not_mem_nil, or_false] at member
  rcases member with rfl | rfl | rfl
  · exact program
  · exact output
  · exact diagnostics

theorem bare_stale (input : Entry) :
    AgreeOff (case.program :: case.artifacts) (bare input) (stale input) := by
  refine ⟨rfl, fun _ _ => .rfl, loose_cases rfl rfl rfl, fun place apart => ?_⟩
  have program : place ≠ ["a.frisc", "add", "tests"] := fun same =>
    apart case.program (by simp) (same ▸ rfl)
  have output : place ≠ ["my.out", "add", "tests"] := fun same =>
    apart case.actualOutput (by simp [Case.artifacts]) (same ▸ rfl)
  simp [ FileTree.entry?, stale, List.lookup_append, List.lookup_cons, beq_false_of_ne program,
    beq_false_of_ne output]

theorem spare_both (input : Entry) : ∀ path ∈ case.program :: case.artifacts,
    (bare input).Spare path ∧ (stale input).Spare path := by
  have outside : ∀ path ∈ case.program :: case.artifacts,
      ((bare input).isOrdinary path ∧
        ((bare input).site? path).all (fun place => !(bare input).isDirectoryAt place)) ∧
      (stale input).isOrdinary path ∧
        ((stale input).site? path).all (fun place => !(stale input).isDirectoryAt place) :=
    loose_cases ⟨⟨rfl, rfl⟩, rfl, rfl⟩ ⟨⟨rfl, rfl⟩, rfl, rfl⟩ ⟨⟨rfl, rfl⟩, rfl, rfl⟩
  intro path member
  obtain ⟨⟨fair, free⟩, fair', free'⟩ := outside path member
  refine ⟨⟨fair, fun place site => ?_⟩, fair', fun place site => ?_⟩
  · simpa [site] using free
  · simpa [site] using free'

theorem clear_both : case.Clear case.input (bare given) ∧ case.Clear case.input (stale given) := by
  have apart : ∀ artifact ∈ case.artifacts,
      (bare given).site? artifact ≠ (bare given).lead? case.input ∧
        (stale given).site? artifact ≠ (stale given).lead? case.input := by decide
  constructor
  · exact fun artifact member place site lead => (apart artifact member).1 (site.trans lead.symm)
  · exact fun artifact member place site lead => (apart artifact member).2 (site.trans lead.symm)

theorem discreet (straight : ∀ input target, built input ≠ some (.link target)) :
    (pipeline built left).Discreet (behaviour built left) case := by
  refine ⟨rfl, placing_discreet _, fun before input completion pieces after elapsed ran vacant => ?_,
    placing_discreet _, nofun⟩
  have answer : (behaviour built left).answer none ⟨"compiler", []⟩ case input before =
      .ended completion pieces after elapsed := ran
  unfold Behaviour.answer behaviour at answer
  split at answer
  · rename_i standing
    rw [if_pos rfl] at answer
    cases answer
    intro artifact member place site lead
    obtain ⟨name, differ, known⟩ := artifact_site member
    cases (known _ (standing.placed _)).symm.trans site
    have own : FileTree.lead? (placed (built input) before) case.program =
        some ["a.frisc", "add", "tests"] := by
      refine FileTree.lead_straight told.program ((standing.placed _).site (by decide)) ?_
      intro target linked
      cases made : built input with
      | none =>
          rw [made] at linked
          cases (vacant.program _ (standing.site (by decide))).symm.trans linked
      | some entry =>
          rw [made] at linked
          simp only [placed, Option.elim, FileTree.entry?_put] at linked
          exact straight input target (by simpa [made] using linked)
    cases own.symm.trans lead
    exact differ rfl
  · cases answer
    exact told.vacant_clear vacant

theorem confined (free : left ≠ some .directory) :
    (pipeline built left).Confined (behaviour built left) case := by
  refine ⟨fun _ _ _ _ _ _ ran _ => placing_confined _ _ _ _ _ _ ran,
    fun before input completion pieces after elapsed ran _ =>
      ⟨placing_confined _ _ _ _ _ _ ran, fun clear place site => ?_⟩, nofun⟩
  have answer : (behaviour built left).answer none ⟨"machine", []⟩ case input before =
      .ended completion pieces after elapsed := ran
  unfold Behaviour.answer behaviour at answer
  split at answer
  · rename_i standing
    rw [if_neg (show "machine" ≠ "compiler" by decide)] at answer
    cases answer
    cases ((standing.placed left).site (by decide : "a.frisc" ∈ _)).symm.trans site
    cases left with
    | none => exact clear _ site
    | some entry =>
        simpa [placed, FileTree.isDirectoryAt, FileTree.entry?_put] using
          fun same : entry = .directory => free (congrArg some same)
  · cases answer
    exact clear place site

def first : Session := { tree := bare given }
def later : Session := { tree := stale given }

end Placing

-- A program that passes; then nothing, a directory and half a program in place of one.
theorem Pipeline.verdict_independent_of_leftovers_placing :
    let copying := Placing.pipeline (fun input => some (.file input 420)) none
    let idle := Placing.pipeline (fun _ => none) none
    let failing := Placing.pipeline (fun _ => some .directory) none
    let partly := Placing.pipeline (fun input => some (.file (input.take 1) 420)) none
    (copying.verdict Placing.case Placing.first = copying.verdict Placing.case Placing.later ∧
      copying.verdict Placing.case (copying.runCase Placing.case Placing.later).2 =
        copying.verdict Placing.case Placing.later ∧
      copying.verdict Placing.case Placing.later = .ok .passed) ∧
    (idle.verdict Placing.case Placing.first = idle.verdict Placing.case Placing.later ∧
      idle.verdict Placing.case (idle.runCase Placing.case Placing.later).2 =
        idle.verdict Placing.case Placing.later ∧
      idle.verdict Placing.case Placing.later = .ok .compileFailed) ∧
    (failing.verdict Placing.case (failing.runCase Placing.case Placing.later).2 =
        failing.verdict Placing.case Placing.later ∧
      failing.verdict Placing.case Placing.later = .ok .compileFailed) ∧
    partly.verdict Placing.case (partly.runCase Placing.case Placing.later).2 =
        partly.verdict Placing.case Placing.later ∧
      partly.verdict Placing.case Placing.later = .ok .runtimeMismatch := by
  have passed : (Placing.pipeline (fun input => some (.file input 420)) none).verdict Placing.case
    Placing.later = .ok .passed := rfl
  have nothing : (Placing.pipeline (fun _ => none) none).verdict Placing.case Placing.later =
    .ok .compileFailed := rfl
  have failed : (Placing.pipeline (fun _ => some .directory) none).verdict Placing.case
    Placing.later = .ok .compileFailed := rfl
  have half : (Placing.pipeline (fun input => some (.file (input.take 1) 420)) none).verdict
    Placing.case Placing.later = .ok .runtimeMismatch := rfl
  intro copying idle failing partly
  have spare : ∀ path ∈ Placing.case.program :: Placing.case.artifacts,
      Placing.later.tree.Spare path := fun path member => (Placing.spare_both _ path member).2
  obtain ⟨agree, again⟩ := verdict_independent_of_leftovers _ copying Placing.case {} Placing.told
    (Placing.discreet nofun)
  obtain ⟨agreeIdle, againIdle⟩ := verdict_independent_of_leftovers _ idle Placing.case {}
    Placing.told (Placing.discreet nofun)
  obtain ⟨_, againFailing⟩ := verdict_independent_of_leftovers _ failing Placing.case {}
    Placing.told (Placing.discreet nofun)
  obtain ⟨_, againPartly⟩ := verdict_independent_of_leftovers _ partly Placing.case {}
    Placing.told (Placing.discreet nofun)
  refine ⟨⟨?_, ?_, passed⟩, ⟨?_, ?_, nothing⟩, ⟨?_, failed⟩, ?_, half⟩
  · exact agree Placing.first Placing.later (Placing.bare_stale _) (Placing.spare_both _)
      Placing.clear_both.1
  · exact again Placing.later (Placing.confined nofun) spare Placing.clear_both.2
  · exact agreeIdle Placing.first Placing.later (Placing.bare_stale _) (Placing.spare_both _)
      Placing.clear_both.1
  · exact againIdle Placing.later (Placing.confined nofun) spare Placing.clear_both.2
  · exact againFailing Placing.later (Placing.confined nofun) spare Placing.clear_both.2
  · exact againPartly Placing.later (Placing.confined nofun) spare Placing.clear_both.2

-- Links to an artifact, be it in place of the program or of the input, and a machine that makes its
-- program a directory have to be excluded: the collaborators neither read nor write an artifact,
-- and change nothing but the program.
theorem Pipeline.leftovers_matter_through_link_or_directory :
    let copying := Placing.pipeline (fun input => some (.file input 420)) none
    let linking := Placing.pipeline (fun _ => some (.link "my.out")) none
    let wrecking := Placing.pipeline (fun input => some (.file input 420)) (some .directory)
    (∀ built left template,
        (Placing.behaviour built left).Discreet none template Placing.case (fun _ => True) ∧
        (Placing.behaviour built left).Keeps none template Placing.case
          (AgreeOff [Placing.case.program])) ∧
      (∀ input,
        AgreeOff (Placing.case.program :: Placing.case.artifacts) (Placing.bare input)
          (Placing.stale input) ∧
        ∀ path ∈ Placing.case.program :: Placing.case.artifacts,
          (Placing.bare input).Spare path ∧ (Placing.stale input).Spare path) ∧
      (linking.verdict Placing.case Placing.first = .ok .compileFailed ∧
        linking.verdict Placing.case Placing.later = .ok .runtimeMismatch) ∧
      (copying.verdict Placing.case { tree := Placing.bare (.link "my.out") } =
          .ok .compileFailed ∧
        copying.verdict Placing.case { tree := Placing.stale (.link "my.out") } =
          .ok .runtimeMismatch) ∧
      wrecking.verdict Placing.case Placing.later = .ok .passed ∧
        wrecking.verdict Placing.case (wrecking.runCase Placing.case Placing.later).2 =
          .ok .compileFailed :=
  ⟨fun _ _ _ => ⟨Placing.placing_discreet _, Placing.placing_confined⟩,
    fun _ => ⟨Placing.bare_stale _, Placing.spare_both _⟩, ⟨rfl, rfl⟩, ⟨rfl, rfl⟩, rfl, rfl⟩

end Acceptance
