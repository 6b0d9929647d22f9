import Acceptance.Proofs.Isolation
import Acceptance.Proofs.Laps
import Acceptance.Proofs.Tally

namespace Acceptance

open Text (Bytes)
open FileTree (AgreeOn Below Closed)

-- The order of the cases. Cases that keep to their directories do not see each other: whatever
-- the order, each of them does what it would do alone, and in the end every directory is as its
-- own case has left it.

def FileTree.Same (left right : FileTree) : Prop := AgreeOn (fun _ => True) left right

namespace Run

def ownSide (cases : List Case) (home : Case → Place) (case : Case) (place : Place) : Prop :=
  ∀ other ∈ cases, other ≠ case → ¬Below (home other) place

-- Cases in directories of their own, none of which lies in another. The files of each case are
-- fenced in, and so are its collaborators.
structure Isolated (pipeline : Pipeline) (behaviour : Behaviour) (cases : List Case)
    (home : Case → Place) (tree : FileTree) : Prop where
  once : cases.Nodup
  found : ∀ case ∈ cases, tree.locate case.dir = .ok (home case)
  unnested : ∀ one ∈ cases, ∀ other ∈ cases, one ≠ other → ¬home one <:+ home other
  fenced : ∀ case ∈ cases, case.Fenced (home case) (ownSide cases home case) tree
  collaborators : ∀ case ∈ cases,
    pipeline.Local behaviour case (home case) (ownSide cases home case)

section

variable {pipeline : Pipeline} {behaviour : Behaviour} {cases cases' rest done : List Case}
  {home : Case → Place} {session running : Session} {case other : Case} {place spot : Place}
  {tree tree' after : FileTree} {deeds : List Event}

theorem ownSide_within (unnested : ∀ one ∈ cases, ∀ other ∈ cases, one ≠ other →
    ¬home one <:+ home other) (member : case ∈ cases) (within : home case <:+ place) :
    ownSide cases home case place := by
  intro other member' differ below
  rcases List.suffix_or_suffix_of_suffix within below.1 with nested | nested
  · exact unnested case member other member' differ.symm nested
  · exact unnested other member' case member differ nested

-- The tree in which a case has been run alone, or not at all.
def settled (pipeline : Pipeline) (session : Session) (done : List Case) (case : Case) : FileTree :=
  if case ∈ done then (pipeline.runCase case session).2.tree else session.tree

-- After some of the cases, each directory is as its own case alone has left it, and everything
-- else is as it was.
structure Joined (pipeline : Pipeline) (cases : List Case) (home : Case → Place)
    (session : Session) (done : List Case) (tree : FileTree) : Prop where
  fenced : ∀ case ∈ cases, case.Fenced (home case) (ownSide cases home case) tree
  settled : ∀ case ∈ cases,
    AgreeOn (ownSide cases home case) (settled pipeline session done case) tree
  ground : AgreeOn (fun place => ∀ case ∈ cases, ¬Below (home case) place) session.tree tree

theorem Joined.start (isolated : Isolated pipeline behaviour cases home session.tree) :
    Joined pipeline cases home session [] session.tree :=
  ⟨isolated.fenced, fun _ _ => .refl _, .refl _⟩

theorem Isolated.closed (isolated : Isolated pipeline behaviour cases home session.tree)
    (member : case ∈ cases) (member' : other ∈ cases) (differ : other ≠ case)
    (stays : AgreeOn (fun place => ¬Below (home case) place) tree after)
    (closed : Closed (home case) after) (closed' : Closed (home other) tree) :
    Closed (home other) after := by
  intro place spot together below
  have outside : ¬Below (home case) place :=
    ownSide_within isolated.unnested member' below.1 case member differ.symm
  have outside' : ¬Below (home case) spot := fun inside =>
    outside (closed spot place together.symm inside)
  exact closed' place spot ((stays.together place spot outside outside').mp together) below

theorem Joined.step {verdict : Except Fault Outcome}
    (isolated : Isolated pipeline behaviour cases home session.tree)
    (joined : Joined pipeline cases home session done tree) (member : case ∈ cases)
    (fresh : case ∉ done) (course : Pipeline.Course pipeline case tree deeds verdict after) :
    verdict = pipeline.verdict case session ∧
      Joined pipeline cases home session (case :: done) after := by
  have own := isolated.collaborators case member
  have untouched := joined.settled case member
  rw [Run.settled, if_neg fresh] at untouched
  obtain ⟨_, alone, _⟩ := Pipeline.runCase_course pipeline case session
  obtain ⟨_, _, course', near⟩ :=
    alone.alike own (isolated.fenced case member) (joined.fenced case member) untouched
  obtain ⟨_, ended, rfl⟩ := course.unique course'
  obtain ⟨stays, fenced⟩ := course.stays own (joined.fenced case member)
  -- What another case sees lies outside of the directory.
  have apart : ∀ {other}, other ≠ case →
      AgreeOn (ownSide cases home other) tree after := fun differ =>
    stays.mono fun place side => side case member differ.symm
  refine ⟨ended, fun other member' => ?_, fun other member' => ?_,
    joined.ground.trans (stays.mono fun place outside => outside case member)⟩
  · by_cases same : other = case
    · rwa [same]
    · exact (joined.fenced other member').agree (apart same)
        (ownSide_within isolated.unnested member' (List.suffix_refl _)) fenced.coherent
        (isolated.closed member member' same stays fenced.closed
          (joined.fenced other member').closed)
  · by_cases same : other = case
    · subst same
      rwa [Run.settled, if_pos List.mem_cons_self]
    · have before := joined.settled other member'
      rw [Run.settled] at before ⊢
      simp only [List.mem_cons, same, false_or]
      exact before.trans (apart same)

attribute [local irreducible] Pipeline.runCase

-- Each case in turn gets the outcome that it would get alone, up to the first fault.
theorem runCases_joined (isolated : Isolated pipeline behaviour cases home session.tree)
    (joined : Joined pipeline cases home session done running.tree)
    (inside : ∀ case ∈ rest, case ∈ cases) (fresh : ∀ case ∈ rest, case ∉ done)
    (once : rest.Nodup) (summary : Summary) :
    (∃ records : List Record, (runCases pipeline rest summary running).1 =
          .ok (records.foldl Summary.add summary) ∧
        records.map (fun record => (record.name, Except.ok record.outcome)) =
          rest.map (fun case => (case.name, pipeline.verdict case session)) ∧
        Joined pipeline cases home session (rest.reverse ++ done)
          (runCases pipeline rest summary running).2.tree) ∨
      ∃ failure, (runCases pipeline rest summary running).1 = .error failure ∧
        ∃ case ∈ rest, ∃ fault, pipeline.verdict case session = .error fault := by
  induction rest generalizing done summary running with
  | nil => exact .inl ⟨[], rfl, rfl, joined⟩
  | cons case rest ih =>
      obtain ⟨unlisted, once⟩ := List.nodup_cons.mp once
      obtain ⟨verdict, next⟩ := joined.step isolated (inside case List.mem_cons_self)
        (fresh case List.mem_cons_self) (Lap.of_course pipeline case running).1
      have fresh' : ∀ other ∈ rest, other ∉ case :: done := by
        intro other member listed
        rcases List.mem_cons.mp listed with rfl | listed
        · exact unlisted member
        · exact fresh other (List.mem_cons_of_mem _ member) listed
      rw [runCases_cons]
      cases result : (Lap.of pipeline case running).result with
      | error fault =>
          rw [result] at verdict
          exact .inr ⟨_, rfl, case, List.mem_cons_self, fault, verdict.symm⟩
      | ok record =>
          rw [result] at verdict
          have name : record.name = case.name := runCase_name result
          have onwards : Joined pipeline cases home session (case :: done)
            ((Lap.of pipeline case running).onwards pipeline record).tree := next
          rcases ih onwards (fun other member => inside other (List.mem_cons_of_mem _ member))
            fresh' once (summary.add record) with
            ⟨records, ended, told, last⟩ | ⟨failure, ended, other, member, broken⟩
          · refine .inl ⟨record :: records, ended, ?_, ?_⟩
            · rw [List.map_cons, List.map_cons, told, name, ← verdict]
              rfl
            · rwa [List.reverse_cons, List.append_assoc]
          · exact .inr ⟨failure, ended, other, List.mem_cons_of_mem _ member, broken⟩

theorem runCases_next {outcome : Outcome} (rest : List Case) (summary : Summary)
    (same : running.tree = session.tree) (ended : pipeline.verdict case session = .ok outcome) :
    ∃ record next, record.told = (case.name, outcome) ∧
      next.tree = (pipeline.runCase case session).2.tree ∧
      runCases pipeline (case :: rest) summary running =
        runCases pipeline rest (summary.add record) next := by
  obtain ⟨_, alone, _⟩ := Pipeline.runCase_course pipeline case session
  have course := (Lap.of_course pipeline case running).1
  rw [same] at course
  obtain ⟨_, verdict, left⟩ := course.unique alone
  rw [runCases_cons]
  cases result : (Lap.of pipeline case running).result with
  | error fault =>
      rw [result] at verdict
      cases verdict.trans ended
  | ok record =>
      rw [result] at verdict
      have reached : record.outcome = outcome := Except.ok.inj (verdict.trans ended)
      refine ⟨record, (Lap.of pipeline case running).onwards pipeline record, ?_, left, rfl⟩
      rw [Record.told, reached, runCase_name result]

def outcomes (pipeline : Pipeline) (cases : List Case) (tree : FileTree) :
    Option (List (String × Outcome)) :=
  (runCases pipeline cases (.empty cases.length) { tree }).1.toOption.map (·.records.map (·.told))

theorem outcomes_pair {outcome outcome' : Outcome}
    (ended : pipeline.verdict case { tree } = .ok outcome)
    (left : (pipeline.runCase case { tree }).2.tree = after)
    (ended' : pipeline.verdict other { tree := after } = .ok outcome') :
    outcomes pipeline [case, other] tree = some [(case.name, outcome), (other.name, outcome')] := by
  obtain ⟨record, next, told, reached, run⟩ :=
    runCases_next [other] (.empty [case, other].length) rfl ended
  have found : next.tree = ({ tree := after } : Session).tree := reached.trans left
  obtain ⟨record', next', told', _, run'⟩ :=
    runCases_next [] ((Summary.empty [case, other].length).add record) found ended'
  have records : (((Summary.empty [case, other].length).add record).add record').records =
      [record, record'] :=
    congrArg Summary.records (Summary.foldl_add _ [] [record, record'])
  rw [outcomes, run, run']
  refine congrArg some (?_ : List.map _ (Summary.records _) = _)
  rw [records, List.map_cons, List.map_cons, told, told', List.map_nil]

-- The names of a file are all in one directory of a case, or all outside of these directories.
theorem together_of_sides
    (unnested : ∀ one ∈ cases, ∀ other ∈ cases, one ≠ other → ¬home one <:+ home other)
    (sides : ∀ case ∈ cases, AgreeOn (ownSide cases home case) tree tree')
    (ground : AgreeOn (fun place => ∀ case ∈ cases, ¬Below (home case) place) tree tree')
    (closed : ∀ case ∈ cases, Closed (home case) tree') (together : tree'.Together place spot) :
    tree.Together place spot := by
  by_cases inside : ∃ case ∈ cases, Below (home case) place
  · obtain ⟨case, member, below⟩ := inside
    have below' := closed case member place spot together below
    exact ((sides case member).together place spot (ownSide_within unnested member below.1)
      (ownSide_within unnested member below'.1)).mp together
  · have outside : ∀ case ∈ cases, ¬Below (home case) place := fun case member below =>
      inside ⟨case, member, below⟩
    refine (ground.together place spot outside fun case member below => ?_).mp together
    exact outside case member (closed case member spot place together.symm below)

-- When all cases have been run, nothing tells in which order that was.
theorem Joined.same {done' : List Case}
    (isolated : Isolated pipeline behaviour cases home session.tree)
    (joined : Joined pipeline cases home session done tree)
    (joined' : Joined pipeline cases home session done' tree')
    (all : ∀ case ∈ cases, case ∈ done) (all' : ∀ case ∈ cases, case ∈ done') :
    tree.Same tree' := by
  have sides : ∀ case ∈ cases, AgreeOn (ownSide cases home case) tree tree' := by
    intro case member
    have one := joined.settled case member
    have two := joined'.settled case member
    rw [Run.settled, if_pos (all case member)] at one
    rw [Run.settled, if_pos (all' case member)] at two
    exact one.symm.trans two
  have ground := joined.ground.symm.trans joined'.ground
  refine ⟨ground.cwd, fun place _ => ?_, fun place spot _ _ => ⟨fun together => ?_,
    fun together => ?_⟩⟩
  · by_cases inside : ∃ case ∈ cases, Below (home case) place
    · obtain ⟨case, member, below⟩ := inside
      exact (sides case member).entry place (ownSide_within isolated.unnested member below.1)
    · exact ground.entry place fun case member below => inside ⟨case, member, below⟩
  · exact together_of_sides isolated.unnested sides ground
      (fun case member => (joined'.fenced case member).closed) together
  · exact together_of_sides isolated.unnested (fun case member => (sides case member).symm)
      ground.symm (fun case member => (joined.fenced case member).closed) together

def AsAlone (pipeline : Pipeline) (session : Session) (cases : List Case) (records : List Record) :
    Prop :=
  records.map (fun record => (record.name, Except.ok record.outcome)) =
    cases.map (fun case => (case.name, pipeline.verdict case session))

theorem AsAlone.finished {records : List Record} (told : AsAlone pipeline session cases records)
    (member : case ∈ cases) (fault : Fault) : pipeline.verdict case session ≠ .error fault := by
  intro failed
  have listed : (case.name, pipeline.verdict case session) ∈
      records.map (fun record => (record.name, Except.ok record.outcome)) := by
    rw [told]
    exact List.mem_map_of_mem member
  obtain ⟨record, _, same⟩ := List.mem_map.mp listed
  rw [failed] at same
  cases (Prod.mk.inj same).2

theorem AsAlone.permuted {records records' : List Record}
    (told : AsAlone pipeline session cases records)
    (told' : AsAlone pipeline session cases' records') (permuted : cases'.Perm cases) :
    (records'.map (·.told)).Perm (records.map (·.told)) := by
  have pairs : ∀ records : List Record, records.map (·.told) =
      (records.map fun record => (record.name, (Except.ok record.outcome : Except Fault _))).map
        fun pair => (pair.1, pair.2.toOption.getD .passed) := by
    intro records
    rw [List.map_map]
    rfl
  rw [pairs, pairs, told, told']
  exact (permuted.map _).map _

theorem Isolated.finishes (isolated : Isolated pipeline behaviour cases home session.tree)
    (fine : ∀ case ∈ cases, ∃ outcome, pipeline.verdict case session = .ok outcome) :
    ∃ summary, (runCases pipeline cases (.empty cases.length) session).1 = .ok summary := by
  rcases runCases_joined isolated (.start isolated) (fun _ => id) (by simp) isolated.once
    (.empty cases.length) with ⟨records, ended, _⟩ | ⟨_, _, case, member, fault, failed⟩
  · exact ⟨_, ended⟩
  · obtain ⟨outcome, ended⟩ := fine case member
    cases failed.symm.trans ended

theorem same_results_in_any_order (isolated : Isolated pipeline behaviour cases home session.tree)
    (permuted : cases'.Perm cases) :
    let one := runCases pipeline cases (.empty cases.length) session
    let other := runCases pipeline cases' (.empty cases'.length) session
    other.1.isOk = one.1.isOk ∧
      ∀ summary summary', one.1 = .ok summary → other.1 = .ok summary' →
        AsAlone pipeline session cases summary.records ∧
          AsAlone pipeline session cases' summary'.records ∧
          summary.Reordered summary' ∧ one.2.tree.Same other.2.tree := by
  intro one other
  have members : ∀ case, case ∈ cases' ↔ case ∈ cases := fun case => permuted.mem_iff
  have run := runCases_joined isolated (.start isolated) (fun _ => id) (by simp) isolated.once
    (.empty cases.length)
  have run' := runCases_joined isolated (.start isolated) (fun case => (members case).mp) (by simp)
    (permuted.nodup_iff.mpr isolated.once) (.empty cases'.length)
  rcases run with ⟨records, ended, told, joined⟩ | ⟨failure, ended, case, member, fault, failed⟩ <;>
    rcases run' with
      ⟨records', ended', told', joined'⟩ | ⟨failure', ended', case', member', fault', failed'⟩
  · have sum : ∀ total records, (records.foldl Summary.add (.empty total)) =
        Summary.ofRecords total records := fun total records => Summary.foldl_add total [] records
    rw [sum] at ended ended'
    refine ⟨by rw [ended, ended']; rfl, fun summary summary' found found' => ?_⟩
    cases ended.symm.trans found
    cases ended'.symm.trans found'
    have reordered : (Summary.ofRecords cases.length records).Reordered
        (Summary.ofRecords cases'.length records') := by
      rw [permuted.length_eq]
      exact .of_records (AsAlone.permuted told told' permuted)
    have all : ∀ case ∈ cases, case ∈ cases.reverse ++ [] := fun case member => by
      simpa using member
    have all' : ∀ case ∈ cases, case ∈ cases'.reverse ++ [] := fun case member => by
      simpa [members] using member
    exact ⟨told, told', reordered, joined.same isolated joined' all all'⟩
  · exact (AsAlone.finished told ((members case').mp member') fault' failed').elim
  · exact (AsAlone.finished told' ((members case).mpr member) fault failed).elim
  · refine ⟨by rw [ended, ended']; rfl, fun summary _ found _ => ?_⟩
    cases ended.symm.trans found

end

namespace Neighbours

def tool : Behaviour := fun _ tree program arguments input =>
  if program = "compiler" then
    match tree.write (arguments.headD "") input with
    | .ok after => .ended (.exited 0) [] after 5
    | .error _ => .ended (.exited 1) [] tree 5
  else .ended (.exited 0) [(.output, input)] tree 5

def pipeline : Pipeline where
  launch := .ofBehaviour tool
  collaborators := ⟨⟨"compiler", ["\x7bprogram\x7d"]⟩, ⟨"machine", []⟩, .builtin⟩

def one : Case := .ofDirectory "one" "/t/one" {}
def two : Case := .ofDirectory "two" "/t/two" {}

def home (case : Case) : Place := [case.name, "t"]

variable {case : Case} {layout : Layout} {input : Bytes} {region : Place → Prop} {spot : Place}
  {tree after : FileTree}

theorem answer_written
    (filled : pipeline.collaborators.compiler.fill (Bindings.ofCase case) = [case.program])
    (written : tree.write case.program input = .ok after) :
    tool.answer none pipeline.collaborators.compiler case input tree =
      .ended (.exited 0) [] after 5 := by
  unfold Behaviour.answer
  rw [filled]
  simp [tool, pipeline, written]

theorem answer_failed {cause : IoError}
    (filled : pipeline.collaborators.compiler.fill (Bindings.ofCase case) = [case.program])
    (failed : tree.write case.program input = .error cause) :
    tool.answer none pipeline.collaborators.compiler case input tree =
      .ended (.exited 1) [] tree 5 := by
  unfold Behaviour.answer
  rw [filled]
  simp [tool, pipeline, failed]

-- Both tools keep to the directory of any case whose files have plain names.
theorem tool_local (told : case.LaidOut layout)
    (filled : pipeline.collaborators.compiler.fill (Bindings.ofCase case) = [case.program]) :
    pipeline.Local tool case spot region where
  launched := rfl
  compiler := by
    refine ⟨fun before input completion pieces after elapsed answer cleared => ?_,
      fun left right input ready ready' agree => ?_⟩
    · have fenced := cleared.fenced
      cases written : before.write case.program input with
      | error cause =>
          cases (answer_failed filled written).symm.trans answer
          exact ⟨.refl before, fenced⟩
      | ok made =>
          cases (answer_written filled written).symm.trans answer
          have trims := FileTree.Trims.of_overwrite fenced.coherent fenced.closed fenced.directory
            (fun place => cleared.lead told) written
          exact ⟨trims.agree, fenced.trims trims⟩
    · have matched : FileTree.Matched (AgreeOn region) (left.write case.program input)
          (right.write case.program input) :=
        agree.overwrite ready.fenced.coherent ready'.fenced.coherent
          (ready.fenced.ways case.program (by simp [Case.paths]))
      have same : pipeline.bound = none := rfl
      cases written : left.write case.program input with
      | error cause =>
          rw [written] at matched
          rw [same, answer_failed filled written, answer_failed filled matched.of_failed]
          exact .ended agree
      | ok made =>
          rw [written] at matched
          obtain ⟨made', written', near⟩ := matched.of_done
          rw [same, answer_written filled written, answer_written filled written']
          exact .ended near
  machine := by
    refine ⟨fun before input completion pieces after elapsed answer fenced => ?_,
      fun left right input _ _ agree => ?_⟩
    · cases answer
      exact ⟨.refl before, fenced⟩
    · exact .ended agree
  comparator diff external := by cases external

theorem told {label : String} (dir : String) : (Case.ofDirectory label dir {}).LaidOut {} :=
  ⟨by decide, label, dir, rfl⟩

theorem either (member : case ∈ [one, two]) : case = one ∨ case = two := by
  simpa using member

theorem both_local (member : case ∈ [one, two]) : pipeline.Local tool case spot region := by
  rcases either member with rfl | rfl
  · exact tool_local (told "/t/one") (by decide)
  · exact tool_local (told "/t/two") (by decide)

theorem unnested : ∀ case ∈ [one, two], ∀ other ∈ [one, two], case ≠ other →
    ¬home case <:+ home other := by decide

-- The output of the first case and the input of the second are links to one file beside them.
def crossed (text : String) : FileTree where
  entries := [(["t"], .directory), (["shared.txt", "t"], .file (Text.utf8 text) 420),
    (["one", "t"], .directory), (["test.in", "one", "t"], .file (Text.utf8 "42") 420),
    (["test.out", "one", "t"], .file (Text.utf8 "42") 420),
    (["my.out", "one", "t"], .link "../shared.txt"),
    (["two", "t"], .directory), (["test.in", "two", "t"], .link "../shared.txt"),
    (["test.out", "two", "t"], .file (Text.utf8 "42") 420)]

-- The tree after one of the two: the first case puts its output into the shared file.
def afterOne : FileTree :=
  { crossed "42" with
    entries := (["my.err", "one", "t"], .file [] 420) ::
      (["a.frisc", "one", "t"], .file (Text.utf8 "42") 420) :: (crossed "42").entries }

def afterTwo : FileTree :=
  { crossed "old" with
    entries := (["my.err", "two", "t"], .file [] 420) ::
      (["my.out", "two", "t"], .file (Text.utf8 "old") 420) ::
      (["a.frisc", "two", "t"], .file (Text.utf8 "old") 420) :: (crossed "old").entries }

-- Directories that do not lie in each other are not enough: a link can lead out of both.
theorem order_matters_through_shared_file :
    (∀ case ∈ [one, two], (crossed "old").locate case.dir = .ok (home case) ∧
        pipeline.Local tool case (home case) (ownSide [one, two] home case)) ∧
      (∀ case ∈ [one, two], ∀ other ∈ [one, two], case ≠ other → ¬home case <:+ home other) ∧
      (crossed "old").lead? one.actualOutput = some ["shared.txt", "t"] ∧
      (crossed "old").lead? two.input = some ["shared.txt", "t"] ∧
      outcomes pipeline [one, two] (crossed "old") = some [("one", .passed), ("two", .passed)] ∧
      outcomes pipeline [two, one] (crossed "old") =
        some [("two", .runtimeMismatch), ("one", .passed)] := by
  have first : (pipeline.runCase one { tree := crossed "old" }).2.tree = afterOne := by rfl
  have second : (pipeline.runCase two { tree := crossed "old" }).2.tree = afterTwo := by rfl
  refine ⟨fun case member => ⟨?_, both_local member⟩, unnested, by rfl, by rfl,
    outcomes_pair (by rfl) first (by rfl), outcomes_pair (by rfl) second (by rfl)⟩
  rcases either member with rfl | rfl <;> rfl

-- The output of the first case has a second name in its directory.
def paired : FileTree where
  entries := [(["t"], .directory),
    (["one", "t"], .directory), (["test.in", "one", "t"], .file (Text.utf8 "42") 420),
    (["test.out", "one", "t"], .file (Text.utf8 "42") 420),
    (["a.frisc", "one", "t"], .file (Text.utf8 "stale") 420),
    (["my.out", "one", "t"], .file (Text.utf8 "old") 420),
    (["copy", "one", "t"], .file (Text.utf8 "old") 420),
    (["two", "t"], .directory), (["test.in", "two", "t"], .file (Text.utf8 "7") 420),
    (["test.out", "two", "t"], .file (Text.utf8 "8") 420)]
  shared := [[["my.out", "one", "t"], ["copy", "one", "t"]]]

theorem paired_together {place other : Place} (together : paired.Together place other) :
    (place = ["my.out", "one", "t"] ∧ other = ["copy", "one", "t"]) ∨
      (place = ["copy", "one", "t"] ∧ other = ["my.out", "one", "t"]) := by
  obtain ⟨differ, group, member, inside, inside'⟩ := together
  cases List.mem_singleton.mp member
  simp only [List.mem_cons, List.not_mem_nil, or_false] at inside inside'
  rcases inside with rfl | rfl <;> rcases inside' with rfl | rfl <;> simp_all

theorem paired_coherent : paired.Coherent where
  disjoint first member group member' place _ _ :=
    (List.mem_singleton.mp member).trans (List.mem_singleton.mp member').symm
  files place other together := by
    rcases paired_together together with ⟨rfl, rfl⟩ | ⟨rfl, rfl⟩ <;> exact ⟨_, _, rfl, rfl⟩

theorem paired_closed (case : Case) : Closed (home case) paired := by
  intro place other together below
  rcases paired_together together with ⟨rfl, rfl⟩ | ⟨rfl, rfl⟩ <;>
    simp_all [home, Below, List.suffix_cons_iff]

theorem paired_unlinked (place : Place) : paired.NotLink place := by
  intro target present
  rw [FileTree.entry?] at present
  split at present
  · cases present
  · obtain ⟨_, _, split, _⟩ := List.lookup_eq_some_iff.mp present
    have listed : (place, Entry.link target) ∈ paired.entries := by simp [split]
    simp [paired] at listed

theorem paired_ways {case : Case} {place : Place} (member : case ∈ [one, two])
    (passes : paired.Passes case.dir place) : ownSide [one, two] home case place := by
  have seen : place ∈ [[], ["t"], home case] := by
    rcases either member with rfl | rfl
    · exact passes.of_arrived rfl
    · exact passes.of_arrived rfl
  have far : place.length < 2 → ownSide [one, two] home case place := by
    intro short other _ _ below
    exact absurd below.1.length_le (by simpa [home] using short)
  simp only [List.mem_cons, List.not_mem_nil, or_false] at seen
  rcases seen with rfl | rfl | rfl
  · exact far (by simp)
  · exact far (by simp)
  · exact ownSide_within unnested member (List.suffix_refl _)

theorem paired_isolated : Isolated pipeline tool [one, two] home paired := by
  refine ⟨by decide, fun case member => ?_, unnested, fun case member => ?_,
    fun case => both_local⟩
  · rcases either member with rfl | rfl <;> rfl
  · have ways : ∀ place, paired.Passes case.dir place → ownSide [one, two] home case place :=
      fun place => paired_ways member
    have own : ∀ place, home case <:+ place → ownSide [one, two] home case place :=
      fun place => ownSide_within unnested member
    rcases either member with rfl | rfl
    · exact .of_unlinked paired_coherent (paired_closed one) rfl rfl (by decide) (by decide)
        (fun place _ => paired_unlinked place) ways own
    · exact .of_unlinked paired_coherent (paired_closed two) rfl rfl (by decide) (by decide)
        (fun place _ => paired_unlinked place) ways own

theorem paired_verdicts : pipeline.verdict one { tree := paired } = .ok .passed ∧
    pipeline.verdict two { tree := paired } = .ok .runtimeMismatch := ⟨by rfl, by rfl⟩

attribute [local irreducible] Pipeline.runCase

theorem neighbours_in_any_order : Isolated pipeline tool [one, two] home paired ∧
    pipeline.verdict one { tree := paired } = .ok .passed ∧
    pipeline.verdict two { tree := paired } = .ok .runtimeMismatch ∧
    ∃ summary summary',
      (runCases pipeline [one, two] (.empty 2) { tree := paired }).1 = .ok summary ∧
      (runCases pipeline [two, one] (.empty 2) { tree := paired }).1 = .ok summary' ∧
      AsAlone pipeline { tree := paired } [one, two] summary.records ∧
      AsAlone pipeline { tree := paired } [two, one] summary'.records ∧
      summary.Reordered summary' ∧
      (runCases pipeline [one, two] (.empty 2) { tree := paired }).2.tree.Same
        (runCases pipeline [two, one] (.empty 2) { tree := paired }).2.tree := by
  have fine : ∀ case ∈ [one, two], ∃ outcome,
      pipeline.verdict case { tree := paired } = .ok outcome := by
    intro case member
    rcases either member with rfl | rfl
    · exact ⟨_, paired_verdicts.1⟩
    · exact ⟨_, paired_verdicts.2⟩
  have isolated : Isolated pipeline tool [one, two] home ({ tree := paired } : Session).tree :=
    paired_isolated
  obtain ⟨summary, ended⟩ := isolated.finishes fine
  obtain ⟨both, results⟩ := same_results_in_any_order isolated (List.Perm.swap one two [])
  rw [ended] at both
  cases ended' : (runCases pipeline [two, one] (.empty [two, one].length) { tree := paired }).1 with
  | error failure =>
      rw [ended'] at both
      cases both
  | ok summary' =>
      exact ⟨paired_isolated, paired_verdicts.1, paired_verdicts.2, summary, summary', ended, rfl,
        results summary summary' ended ended'⟩

end Neighbours
end Run
end Acceptance
