import Acceptance.Proofs.Discipline
import Acceptance.Proofs.FirstConfig
import Acceptance.Proofs.SideBySide

namespace Acceptance

open Text (Bytes)

namespace FileTree

-- What a case is tested against: its specification, its input and its expected output.

variable {tree before after : FileTree} {place spot : Place} {path source name last : String}

def contents? (tree : FileTree) (path : String) : Option Bytes := (tree.read path).toOption

theorem Alike.contents (alike : Alike path before after) :
    after.contents? path = before.contents? path := by
  apply Option.ext
  intro bytes
  unfold contents?
  rw [toOption_eq_some, toOption_eq_some, alike.read]

-- The entry that a path names is the end of a source, or a link on the way to it.
def Unlinks (path source : String) (tree : FileTree) : Prop :=
  ∃ place, tree.site? path = some place ∧
    (tree.lead? source = some place ∨
      tree.Passes source place ∧ ∃ target, tree.entry? place = some (.link target))

def Overwrites (spot : Place) (source : String) (tree : FileTree) : Prop :=
  ∃ place, place ∈ tree.twins spot ∧ tree.lead? source = some place

theorem Alike.of_agree (cwd : after.cwd = before.cwd)
    (agree : ∀ spot, before.Passes path spot → after.entry? spot = before.entry? spot) :
    Alike path before after := by
  have same : after.find .target path = before.find .target path := find_agree cwd agree
  exact ⟨fun spot => by rw [locate_eq_ok, locate_eq_ok, same],
    fun spot found => agree spot (passes_of_locate found)⟩

theorem removeStale_alike (removed : tree.removeStale path = .ok after)
    (apart : ¬Unlinks path source tree) : Alike source tree after := by
  rcases removeStale_cases removed with rfl | ⟨place, found, outside, rfl⟩
  · exact .refl source after
  have site : tree.site? path = some place := by rw [site?, found, spot_entry]
  have kept : ∀ spot, spot ≠ place → entry? (tree.erase place) spot = tree.entry? spot := by
    intro spot differ
    simp [entry?_erase, differ]
  by_cases linked : ∃ target, tree.entry? place = some (.link target)
  · -- A link is no leaf: without it, a way that leads over it ends elsewhere.
    refine .of_agree rfl fun spot passes => kept spot ?_
    rintro rfl
    exact apart ⟨spot, site, .inr ⟨passes, linked⟩⟩
  · have leaf := Leaf.of_removable (fun target present => linked ⟨target, present⟩) outside
    refine (SameWays.erase leaf).alike fun spot lead => kept spot ?_
    rintro rfl
    exact apart ⟨spot, site, .inl lead⟩

theorem create_alike (coherent : tree.Coherent) (made : tree.create path = .ok (place, after))
    (apart : ¬Overwrites place source tree) : Alike source tree after := by
  refine (create_leaves coherent made).1.alike fun spot lead => ?_
  by_contra differs
  obtain ⟨⟨other, leads, named⟩, _⟩ := (create_emptied made).only spot differs
  cases (create_leads made).symm.trans leads
  exact apart ⟨spot, named, lead⟩

theorem deliver_ways {sinks : Sinks} (pieces : List (Stream × Bytes)) (coherent : tree.Coherent) :
    SameWays tree (sinks.deliver pieces tree) := by
  induction pieces generalizing sinks tree with
  | nil => exact .refl tree
  | cons piece pieces ih =>
      have ways : SameWays tree (Sinks.step (sinks, tree) piece).2 := by
        rw [Sinks.step_tree]
        cases sinks.channel piece.1 with
        | nothing => exact .refl tree
        | collected => exact .refl tree
        | opened spot => exact coherent.writeAt_ways
      have kept : (Sinks.step (sinks, tree) piece).2.Coherent := by
        rw [Sinks.step_tree]
        exact coherent.write _ _ _
      exact ways.trans (ih kept)

theorem deliver_alike {sinks : Sinks} (pieces : List (Stream × Bytes)) (coherent : tree.Coherent)
    (apart : ∀ stream spot, sinks.channel stream = .opened spot → ¬Overwrites spot source tree) :
    Alike source tree (sinks.deliver pieces tree) :=
  (deliver_ways pieces coherent).alike fun place lead =>
    Sinks.deliver_other fun stream spot opened named =>
      apart stream spot opened ⟨place, named, lead⟩

theorem not_unlinks (ends : EndsIn source name) (ends' : EndsIn path last) (differ : name ≠ last)
    (ordinary : tree.isOrdinary source) (ordinary' : tree.isOrdinary path) :
    ¬Unlinks path source tree := by
  rintro ⟨place, site, lead | ⟨_, target, linked⟩⟩
  · rw [lead_ordinary ends ordinary] at lead
    exact sites_differ ends ends' differ lead site rfl
  · exact straight_of_ordinary ordinary' site target linked

theorem not_overwrites (ends : EndsIn source name) (ends' : EndsIn path last) (differ : name ≠ last)
    (ordinary : tree.isOrdinary source) (ordinary' : before.isOrdinary path)
    (leads : before.lead? path = some spot) : ¬Overwrites spot source tree := by
  rintro ⟨place, named, lead⟩
  rw [lead_ordinary ends ordinary] at lead
  rw [lead_ordinary ends' ordinary'] at leads
  have alone := (isOrdinary_iff.mp ordinary place lead).1
  exact not_mem_twins alone (sites_differ ends ends' differ lead leads) named

end FileTree

namespace Case

def sources (case : Case) : List String := [case.specInput, case.input, case.expected]

def generated (case : Case) : List String := case.program :: case.artifacts

theorem LaidOut.apart {case : Case} {layout : Layout} {source path : String}
    (told : case.LaidOut layout) (member : source ∈ case.sources)
    (member' : path ∈ case.generated) :
    ∃ name last, FileTree.EndsIn source name ∧ FileTree.EndsIn path last ∧ name ≠ last := by
  obtain ⟨plain, label, dir, rfl⟩ := told
  have parts : layout.names = [layout.specInput, layout.input, layout.expected] ++
      [layout.program, layout.actualOutput, layout.actualDiagnostics] := rfl
  obtain ⟨name, named, rfl⟩ : ∃ name ∈ [layout.specInput, layout.input, layout.expected],
      Path.join dir name = source := List.mem_map.mp member
  obtain ⟨last, named', rfl⟩ :
      ∃ last ∈ [layout.program, layout.actualOutput, layout.actualDiagnostics],
        Path.join dir last = path := List.mem_map.mp member'
  have distinct := plain.distinct
  rw [parts, List.nodup_append] at distinct
  exact ⟨name, last, plain.ends dir (by rw [parts]; exact List.mem_append_left _ named),
    plain.ends dir (by rw [parts]; exact List.mem_append_right _ named'),
    distinct.2.2 name named last named'⟩

end Case

namespace Pipeline

-- One deed for a case. What a process does by itself lies between the first two trees, what the
-- runner does between the last two.
structure Operation where
  deed : Event
  before : FileTree
  own : FileTree
  after : FileTree

namespace Operation

inductive Genuine (behaviour : Behaviour) (pipeline : Pipeline) (case : Case) :
    Operation → Prop where
  | removed {tree after : FileTree} (done : tree.removeStale case.program = .ok after) :
      Genuine behaviour pipeline case ⟨.removed case.program, tree, tree, after⟩
  | created {tree after : FileTree} {path : String} {place : Place}
      (artifact : path ∈ case.artifacts) (done : tree.create path = .ok (place, after)) :
      Genuine behaviour pipeline case ⟨.created path, tree, tree, after⟩
  | started {tree own : FileTree} {stage : Stage} {request : Request} {completion : Completion}
      {pieces : List (Stream × Bytes)} {elapsed : Nat}
      (answer : behaviour pipeline.bound tree request.program request.arguments
        (tree.inputOf request.input) = .ended completion pieces own elapsed) :
      Genuine behaviour pipeline case
        ⟨.started stage request, tree, own, (Sinks.ofRequest request).deliver pieces own⟩

def Feeds (operation : Operation) (spot : Place) : Prop :=
  ∃ stage request stream, operation.deed = .started stage request ∧
    (Sinks.ofRequest request).channel stream = .opened spot

def Opens (operation : Operation) (case : Case) (spot : Place) : Prop :=
  ∃ path ∈ case.artifacts, operation.deed = .created path ∧ operation.own.lead? path = some spot

def Hits (operation : Operation) (source : String) : Prop :=
  match operation.deed with
  | .removed path => operation.own.Unlinks path source
  | .created path => ∃ spot, operation.own.lead? path = some spot ∧
      operation.own.Overwrites spot source
  | _ => ∃ spot, operation.Feeds spot ∧ operation.own.Overwrites spot source

-- Each operation begins in the tree that the one before has left.
def Chained (tree : FileTree) : List Operation → FileTree → Prop
  | [], after => after = tree
  | operation :: rest, after => operation.before = tree ∧ Chained operation.after rest after

variable {behaviour : Behaviour} {pipeline : Pipeline} {case : Case} {operation : Operation}
  {tree next after : FileTree} {operations more : List Operation} {source : String}

theorem Genuine.alike (genuine : operation.Genuine behaviour pipeline case)
    (coherent : operation.own.Coherent) (missed : ¬operation.Hits source) :
    FileTree.Alike source operation.own operation.after := by
  cases genuine with
  | removed done => exact FileTree.removeStale_alike done missed
  | created artifact done =>
      exact FileTree.create_alike coherent done fun hit =>
        missed ⟨_, FileTree.create_leads done, hit⟩
  | started answer =>
      exact FileTree.deliver_alike _ coherent fun stream spot opened hit =>
        missed ⟨spot, ⟨_, _, stream, rfl, opened⟩, hit⟩

theorem Chained.append (first : Chained tree operations next) (second : Chained next more after) :
    Chained tree (operations ++ more) after := by
  induction operations generalizing tree with
  | nil =>
      cases first
      exact second
  | cons operation operations ih => exact ⟨first.1, ih first.2⟩

-- From the operations to the run: what no process changes and no operation hits stays.
theorem Chained.contents (chained : Chained tree operations after)
    (genuine : ∀ operation ∈ operations, operation.Genuine behaviour pipeline case)
    (kept : ∀ operation ∈ operations, operation.own.Coherent ∧ ¬operation.Hits source ∧
      operation.own.contents? source = operation.before.contents? source) :
    after.contents? source = tree.contents? source := by
  induction operations generalizing tree with
  | nil =>
      cases chained
      rfl
  | cons operation operations ih =>
      obtain ⟨rfl, rest⟩ := chained
      obtain ⟨coherent, missed, own⟩ := kept operation List.mem_cons_self
      have spared := ((genuine operation List.mem_cons_self).alike coherent missed).contents
      rw [ih rest (fun operation member => genuine operation (List.mem_cons_of_mem _ member))
        fun operation member => kept operation (List.mem_cons_of_mem _ member), spared, own]

end Operation

open Operation (Genuine Chained)

-- All that is done to the tree for a case. A process prints into no files but those that have
-- been opened for the artifacts.
structure Account (behaviour : Behaviour) (pipeline : Pipeline) (case : Case) (tree : FileTree)
    (operations : List Operation) (after : FileTree) : Prop where
  chained : Chained tree operations after
  genuine : ∀ operation ∈ operations, operation.Genuine behaviour pipeline case
  opened : ∀ operation ∈ operations, ∀ spot, operation.Feeds spot →
    ∃ made ∈ operations, made.Opens case spot

variable {behaviour : Behaviour} {pipeline : Pipeline} {case : Case} {operation : Operation}
  {tree next after : FileTree} {operations more : List Operation} {deeds : List Event}

namespace Account

theorem nil : Account behaviour pipeline case tree [] tree where
  chained := rfl
  genuine operation member := by cases member
  opened operation member := by cases member

theorem extend (first : Account behaviour pipeline case tree operations next)
    (chained : Chained next more after)
    (genuine : ∀ operation ∈ more, operation.Genuine behaviour pipeline case)
    (opened : ∀ operation ∈ more, ∀ spot, operation.Feeds spot →
      ∃ made ∈ operations ++ more, made.Opens case spot) :
    Account behaviour pipeline case tree (operations ++ more) after := by
  refine ⟨first.chained.append chained, ?_, ?_⟩
  · intro operation member
    rcases List.mem_append.mp member with early | late
    · exact first.genuine operation early
    · exact genuine operation late
  · intro operation member spot feeds
    rcases List.mem_append.mp member with early | late
    · obtain ⟨made, inside, opens⟩ := first.opened operation early spot feeds
      exact ⟨made, List.mem_append_left _ inside, opens⟩
    · exact opened operation late spot feeds

theorem append (first : Account behaviour pipeline case tree operations next)
    (second : Account behaviour pipeline case next more after) :
    Account behaviour pipeline case tree (operations ++ more) after := by
  refine first.extend second.chained second.genuine fun operation member spot feeds => ?_
  obtain ⟨made, inside, opens⟩ := second.opened operation member spot feeds
  exact ⟨made, List.mem_append_right _ inside, opens⟩

theorem concat {deed : Event} {own : FileTree}
    (account : Account behaviour pipeline case tree operations next)
    (genuine : Genuine behaviour pipeline case ⟨deed, next, own, after⟩)
    (opened : ∀ spot, Operation.Feeds ⟨deed, next, own, after⟩ spot →
      ∃ made ∈ operations, made.Opens case spot) :
    Account behaviour pipeline case tree (operations ++ [⟨deed, next, own, after⟩]) after := by
  refine account.extend ⟨rfl, rfl⟩ ?_ ?_
  · intro operation member
    cases List.mem_singleton.mp member
    exact genuine
  · intro operation member spot feeds
    cases List.mem_singleton.mp member
    obtain ⟨made, inside, opens⟩ := opened spot feeds
    exact ⟨made, List.mem_append_left _ inside, opens⟩

theorem removed (done : tree.removeStale case.program = .ok after) :
    Account behaviour pipeline case tree [⟨.removed case.program, tree, tree, after⟩] after := by
  refine nil.concat (.removed done) fun spot feeds => ?_
  obtain ⟨_, _, _, started, _⟩ := feeds
  cases started

theorem created {path : String} {place : Place}
    (artifact : path ∈ case.artifacts) (done : tree.create path = .ok (place, after)) :
    Account behaviour pipeline case tree [⟨.created path, tree, tree, after⟩] after := by
  refine nil.concat (.created artifact done) fun spot feeds => ?_
  obtain ⟨_, _, _, started, _⟩ := feeds
  cases started

theorem started {stage : Stage} {request : Request} {completion : Completion}
    {collected : List (Stream × Bytes)} {elapsed : Nat}
    (account : Account behaviour pipeline case tree operations next)
    (launched : pipeline.launch = .ofBehaviour behaviour)
    (answer : pipeline.launch pipeline.bound next request =
      .ended completion collected after elapsed)
    (opened : ∀ stream spot, (Sinks.ofRequest request).channel stream = .opened spot →
      ∃ made ∈ operations, made.Opens case spot) :
    ∃ own, Account behaviour pipeline case tree
      (operations ++ [⟨.started stage request, next, own, after⟩]) after := by
  rw [launched] at answer
  obtain ⟨pieces, own, answered, rfl⟩ := Launcher.ofBehaviour_ended.mp ⟨collected, answer⟩
  refine ⟨own, account.concat (.started answered) ?_⟩
  rintro spot ⟨_, _, stream, started, connected⟩
  cases started
  exact opened stream spot connected

end Account

theorem Compiling.account (launched : pipeline.launch = .ofBehaviour behaviour)
    {status : CompileStatus} (compiling : Compiling pipeline case tree deeds status after) :
    ∃ operations, operations.map (·.deed) = deeds ∧
      Account behaviour pipeline case tree operations after := by
  cases compiling with
  | stale => exact ⟨[], rfl, .nil⟩
  | missing removed | refused removed => exact ⟨_, rfl, .removed removed⟩
  | ended removed _ answer =>
      obtain ⟨own, account⟩ := (Account.removed removed).started launched answer
        (by intro stream spot connected; cases stream <;> cases connected)
      exact ⟨_, rfl, account⟩

theorem Executing.account (launched : pipeline.launch = .ofBehaviour behaviour)
    {result : Except Fault Completion}
    (executing : Executing pipeline case tree deeds result after) :
    ∃ operations, operations.map (·.deed) = deeds ∧
      Account behaviour pipeline case tree operations after := by
  have output : case.actualOutput ∈ case.artifacts := List.mem_cons_self
  have diagnostics : case.actualDiagnostics ∈ case.artifacts :=
    List.mem_cons_of_mem _ List.mem_cons_self
  cases executing with
  | noProgram | noOutput => exact ⟨[], rfl, .nil⟩
  | noDiagnostics _ made => exact ⟨_, rfl, .created output made⟩
  | refused _ made madeToo =>
      exact ⟨_, rfl, (Account.created output made).append (.created diagnostics madeToo)⟩
  | ended _ made madeToo answer =>
      have both : Account behaviour pipeline case _ _ _ :=
        (Account.created output made).append (.created diagnostics madeToo)
      have lead := FileTree.create_leads made
      have leadToo := FileTree.create_leads madeToo
      obtain ⟨own, account⟩ := both.started launched answer (by
        intro stream spot connected
        cases stream <;> cases connected
        · exact ⟨_, List.mem_cons_self, _, output, rfl, lead⟩
        · exact ⟨_, List.mem_cons_of_mem _ List.mem_cons_self, _, diagnostics, rfl, leadToo⟩)
      exact ⟨_, rfl, account⟩

theorem Comparing.account (launched : pipeline.launch = .ofBehaviour behaviour)
    {verdict : Except Fault Outcome}
    (comparing : Comparing pipeline case tree deeds verdict after) :
    ∃ operations, operations.map (·.deed) = deeds ∧
      Account behaviour pipeline case tree operations after := by
  cases comparing with
  | builtin | refused => exact ⟨[], rfl, .nil⟩
  | ended _ answer =>
      obtain ⟨own, account⟩ := Account.nil.started launched answer
        (by intro stream spot connected; cases stream <;> cases connected)
      exact ⟨_, rfl, account⟩

theorem Course.account (launched : pipeline.launch = .ofBehaviour behaviour)
    {verdict : Except Fault Outcome}
    (course : Course pipeline case tree deeds verdict after) :
    ∃ operations, operations.map (·.deed) = deeds ∧
      Account behaviour pipeline case tree operations after := by
  cases course with
  | unfinished compiling => exact compiling.account launched
  | faulted compiling executing =>
      obtain ⟨first, rfl, account⟩ := compiling.account launched
      obtain ⟨second, rfl, account'⟩ := executing.account launched
      exact ⟨first ++ second, List.map_append, account.append account'⟩
  | compared compiling executing comparing =>
      obtain ⟨first, rfl, account⟩ := compiling.account launched
      obtain ⟨second, rfl, account'⟩ := executing.account launched
      obtain ⟨third, rfl, account''⟩ := comparing.account launched
      exact ⟨first ++ second ++ third, by simp, (account.append account').append account''⟩

-- Plain files under different names are never hit.
theorem Account.missed {layout : Layout} {source : String}
    (account : Account behaviour pipeline case tree operations after)
    (told : case.LaidOut layout)
    (ordinary : ∀ operation ∈ operations, ∀ path ∈ case.sources ++ case.generated,
      operation.own.isOrdinary path)
    (listed : source ∈ case.sources) (member : operation ∈ operations) :
    ¬operation.Hits source := by
  have plain := ordinary operation member source (List.mem_append_left _ listed)
  -- A place that was opened for an artifact is not the place of a source.
  have apart : ∀ {made spot}, made ∈ operations → made.Opens case spot →
      ¬operation.own.Overwrites spot source := by
    rintro made spot inside ⟨path, artifact, _, leads⟩
    have generated : path ∈ case.generated := List.mem_cons_of_mem _ artifact
    obtain ⟨name, last, ends, ends', differ⟩ := told.apart listed generated
    exact FileTree.not_overwrites ends ends' differ plain
      (ordinary made inside path (List.mem_append_right _ generated)) leads
  cases account.genuine operation member with
  | removed done =>
      have generated : case.program ∈ case.generated := List.mem_cons_self
      obtain ⟨name, last, ends, ends', differ⟩ := told.apart listed generated
      exact FileTree.not_unlinks ends ends' differ plain
        (ordinary _ member _ (List.mem_append_right _ generated))
  | created artifact done =>
      rintro ⟨spot, leads, hit⟩
      exact apart member ⟨_, artifact, rfl, leads⟩ hit
  | started answer =>
      rintro ⟨spot, feeds, hit⟩
      obtain ⟨made, inside, opens⟩ := account.opened _ member spot feeds
      exact apart inside opens hit

structure Spared (behaviour : Behaviour) (pipeline : Pipeline) (case : Case) (session : Session)
    (operations : List Operation) : Prop where
  deeds : (pipeline.runCase case session).2.deeds = session.deeds ++ operations.map (·.deed)
  account : Account behaviour pipeline case session.tree operations
    (pipeline.runCase case session).2.tree
  each : ∀ source ∈ case.sources, ∀ operation ∈ operations,
    operation.own.Coherent → ¬operation.Hits source →
      operation.after.contents? source = operation.own.contents? source
  all : ∀ source ∈ case.sources,
    (∀ operation ∈ operations, operation.own.Coherent ∧ ¬operation.Hits source ∧
      operation.own.contents? source = operation.before.contents? source) →
    (pipeline.runCase case session).2.tree.contents? source = session.tree.contents? source
  -- Names that tell the files apart suffice where a name is all there is to a file.
  plain : ∀ layout, case.LaidOut layout →
    (∀ operation ∈ operations, ∀ path ∈ case.sources ++ case.generated,
      operation.own.isOrdinary path) →
    ∀ source ∈ case.sources, ∀ operation ∈ operations, ¬operation.Hits source

theorem sources_spared_unless_hit (launched : pipeline.launch = .ofBehaviour behaviour)
    (case : Case) (session : Session) :
    ∃ operations, Spared behaviour pipeline case session operations := by
  obtain ⟨deeds, course, done⟩ := runCase_course pipeline case session
  obtain ⟨operations, rfl, account⟩ := course.account launched
  refine ⟨operations, done, account, ?_, ?_, ?_⟩
  · intro source _ operation member coherent missed
    exact ((account.genuine operation member).alike coherent missed).contents
  · intro source _ kept
    exact account.chained.contents account.genuine kept
  · intro layout told ordinary source listed operation member
    exact account.missed told ordinary listed member

end Pipeline

namespace Pipeline

namespace Crossed

def config (layout : Layout) : Config :=
  { compiler := "compile", vm := "machine", diff := "builtin", layout }

def behaviour : Behaviour := fun _ tree _ _ _ =>
  .ended (.exited 0) [] (tree.put ["a.frisc", "add"] (.file [] 420)) 1

def pipeline : Pipeline where
  launch := .ofBehaviour behaviour
  collaborators := ⟨⟨"compile", []⟩, ⟨"machine", []⟩, .builtin⟩

def golden : Bytes := Text.utf8 "42"

def tree : FileTree where
  entries := [(["add"], .directory), (["spec-input", "add"], .file golden 420),
    (["test.in", "add"], .file golden 420), (["test.out", "add"], .file golden 420)]

def linked : FileTree := tree.put ["my.out", "add"] (.link "test.out")

def named : FileTree :=
  { tree.put ["my.out", "add"] (.file golden 420) with
    shared := [[["my.out", "add"], ["test.out", "add"]]] }

def detour : FileTree := tree.put ["build", "add"] (.link ".")

-- A source before and after the case of a directory has been run.
def seen (layout : Layout) (tree : FileTree) (source : Case → String) :
    Option Bytes × Option Bytes :=
  let case := Case.ofDirectory "add" "add" layout
  (tree.contents? (source case),
    (pipeline.runCase case { tree }).2.tree.contents? (source case))

end Crossed

theorem sources_spared_unless_hit_crossed :
    Crossed.pipeline.launch = .ofBehaviour Crossed.behaviour ∧
      ∃ operations, operations.length = 5 ∧
        Spared Crossed.behaviour Crossed.pipeline (.ofDirectory "add" "add" {})
          { tree := Crossed.named } operations := by
  have launched : Crossed.pipeline.launch = .ofBehaviour Crossed.behaviour := rfl
  obtain ⟨operations, spared⟩ := sources_spared_unless_hit launched
    (.ofDirectory "add" "add" {}) { tree := Crossed.named }
  have count := congrArg List.length spared.deeds
  rw [List.length_append, List.length_map] at count
  have five : (Crossed.pipeline.runCase (.ofDirectory "add" "add" {})
    { tree := Crossed.named }).2.deeds.length = 5 := by decide +kernel
  have none : ({ tree := Crossed.named } : Session).deeds.length = 0 := rfl
  exact ⟨launched, operations, by omega, spared⟩

theorem sources_lost_by_name_and_link :
    (∀ layout, Config.ofToml (Crossed.config layout).render = .ok (Crossed.config layout) ∧
      Collaborators.ofConfig {} (Crossed.config layout) = .ok Crossed.pipeline.collaborators) ∧
    (∀ bound before program arguments input completion pieces after elapsed,
      Crossed.behaviour bound before program arguments input =
        .ended completion pieces after elapsed →
      ∀ place, place ≠ ["a.frisc", "add"] → after.entry? place = before.entry? place) ∧
    Crossed.seen { program := "test.out" } Crossed.tree (·.expected) =
      (some Crossed.golden, none) ∧
    Crossed.seen { actualOutput := "./test.in" } Crossed.tree (·.input) =
      (some Crossed.golden, some []) ∧
    Crossed.seen { actualDiagnostics := "../add/spec-input" } Crossed.tree (·.specInput) =
      (some Crossed.golden, some []) ∧
    Crossed.seen {} Crossed.linked (·.expected) = (some Crossed.golden, some []) ∧
    Crossed.seen {} Crossed.named (·.expected) = (some Crossed.golden, some []) ∧
    Crossed.seen { program := "build", expected := "build/test.out" } Crossed.detour
      (·.expected) = (some Crossed.golden, none) := by
  refine ⟨fun layout => ⟨?_, ?_⟩, ?_, by decide +kernel⟩
  · refine Config.ofToml_written (by rintro _ ⟨⟩) ?_
    rw [Config.render_unmarked, (Config.render_lines _).skipTrivia]
  · have compiler : Command.Template.parse? {} "compile" = some ⟨"compile", []⟩ := by
      decide +kernel
    have machine : Command.Template.parse? {} "machine" = some ⟨"machine", []⟩ := by
      decide +kernel
    have builtin : (Crossed.config layout).usesBuiltin = true := by
      show ({ diff := "builtin" } : Config).usesBuiltin = true
      decide +kernel
    rw [Collaborators.ofConfig, builtin]
    simp only [Collaborators.template, Crossed.config, compiler, machine]
    rfl
  · intro bound before program arguments input completion pieces after elapsed answer place apart
    cases answer
    simp [FileTree.entry?_put, apart]

end Pipeline
end Acceptance
