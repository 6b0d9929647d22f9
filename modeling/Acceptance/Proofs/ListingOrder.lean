import Acceptance.Proofs.Listings
import Acceptance.Proofs.Told

namespace Acceptance

open FileTree (Relisted)

-- The listing order of the tests root. Two runs in trees that differ in nothing but that order go
-- the same way step by step, as long as the cases are sorted and the collaborators behave the
-- same.

-- Programs that cannot tell the order of one listing, or do not care.
def Launcher.Alike (root : Place) (one other : Launcher) : Prop :=
  ∀ bound left right request, Relisted root left right →
    Replies (Relisted root) (one bound left request) (other bound right request)

structure Session.Alongside (root : Place) (left right : Session) : Prop where
  tree : Relisted root left.tree right.tree
  events : right.events = left.events

variable {root : Place} {left right : Session}

namespace Session.Alongside

theorem emit (beside : left.Alongside root right) (event : Event) :
    (left.emit event).Alongside root (right.emit event) :=
  ⟨beside.tree, congrArg (· ++ [event]) beside.events⟩

theorem say (beside : left.Alongside root right) (block : String) :
    (left.say block).Alongside root (right.say block) := beside.emit _

theorem sayAll (beside : left.Alongside root right) (blocks : List String) :
    (left.sayAll blocks).Alongside root (right.sayAll blocks) := by
  induction blocks generalizing left right with
  | nil => exact beside
  | cons block blocks ih => exact ih (beside.say block)

-- Until the reports are written, the order of the listing is the only difference.
theorem retold (beside : left.Alongside root right) (one other : Summary) :
    Session.Retold one other left right where
  tree := ⟨beside.tree.cwd, beside.tree.shared, fun place => .inl (beside.tree.entry place)⟩
  events := by
    rw [beside.events]
    exact List.forall₂_same.mpr fun event _ => .same event

end Session.Alongside

-- The order of the listing is not to be seen from what is said.
def listing (root : Place) : Comparison where
  near := Relisted root
  louder := True
  verbatim := True
  louder_of_verbatim := id

theorem FileTree.Relisted.interchangeable : FileTree.Interchangeable (Relisted root) where
  locate near := near.locate
  isFile near := near.isFile
  sameContent near := near.sameContent
  removeStale near := near.removeStale
  create near := near.create

theorem Session.Alongside.told (beside : left.Alongside root right) :
    left.Told (listing root) right where
  tree := beside.tree
  deeds := by rw [Session.deeds, Session.deeds, beside.events]
  blocks _ := by rw [Session.blocks, Session.blocks, beside.events]
  events _ := beside.events

theorem Session.Told.alongside (told : left.Told (listing root) right) :
    left.Alongside root right := ⟨told.tree, told.events trivial⟩

namespace Run

variable {launch : Launcher}

variable {host : Host} {options : RunOptions} {config : Config} {shown : Presentation}

theorem announce_alongside (shown : Presentation) (config : Config)
    (beside : left.Alongside root right) (selection : Selection) :
    (announce shown config selection left).Alongside root
      (announce shown config selection right) := by
  have place : right.tree.displayPath config.testsDir = left.tree.displayPath config.testsDir := by
    rw [FileTree.displayPath, FileTree.displayPath, beside.tree.canonical]
  unfold announce
  rw [place]
  exact (beside.sayAll _).say _

-- Both runs end with the same error and the same events, or with the same results; the events
-- then differ at most in the times that a report on a standard stream gives.
inductive SameEnd : Except Stopped Summary × Session → Except Stopped Summary × Session → Prop where
  | stopped {stopped : Stopped} {left right : Session} (events : right.events = left.events) :
      SameEnd (.error stopped, left) (.error stopped, right)
  | finished {one other : Summary} {left right : Session} (retold : one.Retold other)
      (events : List.Forall₂ (Event.Retold one other) left.events right.events) :
      SameEnd (.ok one, left) (.ok other, right)

theorem deeds_retold {one other : Summary} {events events' : List Event}
    (told : List.Forall₂ (Event.Retold one other) events events') :
    events'.filter Event.isDeed = events.filter Event.isDeed := by
  induction told with
  | nil => rfl
  | cons event _ ih =>
      cases event with
      | same event => rw [List.filter_cons, List.filter_cons, ih]
      | page => exact ih
      | document => exact ih

theorem SameEnd.deeds {one other : Except Stopped Summary × Session} (same : SameEnd one other) :
    other.2.deeds = one.2.deeds := by
  cases same with
  | stopped events => rw [Session.deeds, Session.deeds, events]
  | finished _ events => exact deeds_retold events

theorem pipelineFor_listing (alike : host.launch.Alike root launch)
    (collaborators : Collaborators) :
    (pipelineFor host shown options config collaborators).Told (listing root)
      (pipelineFor { host with launch } shown options config collaborators) where
  trees := FileTree.Relisted.interchangeable
  launch := alike
  collaborators := rfl
  bound := rfl
  shown _ := rfl
  more _ := id
  same _ := id

theorem runConfigured_parallel (shown : Presentation) (options : RunOptions)
    (alike : host.launch.Alike root launch) (beside : left.Alongside root right)
    (apart : left.tree.Apart config.testsDir) (sorted : config.sortCases = true) :
    (∃ cause after after', runConfigured host shown options config left = (.error cause, after) ∧
        runConfigured { host with launch } shown options config right = (.error cause, after') ∧
        after'.events = after.events) ∨
      ∃ one other after after', runConfigured host shown options config left = (.ok one, after) ∧
        runConfigured { host with launch } shown options config right = (.ok other, after') ∧
        one.Retold other ∧ Session.Retold one other after after' := by
  unfold runConfigured
  cases Collaborators.ofConfig host.env config with
  | error fault => exact .inl ⟨_, left, right, rfl, rfl, beside.events⟩
  | ok collaborators =>
      rcases beside.tree.discover host.reading config.testsDir config.layout with
        ⟨fault, failed, failed'⟩ | ⟨cases, cases', found, found', permuted⟩
      · simp only [failed, failed']
        exact .inl ⟨_, left, right, rfl, rfl, beside.events⟩
      · have once := discover_names apart (discoverRead_ok found)
        simp only [found, found', select_perm sorted permuted once]
        have same : (pipelineFor host shown options config collaborators).Told (listing root) _ :=
          pipelineFor_listing alike collaborators
        have opened := announce_alongside shown config beside (select options config cases)
        rcases runCases_told same (select options config cases).selected
            (.refl (.empty (select options config cases).selected.length)) opened.told with
          ⟨name, fault, after, after', ran, ran', told⟩ |
          ⟨one, other, after, after', ran, ran', retold, told⟩
        · rw [ran, ran']
          exact .inl ⟨_, after, after', rfl, rfl, told.alongside.events⟩
        · rw [ran, ran']
          exact .inr ⟨one, other, _, _, rfl, rfl, retold,
            conclude_retold retold (told.alongside.retold one other)⟩

-- How the messages of a run are shown once its configuration is known.
def presentation (host : Host) (options : RunOptions) (config : Config) : Presentation where
  locale := chosenLocale host options config
  colored := host.colored

theorem execute_configured (host : Host) {session : Session} {file : Option String}
    (loaded : Config.load session.tree options.config options.configRequired =
      .ok (config, file)) :
    execute host options session =
      match runConfigured host (presentation host options config) options (override options config)
        (session.say (loadedLine (presentation host options config) file)) with
      | (.error cause, session) =>
          (.error { locale := (presentation host options config).locale, cause }, session)
      | (.ok summary, session) => (.ok summary, session) := by
  unfold execute
  rw [loaded]
  rfl

theorem presentation_starting (host : Host) (launch : Launcher) :
    presentation { host with launch } options config = presentation host options config := rfl

theorem execute_parallel (alike : host.launch.Alike root launch)
    (beside : left.Alongside root right) {file : Option String}
    (loaded : Config.load left.tree options.config options.configRequired = .ok (config, file))
    (apart : left.tree.Apart (override options config).testsDir)
    (sorted : config.sortCases = true) :
    SameEnd (execute host options left) (execute { host with launch } options right) := by
  have loaded' := loaded
  rw [← beside.tree.load] at loaded'
  rw [execute_configured host loaded, execute_configured { host with launch } loaded',
    presentation_starting host launch]
  have sorted : (override options config).sortCases = true := sorted
  have told := beside.say (loadedLine (presentation host options config) file)
  rcases runConfigured_parallel (presentation host options config) options alike told apart
      sorted with
    ⟨cause, after, after', ran, ran', events⟩ |
    ⟨one, other, after, after', ran, ran', retold, still⟩
  · rw [ran, ran']
    exact .stopped events
  · rw [ran, ran']
    exact .finished retold still.events

theorem sorted_run_ignores_listing (host : Host) (launch : Launcher) (options : RunOptions)
    (alike : host.launch.Alike root launch) (beside : left.Alongside root right)
    {file : Option String}
    (loaded : Config.load left.tree options.config options.configRequired = .ok (config, file))
    (apart : left.tree.Apart (override options config).testsDir)
    (sorted : config.sortCases = true) :
    -- The cases that are taken up, and the names that none of them has.
    (∀ cases, discoverRead host.reading left.tree (override options config).testsDir
        (override options config).layout = .ok cases →
      ∃ cases', discoverRead host.reading right.tree (override options config).testsDir
          (override options config).layout = .ok cases' ∧
        select options (override options config) cases' =
          select options (override options config) cases ∧
        ((select options (override options config) cases).selected.map (·.name)).Pairwise
          (· < ·) ∧
        ((select options (override options config) cases).selected.map
          fun case => Text.utf8 case.name).Pairwise (· < ·)) ∧
      -- Results and console.
      SameEnd (execute host options left) (execute { host with launch } options right) ∧
      -- What was done to files and processes, in order.
      (execute { host with launch } options right).2.deeds =
        (execute host options left).2.deeds := by
  have same := execute_parallel alike beside loaded apart sorted
  refine ⟨fun cases found => ?_, same, same.deeds⟩
  have once := discover_names apart (discoverRead_ok found)
  have sorted : (override options config).sortCases = true := sorted
  have increasing := select_increasing options sorted once
  rcases beside.tree.discover host.reading (override options config).testsDir
      (override options config).layout with
    ⟨fault, failed, _⟩ | ⟨_, cases', found', discovered, permuted⟩
  · rw [found] at failed
    cases failed
  · rw [found] at found'
    cases found'
    refine ⟨cases', discovered, select_perm sorted permuted once, increasing, ?_⟩
    rw [List.pairwise_map] at increasing ⊢
    exact increasing.imp Text.utf8_lt

namespace Listed

-- Sorting is asked for; one case has an input, the other has not.
def tree (cases : List String) : FileTree where
  entries := [(["GoldenRunner.toml"], .file (Text.utf8 "sort_cases = true") 420),
      (["test.in", "add", "tests"], .file (Text.utf8 "42") 420), (["tests"], .directory)] ++
    cases.map fun name => ([name, "tests"], .directory)

theorem pair_alike : Pair.launch.Alike ["tests"] Pair.launch := by
  intro bound left right request near
  unfold Pair.launch
  split
  · exact .ended (near.put _ _)
  · exact .ended near

theorem tree_relisted {cases cases' : List String} (permuted : cases.Perm cases')
    (distinct : (tree cases).Distinct) : Relisted ["tests"] (tree cases) (tree cases') where
  entries := (permuted.map _).append_left _
  distinct := distinct
  names directory other := by
    -- The cases are in the root, so another directory lists none of them.
    have none : ∀ cases : List String, (cases.map fun name => [name, "tests"]).filterMap
        (FileTree.child? directory) = [] := by
      intro cases
      simp [FileTree.child?, Ne.symm other]
    rw [FileTree.names_eq, FileTree.names_eq, FileTree.keys, FileTree.keys, tree, tree,
      List.map_append, List.map_append, List.filterMap_append, List.filterMap_append, List.map_map,
      List.map_map]
    exact congrArg _ ((none cases').trans (none cases).symm)
  cwd := rfl
  shared := rfl

theorem added_first : Relisted ["tests"] (tree ["add", "mul"]) (tree ["mul", "add"]) :=
  tree_relisted (.swap _ _ _) (by decide)

theorem apart : (tree ["add", "mul"]).Apart "tests" :=
  added_first.distinct.apart fun names listed => by
    cases listed
    decide

def stray (byte : UInt8) : Case := .ofDirectory "a\uFFFD" ("tests/" ++ Text.stray byte) {}

theorem strays_relisted : Relisted ["tests"] (tree [Text.stray 0xFF, Text.stray 0xFE])
    (tree [Text.stray 0xFE, Text.stray 0xFF]) :=
  tree_relisted (.swap _ _ _) (by decide)

end Listed

theorem sorted_run_ignores_listing_pair :
    (Listed.tree ["add", "mul"]).names ["tests"] = ["add", "mul"] ∧
      (Listed.tree ["mul", "add"]).names ["tests"] = ["mul", "add"] ∧
      (∃ cases, discover (Listed.tree ["mul", "add"]) "tests" {} = .ok cases ∧
        select {} { sortCases := true } cases = select {} { sortCases := true }
          [.ofDirectory "add" "tests/add" {}, .ofDirectory "mul" "tests/mul" {}]) ∧
      SameEnd (execute Pair.surroundings {} { tree := Listed.tree ["add", "mul"] })
        (execute Pair.surroundings {} { tree := Listed.tree ["mul", "add"] }) := by
  have beside : ({ tree := Listed.tree ["add", "mul"] } : Session).Alongside ["tests"]
    { tree := Listed.tree ["mul", "add"] } := ⟨Listed.added_first, rfl⟩
  have loaded : (Config.load (Listed.tree ["add", "mul"]) Config.defaultFile false).toOption =
    some ({ sortCases := true }, some "/GoldenRunner.toml") := by decide +kernel
  obtain ⟨selection, same, _⟩ := sorted_run_ignores_listing Pair.surroundings Pair.launch {}
    Listed.pair_alike beside (toOption_eq_some.mp loaded) Listed.apart rfl
  obtain ⟨cases, discovered, selected, _⟩ := selection
    [.ofDirectory "add" "tests/add" {}, .ofDirectory "mul" "tests/mul" {}] rfl
  exact ⟨rfl, rfl, ⟨cases, discovered, selected⟩, same⟩

-- Two directories whose names have the same text: their cases keep the order of the listing.
theorem stray_names_follow_listing :
    let left := Listed.tree [Text.stray 0xFF, Text.stray 0xFE]
    let right := Listed.tree [Text.stray 0xFE, Text.stray 0xFF]
    Relisted ["tests"] left right ∧ Text.stray 0xFF ≠ Text.stray 0xFE ∧
      ∃ cases cases', discover left "tests" {} = .ok cases ∧
        discover right "tests" {} = .ok cases' ∧
        select {} { sortCases := true } cases' ≠ select {} { sortCases := true } cases ∧
        ¬((select {} { sortCases := true } cases).selected.map (·.name)).Pairwise (· < ·) := by
  have kept : ∀ {cases : List Case}, Rising cases →
      (select {} { sortCases := true } cases).selected = cases := fun {cases} rising =>
    Rising.eq_of_named (sortCases_rising cases) rising fun _ => casesNamed_sortCases _ _
  have level : ∀ one other : UInt8, Rising [Listed.stray one, Listed.stray other] := by
    intro one other
    simp [Rising, Listed.stray, Case.ofDirectory]
  refine ⟨Listed.strays_relisted, by decide, [Listed.stray 0xFF, Listed.stray 0xFE],
    [Listed.stray 0xFE, Listed.stray 0xFF], rfl, rfl, fun same => ?_, ?_⟩
  · have swapped := congrArg Selection.selected same
    rw [kept (level 0xFE 0xFF), kept (level 0xFF 0xFE)] at swapped
    exact absurd swapped (by decide)
  · rw [kept (level 0xFF 0xFE)]
    decide

end Run
end Acceptance
