import Acceptance.Proofs.Discipline
import Acceptance.Proofs.ListingOrder
import Acceptance.Proofs.Told

namespace Acceptance

open Text (Bytes)

-- The options that only say how a run is told: its language, whether commands are shown, and the
-- reports that it leaves. They do not change what is started, what becomes of the files, or what
-- comes out.

-- Nothing but the telling is different. The second run may be the louder one.
def retelling (louder : Prop) : Comparison where
  near := (· = ·)
  louder := louder
  verbatim := False
  louder_of_verbatim := False.elim

theorem FileTree.interchangeable_self : FileTree.Interchangeable (· = ·) where
  locate := by rintro _ _ rfl _; rfl
  isFile := by rintro _ _ rfl _; rfl
  sameContent := by rintro _ _ rfl _ _; rfl
  removeStale := by
    rintro tree _ rfl path
    cases tree.removeStale path with
    | error cause => exact .failed cause
    | ok after => exact .done rfl
  create := by
    rintro tree _ rfl path
    cases tree.create path with
    | error cause => exact .failed cause
    | ok made => exact .done ⟨rfl, rfl⟩

theorem Launcher.Follows.of_ended {one other : Launcher} (follows : one.Follows (· = ·) other)
    {bound : Option Nat} {tree after : FileTree} {request : Request} {completion : Completion}
    {collected : List (Stream × Bytes)} {elapsed : Nat}
    (answer : one bound tree request = .ended completion collected after elapsed) :
    ∃ elapsed', other bound tree request = .ended completion collected after elapsed' := by
  have replies := follows bound tree tree request rfl
  rw [answer] at replies
  obtain ⟨_, elapsed', answer', rfl⟩ := replies.of_ended
  exact ⟨elapsed', answer'⟩

variable {louder : Prop} {left right : Session}

theorem Session.told_self (session : Session) : session.Told (retelling louder) session :=
  ⟨rfl, rfl, fun _ => List.Sublist.refl _, False.elim⟩

namespace Run

attribute [local irreducible] Pipeline.runCase

-- Deeds one after the other, and the processes among them with what they find on their standard
-- input.
inductive Launches (launch : Launcher) (bound : Option Nat) :
    FileTree → List Event → List (Request × Bytes) → FileTree → Prop where
  | nil {tree : FileTree} : Launches launch bound tree [] [] tree
  | removed {tree next after : FileTree} {path : String} {deeds : List Event}
      {starts : List (Request × Bytes)} (done : tree.removeStale path = .ok next)
      (rest : Launches launch bound next deeds starts after) :
      Launches launch bound tree (.removed path :: deeds) starts after
  | created {tree next after : FileTree} {path : String} {place : Place} {deeds : List Event}
      {starts : List (Request × Bytes)} (done : tree.create path = .ok (place, next))
      (rest : Launches launch bound next deeds starts after) :
      Launches launch bound tree (.created path :: deeds) starts after
  | started {tree next after : FileTree} {stage : Stage} {request : Request}
      {completion : Completion} {collected : List (Stream × Bytes)} {elapsed : Nat}
      {deeds : List Event} {starts : List (Request × Bytes)}
      (answer : launch bound tree request = .ended completion collected next elapsed)
      (rest : Launches launch bound next deeds starts after) :
      Launches launch bound tree (.started stage request :: deeds)
        ((request, tree.inputOf request.input) :: starts) after

section Launches

variable {launch other : Launcher} {bound : Option Nat} {tree next after : FileTree}
  {first deeds : List Event} {starts starts' : List (Request × Bytes)}

theorem Launches.append (one : Launches launch bound tree first starts next)
    (rest : Launches launch bound next deeds starts' after) :
    Launches launch bound tree (first ++ deeds) (starts ++ starts') after := by
  induction one with
  | nil => exact rest
  | removed done _ ih => exact .removed done (ih rest)
  | created done _ ih => exact .created done (ih rest)
  | started answer _ ih => exact .started answer (ih rest)

theorem Launches.follows (follows : launch.Follows (· = ·) other)
    (launches : Launches launch bound tree deeds starts after) :
    Launches other bound tree deeds starts after := by
  induction launches with
  | nil => exact .nil
  | removed done _ ih => exact .removed done ih
  | created done _ ih => exact .created done ih
  | started answer _ ih =>
      obtain ⟨elapsed', answer'⟩ := follows.of_ended answer
      exact .started answer' ih

theorem launches_of_trail {pipeline : Pipeline} {case : Case}
    (trail : pipeline.Trail case tree deeds after) :
    ∃ starts, Launches pipeline.launch pipeline.bound tree deeds starts after := by
  induction trail with
  | nil => exact ⟨[], .nil⟩
  | cons step _ ih =>
      obtain ⟨starts, rest⟩ := ih
      cases step with
      | removed done _ => exact ⟨starts, .removed done rest⟩
      | created _ done _ => exact ⟨starts, .created done rest⟩
      | started answer => exact ⟨_, .started answer rest⟩

end Launches

theorem runCases_launches (pipeline : Pipeline) (cases : List Case) (summary : Summary)
    (session : Session) : ∃ deeds starts,
    (runCases pipeline cases summary session).2.deeds = session.deeds ++ deeds ∧
    Launches pipeline.launch pipeline.bound session.tree deeds starts
      (runCases pipeline cases summary session).2.tree := by
  induction cases generalizing summary session with
  | nil => exact ⟨[], [], (List.append_nil _).symm, .nil⟩
  | cons case cases ih =>
      obtain ⟨course, done⟩ := Lap.of_course pipeline case session
      rw [Lap.of_start_deeds] at done
      obtain ⟨starts, launches⟩ := launches_of_trail course.trail
      rw [runCases_cons]
      cases result : (Lap.of pipeline case session).result with
      | error fault => exact ⟨_, starts, done, launches⟩
      | ok record =>
          obtain ⟨deeds, starts', later, rest⟩ := ih (summary.add record)
            ((Lap.of pipeline case session).onwards pipeline record)
          refine ⟨_, _, ?_, launches.append rest⟩
          dsimp only
          rw [later, Lap.onwards, Session.say_deeds, done, List.append_assoc]

-- A report is neither a deed nor a block, whether it can be written or not.
theorem keepReport_silent (shown : Presentation) (kind path content : String)
    (session : Session) :
    (keepReport shown session (saveReport kind path content session)).deeds = session.deeds ∧
    (keepReport shown session (saveReport kind path content session)).blocks =
      session.blocks := by
  unfold saveReport Session.write
  cases session.tree.write path (Text.utf8 content) with
  | error cause =>
      simp [keepReport, Session.warn, Session.emit, Session.deeds, Session.blocks, Event.isDeed,
        Event.block?]
  | ok tree =>
      dsimp only
      cases Session.streamAt? tree path with
      | none => exact ⟨rfl, rfl⟩
      | some stream =>
          simp [keepReport, Session.emit, Session.deeds, Session.blocks, Event.isDeed,
            Event.block?]

def htmlBlocks (shown : Presentation) (html : Option String) : List String :=
  (html.map fun path => "\n" ++ shown.locale.phrases.htmlReport (Text.shown path)).toList

theorem writeHtml_silent (shown : Presentation) (hint : Hint) (summary : Summary)
    (session : Session) (html : Option String) :
    (writeHtml shown hint summary session html).deeds = session.deeds ∧
    (writeHtml shown hint summary session html).blocks =
      session.blocks ++ htmlBlocks shown html := by
  cases html with
  | none => exact ⟨rfl, (List.append_nil _).symm⟩
  | some path =>
      obtain ⟨deeds, blocks⟩ := keepReport_silent shown "HTML report" path
        (Report.html shown.locale hint summary) (session.sayAll (htmlBlocks shown (some path)))
      rw [Session.sayAll_deeds] at deeds
      rw [Session.sayAll_blocks] at blocks
      exact ⟨deeds, blocks⟩

theorem writeJson_silent (shown : Presentation) (summary : Summary) (session : Session)
    (json : Option String) :
    (writeJson shown summary session json).deeds = session.deeds ∧
    (writeJson shown summary session json).blocks = session.blocks := by
  cases json with
  | none => exact ⟨rfl, rfl⟩
  | some path => exact keepReport_silent shown "JSON summary" path (Report.json summary) session

theorem conclude_silent (shown : Presentation) (options : RunOptions) (config : Config)
    (summary : Summary) (session : Session) :
    (conclude shown options config summary session).deeds = session.deeds ∧
    (conclude shown options config summary session).blocks =
      session.blocks ++ Report.shownSummary shown (Hint.ofConfig config) summary ++
        htmlBlocks shown options.html := by
  unfold conclude
  dsimp only
  rw [(writeJson_silent ..).1, (writeJson_silent ..).2, (writeHtml_silent ..).1,
    (writeHtml_silent ..).2, Session.sayAll_deeds, Session.sayAll_blocks]
  exact ⟨rfl, rfl⟩

end Run

structure Host.Akin (one other : Host) : Prop where
  launch : one.launch.Follows (· = ·) other.launch
  env : other.env = one.env
  reading : other.reading = one.reading

-- What has to be the same for the same results.
structure RunOptions.Akin (one other : RunOptions) : Prop where
  config : other.config = one.config
  configRequired : other.configRequired = one.configRequired
  testsDir : other.testsDir = one.testsDir
  cases : other.cases = one.cases
  timeoutSeconds : other.timeoutSeconds = one.timeoutSeconds

namespace Run

variable {host host' : Host} {options options' : RunOptions} {config : Config}
  {shown shown' : Presentation} {session : Session}

theorem override_akin (asked : options.Akin options') (config : Config) :
    override options' config = override options config := by
  unfold override
  rw [asked.testsDir, asked.timeoutSeconds]

theorem select_akin (asked : options.Akin options') (config : Config) (cases : List Case) :
    select options' config cases = select options config cases := by
  unfold select
  rw [asked.cases]

-- The one run shows all that the other one shows, and in the same way.
structure Shows (shown shown' : Presentation) (options options' : RunOptions) : Prop where
  shown : shown' = shown
  html : options'.html = options.html
  verbose : options.verbose → options'.verbose

theorem pipelineFor_told (hosts : host.Akin host')
    (shows : louder → Shows shown shown' options options') (config : Config)
    (collaborators : Collaborators) :
    (pipelineFor host shown options config collaborators).Told (retelling louder)
      (pipelineFor host' shown' options' config collaborators) where
  trees := FileTree.interchangeable_self
  launch := hosts.launch
  collaborators := rfl
  bound := rfl
  shown more := (shows more).shown
  more more := (shows more).verbose
  same := False.elim

theorem announce_told (same : louder → shown' = shown) (told : left.Told (retelling louder) right)
    (config : Config) (selection : Selection) :
    (announce shown config selection left).Told (retelling louder)
      (announce shown' config selection right) := by
  have tree : left.tree = right.tree := told.tree
  unfold announce
  rw [tree]
  refine (told.sayAll (.of_eq fun more => ?_)).say fun more => ?_
  · rw [same more]
  · rw [same more]

theorem conclude_told {one other : Summary} (retold : one.Retold other)
    (shows : louder → Shows shown shown' options options')
    (told : left.Told (retelling louder) right) (config : Config) :
    (conclude shown' options' config other right).deeds =
      (conclude shown options config one left).deeds ∧
    (louder → (conclude shown options config one left).blocks.Sublist
      (conclude shown' options' config other right).blocks) := by
  obtain ⟨deeds, blocks⟩ := conclude_silent shown options config one left
  obtain ⟨deeds', blocks'⟩ := conclude_silent shown' options' config other right
  refine ⟨by rw [deeds, deeds', told.deeds], fun more => ?_⟩
  rw [blocks, blocks', (shows more).shown, (shows more).html, retold.shown]
  exact ((told.blocks more).append (List.Sublist.refl _)).append (List.Sublist.refl _)

-- Both runs end with the same error in the same tree, or with the same results. They have done
-- the same either way.
inductive EndsAlike :
    Except Stopped Summary × Session → Except Stopped Summary × Session → Prop where
  | stopped {locale locale' : Locale} {cause : RunError} {left right : Session}
      (tree : right.tree = left.tree) (deeds : right.deeds = left.deeds) :
      EndsAlike (.error { locale, cause }, left) (.error { locale := locale', cause }, right)
  | finished {one other : Summary} {left right : Session} (retold : one.Retold other)
      (deeds : right.deeds = left.deeds) : EndsAlike (.ok one, left) (.ok other, right)

theorem runConfigured_told (hosts : host.Akin host') (asked : options.Akin options')
    (shows : louder → Shows shown shown' options options')
    (told : left.Told (retelling louder) right) (config : Config) :
    (∃ cause after after', runConfigured host shown options config left = (.error cause, after) ∧
        runConfigured host' shown' options' config right = (.error cause, after') ∧
        after.Told (retelling louder) after') ∨
      ∃ one other after after', runConfigured host shown options config left = (.ok one, after) ∧
        runConfigured host' shown' options' config right = (.ok other, after') ∧
        one.Retold other ∧ after'.deeds = after.deeds ∧
        (louder → after.blocks.Sublist after'.blocks) := by
  have tree : left.tree = right.tree := told.tree
  unfold runConfigured
  rw [hosts.env, hosts.reading, tree]
  cases Collaborators.ofConfig host.env config with
  | error fault => exact .inl ⟨_, left, right, rfl, rfl, told⟩
  | ok collaborators =>
      dsimp only
      cases discoverRead host.reading right.tree config.testsDir config.layout with
      | error fault => exact .inl ⟨_, left, right, rfl, rfl, told⟩
      | ok cases =>
          dsimp only
          rw [select_akin asked]
          have same := pipelineFor_told hosts shows config collaborators
          have opened := announce_told (fun more => (shows more).shown) told config
            (select options config cases)
          rcases runCases_told same (select options config cases).selected
              (.refl (.empty (select options config cases).selected.length)) opened with
            ⟨name, fault, after, after', ran, ran', told⟩ |
            ⟨one, other, after, after', ran, ran', retold, told⟩
          · rw [ran, ran']
            exact .inl ⟨_, after, after', rfl, rfl, told⟩
          · rw [ran, ran']
            obtain ⟨deeds, blocks⟩ := conclude_told retold shows told config
            exact .inr ⟨one, other, _, _, rfl, rfl, retold, deeds, blocks⟩

theorem execute_told (hosts : host.Akin host') (asked : options.Akin options')
    (shows : louder → ∀ config, Shows (presentation host options config)
      (presentation host' options' config) options options') (session : Session) :
    EndsAlike (execute host options session) (execute host' options' session) ∧
    (louder → (execute host options session).2.blocks.Sublist
      (execute host' options' session).2.blocks) := by
  cases loaded : Config.load session.tree options.config options.configRequired with
  | error cause =>
      have loaded' := loaded
      rw [← asked.config, ← asked.configRequired] at loaded'
      unfold execute
      rw [loaded, loaded']
      exact ⟨.stopped rfl rfl, fun _ => List.Sublist.refl _⟩
  | ok found =>
      obtain ⟨config, file⟩ := found
      have loaded' := loaded
      rw [← asked.config, ← asked.configRequired] at loaded'
      rw [execute_configured host loaded, execute_configured host' loaded',
        override_akin asked config]
      have shows := fun more => shows more config
      have told := session.told_self.say fun more : louder =>
        congrArg (loadedLine · file) (shows more).shown
      rcases runConfigured_told hosts asked shows told (override options config) with
        ⟨cause, after, after', ran, ran', told⟩ |
        ⟨one, other, after, after', ran, ran', retold, deeds, blocks⟩
      · rw [ran, ran']
        exact ⟨.stopped told.tree.symm told.deeds, told.blocks⟩
      · rw [ran, ran']
        exact ⟨.finished retold deeds, blocks⟩

namespace Ready

def closing (ready : Ready host options session) : Session :=
  (runCases ready.pipeline ready.selected (.empty ready.selected.length) ready.opening).2

theorem opening_tree (ready : Ready host options session) : ready.opening.tree = session.tree := by
  simp [opening, announce]

theorem closing_deeds (ready : Ready host options session) :
    (execute host options session).2.deeds = ready.closing.deeds := by
  rw [execute_ready ready, closing]
  generalize runCases ready.pipeline ready.selected _ ready.opening = ended
  obtain ⟨result, after⟩ := ended
  cases result with
  | error cause => rfl
  | ok summary => exact (conclude_silent ..).1

structure Leaves (ready : Ready host options session) (deeds : List Event)
    (starts : List (Request × Bytes)) (tree : FileTree) : Prop where
  done : (execute host options session).2.deeds = session.deeds ++ deeds
  launches : Launches host.launch ready.pipeline.bound session.tree deeds starts tree
  closed : ready.closing.tree = tree

theorem leaves (ready : Ready host options session) :
    ∃ deeds starts, ready.Leaves deeds starts ready.closing.tree := by
  obtain ⟨deeds, starts, done, launches⟩ := runCases_launches ready.pipeline ready.selected
    (.empty ready.selected.length) ready.opening
  rw [ready.opening_deeds] at done
  rw [ready.opening_tree] at launches
  exact ⟨deeds, starts, ready.closing_deeds.trans done, launches, rfl⟩

def akin (ready : Ready host options session) (hosts : host.Akin host')
    (asked : options.Akin options') : Ready host' options' session where
  loaded := ready.loaded
  file := ready.file
  collaborators := ready.collaborators
  discovered := ready.discovered
  load := by rw [asked.config, asked.configRequired, ready.load]
  parse := by rw [hosts.env, override_akin asked, ready.parse]
  discovery := by rw [hosts.reading, override_akin asked, ready.discovery]

section

variable (ready : Ready host options session) (hosts : host.Akin host')
  (asked : options.Akin options')

theorem akin_config : (ready.akin hosts asked).config = ready.config :=
  override_akin asked ready.loaded

theorem akin_selection : (ready.akin hosts asked).selection = ready.selection := by
  unfold selection
  rw [akin_config, select_akin asked]
  rfl

theorem akin_selected : (ready.akin hosts asked).selected = ready.selected :=
  congrArg Selection.selected (ready.akin_selection hosts asked)

theorem closing_told : ready.closing.Told (retelling False) (ready.akin hosts asked).closing := by
  have same : ready.pipeline.Told (retelling False) (ready.akin hosts asked).pipeline := by
    unfold pipeline
    rw [akin_config]
    exact pipelineFor_told hosts False.elim _ _
  have opened : ready.opening.Told (retelling False) (ready.akin hosts asked).opening := by
    unfold opening
    rw [akin_config, akin_selection]
    exact announce_told False.elim (session.told_self.say False.elim) _ _
  unfold closing
  rw [akin_selected]
  rcases runCases_told same ready.selected (.refl (.empty ready.selected.length)) opened with
    ⟨_, _, after, after', ran, ran', told⟩ | ⟨_, _, after, after', ran, ran', _, told⟩
  · rw [ran, ran']
    exact told
  · rw [ran, ran']
    exact told

end

end Ready

theorem presentation_changes_no_result (hosts : host.Akin host') (asked : options.Akin options')
    (session : Session) :
    EndsAlike (execute host options session) (execute host' options' session) ∧
    -- Both runs start the same with the same on its standard input, and leave the same tree.
    (∀ ready : Ready host options session, ∃ ready' : Ready host' options' session,
      ready'.selected = ready.selected ∧
      ∃ deeds starts tree, ready.Leaves deeds starts tree ∧ ready'.Leaves deeds starts tree) ∧
    -- The screen, if one run at most shows more than the other.
    (host'.colored = host.colored → host'.detected = host.detected →
      options'.language = options.language → options'.html = options.html →
      (options.verbose → options'.verbose) →
      (execute host options session).2.blocks.Sublist
        (execute host' options' session).2.blocks) := by
  refine ⟨(execute_told hosts asked False.elim session).1, fun ready => ?_, ?_⟩
  · obtain ⟨deeds, starts, left⟩ := ready.leaves
    have told := ready.closing_told hosts asked
    refine ⟨ready.akin hosts asked, ready.akin_selected hosts asked, deeds, starts, _, left, ?_⟩
    refine ⟨?_, ?_, told.tree.symm⟩
    · rw [(ready.akin hosts asked).closing_deeds, told.deeds, ← ready.closing_deeds]
      exact left.done
    · have bound : (ready.akin hosts asked).pipeline.bound = ready.pipeline.bound :=
        congrArg (fun config => config.timeoutSeconds.map (· * 1000))
          (ready.akin_config hosts asked)
      rw [bound]
      exact left.launches.follows hosts.launch
  · intro colored detected language html verbose
    have shows : ∀ config, Shows (presentation host options config)
        (presentation host' options' config) options options' := by
      intro config
      refine ⟨?_, html, verbose⟩
      unfold presentation chosenLocale
      rw [colored, detected, language]
    exact (execute_told hosts asked (fun _ => shows) session).2 trivial

namespace Slow

def launch : Launcher := fun bound tree request =>
  match Pair.launch bound tree request with
  | .refused cause => .refused cause
  | .ended completion collected tree elapsed => .ended completion collected tree (elapsed + 1)

def surroundings : Host where
  launch := launch
  env := {}
  colored := true
  locale := .chinese
  detected := "zh-CN"

def wishes : RunOptions where
  verbose := true
  language := some "zh-CN"
  html := some "report.html"
  json := some "/dev/stdout"

theorem follows : Pair.launch.Follows (· = ·) launch := by
  rintro bound tree _ request rfl
  unfold launch
  cases Pair.launch bound tree request with
  | refused cause => exact .refused cause
  | ended completion collected tree elapsed => exact .ended rfl

theorem hosts : Pair.surroundings.Akin surroundings := ⟨follows, rfl, rfl⟩

theorem asked : RunOptions.Akin {} wishes := ⟨rfl, rfl, rfl, rfl, rfl⟩

end Slow

theorem presentation_changes_no_result_pair :
    EndsAlike (execute Pair.surroundings {} { tree := Pair.tree })
      (execute Slow.surroundings Slow.wishes { tree := Pair.tree }) ∧
    (∃ ready : Ready Slow.surroundings Slow.wishes { tree := Pair.tree },
      ready.selected = Pair.ready.selected ∧ ∃ deeds starts tree,
        Pair.ready.Leaves deeds starts tree ∧ ready.Leaves deeds starts tree) ∧
    (execute Pair.surroundings {} { tree := Pair.tree }).2.blocks.Sublist
      (execute { Pair.surroundings with launch := Slow.launch } { verbose := true }
        { tree := Pair.tree }).2.blocks := by
  obtain ⟨ends, ready, _⟩ :=
    presentation_changes_no_result Slow.hosts Slow.asked { tree := Pair.tree }
  have loud : RunOptions.Akin {} { verbose := true } := ⟨rfl, rfl, rfl, rfl, rfl⟩
  have hosts : Pair.surroundings.Akin { Pair.surroundings with launch := Slow.launch } :=
    ⟨Slow.follows, rfl, rfl⟩
  obtain ⟨_, _, screen⟩ := presentation_changes_no_result hosts loud { tree := Pair.tree }
  exact ⟨ends, ready Pair.ready, screen rfl rfl rfl rfl fun _ => rfl⟩

end Run
end Acceptance
