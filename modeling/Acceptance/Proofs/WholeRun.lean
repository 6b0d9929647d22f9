import Mathlib.Data.List.Nodup
import Acceptance.Proofs.Laps
import Acceptance.Proofs.ShownNames
import Acceptance.Proofs.Tally

namespace Acceptance

open Command (Template)

namespace FileTree

-- A run from beginning to end. It either stops at a fault, and then nothing follows the case that
-- met it, or it accounts for every selected case under its own name.

-- No place is listed twice, so a directory holds each name once.
def Distinct (tree : FileTree) : Prop := (tree.entries.map (·.1)).Nodup

instance (tree : FileTree) : Decidable tree.Distinct :=
  inferInstanceAs (Decidable (List.Nodup _))

theorem Distinct.names {tree : FileTree} (distinct : tree.Distinct) (directory : Place) :
    (tree.names directory).Nodup := by
  refine List.Pairwise.filterMap _ ?_ (List.pairwise_map.mp distinct)
  rintro ⟨one, _⟩ ⟨other, _⟩ differ name inside name' inside' rfl
  cases one <;> cases other <;> simp_all

theorem Distinct.list {tree : FileTree} {path : String} {names : List String}
    (distinct : tree.Distinct) (listed : tree.list path = .ok names) : names.Nodup := by
  unfold FileTree.list at listed
  cases place : tree.locate path with
  | error cause => simp [place, bind, Except.bind] at listed
  | ok directory =>
      simp only [place, bind, Except.bind] at listed
      split at listed
      · cases listed
        exact distinct.names directory
      · cases listed

end FileTree

section

variable {tree : FileTree} {root : String} {layout : Layout} {cases : List Case}

theorem casesOf_error (names : List String) (cause : IoError)
    (later : List (Except IoError String)) :
    casesOf tree root layout (names.map .ok ++ .error cause :: later) = .error cause := by
  induction names with
  | nil => rfl
  | cons name names ih => rw [List.map_cons, List.cons_append, casesOf, ih]

theorem discoverRead_ok {reading : Reading}
    (found : discoverRead reading tree root layout = .ok cases) :
    discover tree root layout = .ok cases := by
  cases reading with
  | whole => exact found
  | refused cause =>
      unfold discoverRead discoverListed Reading.listing at found
      split at found <;> cases found
  | broken after cause =>
      unfold discoverRead discoverListed Reading.listing at found
      split at found
      · cases found
      cases listed : tree.list root with
      | error other => simp [listed, Except.map, Except.bind] at found
      | ok names =>
          simp only [listed, Except.map, Except.bind, casesOf_error] at found
          cases found

-- The directories in the root are told apart by the texts of their names.
def FileTree.Apart (tree : FileTree) (root : String) : Prop :=
  ∀ names, tree.list root = .ok names →
    ((names.filter fun name => tree.isDirectory (Path.join root name)).map Text.shown).Nodup

theorem FileTree.Distinct.apart (distinct : tree.Distinct)
    (texts : ∀ names, tree.list root = .ok names → ∀ name ∈ names, Text.isText name) :
    tree.Apart root := by
  intro names listed
  refine List.Nodup.map_on ?_ ((distinct.list listed).filter _)
  intro one member other member' same
  have text : Text.ofText (Text.shown one) = one :=
    eq_of_beq (texts names listed one (List.mem_filter.mp member).1)
  have text' : Text.ofText (Text.shown other) = other :=
    eq_of_beq (texts names listed other (List.mem_filter.mp member').1)
  rw [← text, same, text']

theorem filterMap_ofEntry (names : List String) :
    names.filterMap (Case.ofEntry? tree root layout) =
      (names.filter fun name => tree.isDirectory (Path.join root name)).map fun name =>
        .ofDirectory (Text.shown name) (Path.join root name) layout := by
  rw [← List.filterMap_eq_map, List.filterMap_filter]
  rfl

theorem map_name_ofDirectory (names : List String) :
    (names.map fun name => Case.ofDirectory (Text.shown name) (Path.join root name) layout).map
      (·.name) = names.map Text.shown := by
  rw [List.map_map]
  rfl

theorem discover_names (apart : tree.Apart root) (found : discover tree root layout = .ok cases) :
    (cases.map (·.name)).Nodup := by
  rw [discover_eq] at found
  split at found
  · cases found
  cases listed : tree.list root with
  | error cause => simp [listed] at found
  | ok names =>
      simp only [listed, Except.ok.injEq] at found
      rw [← found, filterMap_ofEntry, map_name_ofDirectory]
      exact apart names listed

end

theorem Run.select_names {options : RunOptions} {config : Config} {cases : List Case}
    (once : (cases.map (·.name)).Nodup) :
    ((select options config cases).selected.map (·.name)).Nodup := by
  have ordered : ((if config.sortCases then sortCases cases else cases).map (·.name)).Nodup := by
    split
    · exact ((List.mergeSort_perm cases _).map _).nodup_iff.mpr once
    · exact once
  unfold select Selection.ofNames
  split
  · exact ordered
  · exact ordered.sublist (List.filter_sublist.map _)

def Config.commandLines (config : Config) : List String :=
  config.compiler :: config.vm :: if config.usesBuiltin then [] else [config.diff]

theorem Collaborators.ofConfig_error {env : Environment} {config : Config} :
    (∃ fault, ofConfig env config = .error fault) ↔
      ∃ line ∈ config.commandLines, Template.parse? env line = none := by
  unfold ofConfig template Config.commandLines
  cases compiler : Template.parse? env config.compiler <;>
    cases vm : Template.parse? env config.vm <;>
    cases diff : Template.parse? env config.diff <;>
    cases chosen : config.usesBuiltin <;>
    simp [compiler, vm, diff, bind, Except.bind, Functor.map, Except.map, pure, Except.pure]

-- The faults of a case: a file cannot be opened, or the machine or the comparator does not start.
def Case.Meets (case : Case) (fault : Fault) : Prop :=
  (∃ path ∈ [case.program, case.actualOutput, case.actualDiagnostics], ∃ cause,
      fault = .artifact path cause) ∨
    ∃ stage ∈ [Stage.execute, .diff], ∃ program cause, fault = .spawn stage program cause

theorem Pipeline.Course.meets {pipeline : Pipeline} {case : Case} {tree after : FileTree}
    {deeds : List Event} {fault : Fault}
    (course : Course pipeline case tree deeds (.error fault) after) : case.Meets fault := by
  cases course with
  | faulted _ executing =>
      cases executing with
      | noProgram | noOutput | noDiagnostics => exact .inl ⟨_, by simp, _, rfl⟩
      | refused => exact .inr ⟨.execute, by simp, _, _, rfl⟩
  | compared _ _ comparing =>
      cases comparing with
      | refused => exact .inr ⟨.diff, by simp, _, _, rfl⟩

namespace Run

variable {host : Host} {options : RunOptions} {session : Session}

-- Everything that has to succeed before the first case.
structure Ready (host : Host) (options : RunOptions) (session : Session) where
  loaded : Config
  file : Option String
  collaborators : Collaborators
  discovered : List Case
  load : Config.load session.tree options.config options.configRequired = .ok (loaded, file)
  parse : Collaborators.ofConfig host.env (override options loaded) = .ok collaborators
  discovery : discoverRead host.reading session.tree (override options loaded).testsDir
    (override options loaded).layout = .ok discovered

namespace Ready

variable (ready : Ready host options session)

def config : Config := override options ready.loaded

def shown : Presentation where
  locale := chosenLocale host options ready.loaded
  colored := host.colored

def selection : Selection := select options ready.config ready.discovered

def selected : List Case := ready.selection.selected

def pipeline : Pipeline :=
  pipelineFor host ready.shown options ready.config ready.collaborators

def opening : Session :=
  announce ready.shown ready.config ready.selection
    (session.say (loadedLine ready.shown ready.file))

def laps : List Lap := Run.laps ready.pipeline ready.selected ready.opening

def stopped (lap : Lap) (fault : Fault) : Stopped where
  locale := ready.shown.locale
  cause := .case lap.case.name fault

theorem opening_deeds : ready.opening.deeds = session.deeds := by
  simp [opening, announce]

end Ready

theorem runConfigured_ready (ready : Ready host options session) :
    runConfigured host ready.shown options ready.config
        (session.say (loadedLine ready.shown ready.file)) =
      match runCases ready.pipeline ready.selected (.empty ready.selected.length)
        ready.opening with
      | (.error (name, fault), session) => (.error (.case name fault), session)
      | (.ok summary, session) =>
          (.ok summary, conclude ready.shown options ready.config summary session) := by
  unfold runConfigured
  rw [Session.say_tree, show Collaborators.ofConfig host.env ready.config = _ from ready.parse]
  simp only
  rw [show discoverRead host.reading session.tree ready.config.testsDir ready.config.layout = _ from
    ready.discovery]
  rfl

theorem execute_loaded (ready : Ready host options session) : execute host options session =
    match runConfigured host ready.shown options ready.config
      (session.say (loadedLine ready.shown ready.file)) with
    | (.error cause, session) => (.error { locale := ready.shown.locale, cause }, session)
    | (.ok summary, session) => (.ok summary, session) := by
  unfold execute
  rw [ready.load]
  rfl

theorem execute_ready (ready : Ready host options session) : execute host options session =
    match runCases ready.pipeline ready.selected (.empty ready.selected.length) ready.opening with
    | (.error (name, fault), session) =>
        (.error { locale := ready.shown.locale, cause := .case name fault }, session)
    | (.ok summary, session) =>
        (.ok summary, conclude ready.shown options ready.config summary session) := by
  rw [execute_loaded ready, runConfigured_ready ready]
  generalize runCases ready.pipeline ready.selected _ ready.opening = ended
  obtain ⟨result, after⟩ := ended
  cases result <;> rfl

theorem execute_unloaded (host : Host) {cause : Config.LoadError}
    (failed : Config.load session.tree options.config options.configRequired = .error cause) :
    ∃ stopped, (execute host options session).1 = .error stopped := by
  unfold execute
  rw [failed]
  exact ⟨_, rfl⟩

theorem execute_unready {config : Config} {file : Option String}
    (load : Config.load session.tree options.config options.configRequired = .ok (config, file))
    (unready : (∃ fault, Collaborators.ofConfig host.env (override options config) = .error fault) ∨
      ∃ fault, discoverRead host.reading session.tree (override options config).testsDir
        (override options config).layout = .error fault) :
    ∃ stopped, (execute host options session).1 = .error stopped := by
  unfold execute
  rw [load]
  simp only
  unfold runConfigured
  simp only [Session.say_tree]
  cases parse : Collaborators.ofConfig host.env (override options config) with
  | error fault => exact ⟨_, rfl⟩
  | ok collaborators =>
      rcases unready with ⟨fault, unparsed⟩ | ⟨fault, undiscovered⟩
      · rw [parse] at unparsed
        cases unparsed
      · simp only [undiscovered]
        exact ⟨_, rfl⟩

theorem ready_of_load (host : Host) {config : Config} {file : Option String}
    (load : Config.load session.tree options.config options.configRequired = .ok (config, file)) :
    (∃ fault, Collaborators.ofConfig host.env (override options config) = .error fault) ∨
      (∃ fault, discoverRead host.reading session.tree (override options config).testsDir
        (override options config).layout = .error fault) ∨
      Nonempty (Ready host options session) := by
  cases parse : Collaborators.ofConfig host.env (override options config) with
  | error fault => exact .inl ⟨fault, rfl⟩
  | ok collaborators =>
      cases discovery : discoverRead host.reading session.tree (override options config).testsDir
        (override options config).layout with
      | error fault => exact .inr (.inl ⟨fault, rfl⟩)
      | ok discovered =>
          exact .inr (.inr ⟨⟨config, file, collaborators, discovered, load, parse, discovery⟩⟩)

theorem ready_of_ok {summary : Summary}
    (completed : (execute host options session).1 = .ok summary) :
    Nonempty (Ready host options session) := by
  have fine : ∀ {stopped}, (execute host options session).1 ≠ .error stopped := by simp [completed]
  cases load : Config.load session.tree options.config options.configRequired with
  | error cause =>
      obtain ⟨stopped, erred⟩ := execute_unloaded host load
      exact (fine erred).elim
  | ok pair =>
      obtain ⟨config, file⟩ := pair
      rcases ready_of_load host load with unparsed | undiscovered | ready
      · obtain ⟨stopped, erred⟩ := execute_unready load (.inl unparsed)
        exact (fine erred).elim
      · obtain ⟨stopped, erred⟩ := execute_unready load (.inr undiscovered)
        exact (fine erred).elim
      · exact ready

theorem Ready.ends (ready : Ready host options session) :
    (∃ records, Finished ready.pipeline ready.selected ready.opening records ∧
        (execute host options session).1 =
          .ok (.ofRecords ready.selected.length records)) ∨
      ∃ earlier lap fault,
        Broken ready.pipeline ready.selected ready.opening earlier lap fault ∧
        execute host options session = (.error (ready.stopped lap fault), lap.finish) ∧
        lap.finish.deeds = session.deeds ++ ready.laps.flatMap (·.deeds) := by
  rw [execute_ready ready]
  rcases runCases_ends ready.pipeline ready.selected (.empty ready.selected.length)
      ready.opening with ⟨records, finished, ended⟩ | ⟨earlier, lap, fault, broken, ended⟩
  · refine .inl ⟨records, finished, ?_⟩
    have added : records.foldl Summary.add (.empty ready.selected.length) =
      .ofRecords ready.selected.length records := Summary.foldl_add _ [] records
    rw [added] at ended
    generalize runCases ready.pipeline ready.selected _ ready.opening = step at ended ⊢
    obtain ⟨result, after⟩ := step
    cases ended
    rfl
  · have deeds := laps_deeds ready.pipeline ready.selected (.empty ready.selected.length)
      ready.opening
    rw [ended, ready.opening_deeds] at deeds
    refine .inr ⟨earlier, lap, fault, broken, ?_, deeds⟩
    rw [ended]
    rfl

-- Every name has one record and one outcome.
structure TellsEach (summary : Summary) : Prop where
  once : (summary.records.map (·.name)).Nodup
  failures : summary.compileFailed.Nodup ∧ summary.runtimeMismatch.Nodup ∧
    summary.compileFailed.Disjoint summary.runtimeMismatch
  own : ∀ record ∈ summary.records, summary.outcomeOf? record.name = some record.outcome

structure Ready.Complete (ready : Ready host options session) (summary : Summary) : Prop where
  all : ready.laps.map (·.case) = ready.selected
  results : ready.laps.map (·.result) = summary.records.map .ok
  names : summary.records.map (·.name) = ready.selected.map (·.name)
  total : summary.total = ready.selected.length
  complete : summary.isComplete
  each : (ready.selected.map (·.name)).Nodup → TellsEach summary

theorem Ready.complete_of_finished (ready : Ready host options session) {records : List Record}
    (finished : Finished ready.pipeline ready.selected ready.opening records) :
    ready.Complete (.ofRecords ready.selected.length records) := by
  have names := finished.names
  have length : records.length = ready.selected.length := by
    simpa using congrArg List.length names
  refine ⟨finished.all, finished.results, names, rfl, ?_, fun apart => ?_⟩
  · rw [Summary.isComplete, Summary.recorded_ofRecords, length]
    exact beq_self_eq_true _
  · have once : (records.map (·.name)).Nodup := names ▸ apart
    refine ⟨once, ⟨?_, ?_, ?_⟩, ?_⟩
    · exact Summary.namesOf_nodup once
    · exact Summary.namesOf_nodup once
    · exact Summary.namesOf_disjoint once (by decide)
    · exact fun record member => Summary.outcomeOf_own once member

structure Ready.Aborted (ready : Ready host options session) (lap : Lap) (fault : Fault) :
    Prop where
  earlier : ∃ earlier, ready.laps = earlier ++ [lap] ∧
    ∀ before ∈ earlier, ∃ record, before.result = .ok record
  begun : ready.laps.map (·.case) <+: ready.selected
  ended : execute host options session = (.error (ready.stopped lap fault), lap.finish)
  deeds : lap.finish.deeds = session.deeds ++ ready.laps.flatMap (·.deeds)

theorem Ready.aborted (ready : Ready host options session) {lap : Lap} {fault : Fault}
    (member : lap ∈ ready.laps) (failed : lap.result = .error fault) :
    ready.Aborted lap fault := by
  rcases ready.ends with ⟨records, finished, _⟩ | ⟨earlier, last, fault', broken, ended, deeds⟩
  · have recorded : lap.result ∈ records.map .ok :=
      finished.results ▸ List.mem_map_of_mem member
    simp [failed] at recorded
  · have here : lap = last := by
      rw [Ready.laps, broken.last] at member
      rcases List.mem_append.mp member with before | here
      · obtain ⟨record, recorded⟩ := broken.recorded lap before
        rw [failed] at recorded
        cases recorded
      · exact List.mem_singleton.mp here
    subst here
    obtain rfl := Except.error.inj (failed.symm.trans broken.failed)
    exact ⟨⟨earlier, broken.last, broken.recorded⟩, laps_cases _ _ _, ended, deeds⟩

theorem execute_completes_or_aborts (host : Host) (options : RunOptions) (session : Session) :
    ((∃ stopped, (execute host options session).1 = .error stopped) ↔
      (∃ cause, Config.load session.tree options.config options.configRequired = .error cause) ∨
      (∃ config file,
        Config.load session.tree options.config options.configRequired = .ok (config, file) ∧
        ((∃ line ∈ (override options config).commandLines, Template.parse? host.env line = none) ∨
          ∃ fault, discoverRead host.reading session.tree (override options config).testsDir
            (override options config).layout = .error fault)) ∨
      ∃ ready : Ready host options session, ∃ lap ∈ ready.laps, ∃ fault,
        lap.result = .error fault) ∧
    (∀ summary, (execute host options session).1 = .ok summary →
      ∃ ready : Ready host options session, ready.Complete summary) ∧
    -- Names are told apart unless two directories have names with the same text.
    (∀ ready : Ready host options session, session.tree.Apart ready.config.testsDir →
      (ready.selected.map (·.name)).Nodup) ∧
    ∀ ready : Ready host options session, ∀ lap ∈ ready.laps,
      ready.pipeline.runCase lap.case lap.start = (lap.result, lap.finish) ∧
      ∀ fault, lap.result = .error fault → lap.case.Meets fault ∧ ready.Aborted lap fault := by
  refine ⟨⟨?_, ?_⟩, ?_, ?_, ?_⟩
  · rintro ⟨stopped, erred⟩
    cases load : Config.load session.tree options.config options.configRequired with
    | error cause => exact .inl ⟨cause, rfl⟩
    | ok pair =>
        obtain ⟨config, file⟩ := pair
        rcases ready_of_load host load with unparsed | undiscovered | ⟨⟨ready⟩⟩
        · exact .inr (.inl ⟨config, file, rfl, .inl (Collaborators.ofConfig_error.mp unparsed)⟩)
        · exact .inr (.inl ⟨config, file, rfl, .inr undiscovered⟩)
        · rcases ready.ends with ⟨records, _, ended⟩ | ⟨earlier, lap, fault, broken, _⟩
          · rw [ended] at erred
            cases erred
          · refine .inr (.inr ⟨ready, lap, ?_, fault, broken.failed⟩)
            rw [Ready.laps, broken.last]
            exact List.mem_append_right _ List.mem_cons_self
  · rintro (⟨cause, failed⟩ | ⟨config, file, load, unparsed | undiscovered⟩ |
      ⟨ready, lap, member, fault, failed⟩)
    · exact execute_unloaded host failed
    · exact execute_unready load (.inl (Collaborators.ofConfig_error.mpr unparsed))
    · exact execute_unready load (.inr undiscovered)
    · exact ⟨_, by rw [(ready.aborted member failed).ended]⟩
  · intro summary completed
    obtain ⟨ready⟩ := ready_of_ok completed
    rcases ready.ends with ⟨records, finished, ended⟩ | ⟨earlier, lap, fault, _, ended, _⟩
    · obtain rfl := Except.ok.inj (completed.symm.trans ended)
      exact ⟨ready, ready.complete_of_finished finished⟩
    · rw [ended] at completed
      cases completed
  · intro ready apart
    exact select_names (discover_names apart (discoverRead_ok ready.discovery))
  · intro ready lap member
    refine ⟨?_, fun fault failed => ⟨?_, ready.aborted member failed⟩⟩
    all_goals obtain ⟨case, before, rfl⟩ := mem_laps member
    · exact Lap.of_ran
    · have course := (Lap.of_course ready.pipeline case before).1
      rw [failed] at course
      exact course.meets

namespace Pair

def tree : FileTree where
  entries := [(["tests"], .directory), (["add", "tests"], .directory),
    (["test.in", "add", "tests"], .file (Text.utf8 "42") 420), (["mul", "tests"], .directory)]

def launch : Launcher := fun _ tree request =>
  match request.input with
  | .opened ("test.in" :: directory) =>
      .ended (.exited 0) [] (tree.put ("a.frisc" :: directory) (.file [] 420)) 1
  | _ => .ended (.exited 0) [] tree 1

def surroundings : Host where
  launch := launch
  env := {}

def diff : Template := ⟨"diff", ["\x7bactual\x7d", "\x7bexpected\x7d"]⟩

def collaborators : Collaborators where
  compiler := ⟨"python3", ["./FRISCGenerator.py", "\x7bprogram\x7d"]⟩
  vm := ⟨"node", ["vm/main.js"]⟩
  comparator := .external diff

theorem parse : Collaborators.ofConfig surroundings.env {} = .ok collaborators := by
  have compiler : Template.parse? {} ({} : Config).compiler = some collaborators.compiler := by
    decide +kernel
  have vm : Template.parse? {} ({} : Config).vm = some collaborators.vm := by decide +kernel
  have comparator : Template.parse? {} ({} : Config).diff = some diff := by decide +kernel
  have chosen : Config.usesBuiltin {} = false := by decide
  simp only [Collaborators.ofConfig, Collaborators.template, chosen, surroundings, compiler, vm,
    comparator]
  rfl

def ready : Ready surroundings {} { tree := tree } where
  loaded := {}
  file := none
  collaborators := collaborators
  discovered := [.ofDirectory "add" "tests/add" {}, .ofDirectory "mul" "tests/mul" {}]
  load := rfl
  parse := parse
  discovery := rfl

def summary : Summary where
  total := 2
  passed := 1
  compileFailed := ["mul"]
  records := [⟨"add", .passed, .ofParts 0 3000000⟩, ⟨"mul", .compileFailed, .ofParts 0 0⟩]

theorem ran : (runCases ready.pipeline ready.selected (.empty ready.selected.length)
    ready.opening).1.toOption = some summary := by decide +kernel

end Pair

theorem ran_of_cases (ready : Ready host options session) {summary : Summary}
    (ran : (runCases ready.pipeline ready.selected (.empty ready.selected.length)
      ready.opening).1.toOption = some summary) :
    (execute host options session).1 = .ok summary := by
  rw [execute_ready ready]
  generalize runCases ready.pipeline _ _ _ = step at ran ⊢
  obtain ⟨result, after⟩ := step
  cases result with
  | error cause => cases ran
  | ok summary =>
      cases ran
      rfl

theorem execute_completes_or_aborts_pair :
    Pair.tree.Distinct ∧ Pair.tree.Apart "tests" ∧
      (execute Pair.surroundings {} { tree := Pair.tree }).1 = .ok Pair.summary ∧
      ∃ ready : Ready Pair.surroundings {} { tree := Pair.tree }, ready.Complete Pair.summary := by
  have distinct : Pair.tree.Distinct := by decide
  have apart : Pair.tree.Apart "tests" := distinct.apart fun names listed => by
    cases listed
    decide
  have completed := ran_of_cases Pair.ready Pair.ran
  exact ⟨distinct, apart, completed,
    (execute_completes_or_aborts Pair.surroundings {} { tree := Pair.tree }).2.1 _ completed⟩

namespace Strays

-- Three directories whose names have one text. Only in the first is there anything to compile.
def tree : FileTree where
  entries := [(["tests"], .directory), ([Text.stray 0xFF, "tests"], .directory),
    (["test.in", Text.stray 0xFF, "tests"], .file (Text.utf8 "42") 420),
    ([Text.stray 0xFE, "tests"], .directory), ([Text.stray 0xFD, "tests"], .directory)]

def ready : Ready Pair.surroundings {} { tree := tree } where
  loaded := {}
  file := none
  collaborators := Pair.collaborators
  discovered := [0xFF, 0xFE, 0xFD].map fun byte =>
    .ofDirectory "a\uFFFD" ("tests/" ++ Text.stray byte) {}
  load := rfl
  parse := Pair.parse
  discovery := rfl

def summary : Summary where
  total := 3
  passed := 1
  compileFailed := ["a\uFFFD", "a\uFFFD"]
  records := [⟨"a\uFFFD", .passed, .ofParts 0 3000000⟩,
    ⟨"a\uFFFD", .compileFailed, .ofParts 0 0⟩, ⟨"a\uFFFD", .compileFailed, .ofParts 0 0⟩]

end Strays

-- The names of the directories are distinct, but those of the cases are not.
theorem stray_names_shared :
    Strays.tree.Distinct ∧
      (execute Pair.surroundings {} { tree := Strays.tree }).1 = .ok Strays.summary ∧
      ¬(Strays.summary.records.map (·.name)).Nodup ∧ ¬Strays.summary.compileFailed.Nodup ∧
      ∃ record ∈ Strays.summary.records,
        Strays.summary.outcomeOf? record.name ≠ some record.outcome :=
  ⟨by decide, ran_of_cases Strays.ready (by decide +kernel), by decide, by decide,
    ⟨"a\uFFFD", .compileFailed, .ofParts 0 0⟩, by decide, by decide⟩

end Run
end Acceptance
