import Acceptance.Proofs.OwnPaths
import Acceptance.Proofs.Presentation

namespace Acceptance

-- The summary at the end of a run. It knows the cases that did not pass by their names only, and
-- still suggests a command for the files of the very case that was discovered and run.

def Case.entry (case : Case) (template : String) (heading : String → String) : String :=
  heading case.name ++ "\n" ++ (Bindings.ofCase case).substitute template

-- What is told of a case depends on its directory only through what is told of that.
theorem Bindings.ofCase_told {name dir dir' : String} (same : Text.shown dir' = Text.shown dir)
    (layout : Layout) :
    ofCase (.ofDirectory name dir' layout) = ofCase (.ofDirectory name dir layout) := by
  refine List.map_congr_left fun placeholder _ => ?_
  have value : placeholder.value (.ofDirectory name dir' layout) =
      placeholder.value (.ofDirectory name dir layout) := by
    cases placeholder <;> simp only [Placeholder.value, Case.ofDirectory, Text.shown_join, same]
  rw [value]

namespace Hint

variable {tree : FileTree} {config : Config} {cases : List Case} {case : Case}

theorem command_name (found : discover tree config.testsDir config.layout = .ok cases)
    (member : case ∈ cases) :
    (ofConfig config).command case.name = (Bindings.ofCase case).substitute config.hint := by
  obtain ⟨name, rfl⟩ := Case.mem_discover found member
  have told : Text.shown (Path.join config.testsDir (Text.ofText (Text.shown name))) =
      Text.shown (Path.join config.testsDir name) := by
    rw [Text.shown_join, Text.shown_join, Text.shown_ofText]
  exact congrArg (·.substitute config.hint) (Bindings.ofCase_told told config.layout)

theorem lines_eq_entries (found : discover tree config.testsDir config.layout = .ok cases)
    {told : List Case} (known : told ⊆ cases) {locale : Locale} {outcome : Outcome}
    {heading : String → String}
    (headed : ∀ name, (ofConfig config).line? locale outcome name =
      some (heading name ++ "\n" ++ (ofConfig config).command name)) :
    (told.map (·.name)).filterMap ((ofConfig config).line? locale outcome) =
      told.map (·.entry config.hint heading) := by
  rw [List.filterMap_map, ← List.filterMap_eq_map]
  refine List.filterMap_congr fun case member => ?_
  show (ofConfig config).line? locale outcome case.name = _
  rw [headed, command_name found (known member)]
  rfl

end Hint

namespace Run

def Lap.outcome? (lap : Lap) : Option Outcome := lap.result.toOption.map (·.outcome)

def endedAs (outcome : Outcome) (taken : List Lap) : List Case :=
  (taken.filter (·.outcome? == some outcome)).map (·.case)

theorem namesOf_endedAs (outcome : Outcome) {taken : List Lap}
    (named : ∀ lap ∈ taken, ∀ record, lap.result = .ok record → record.name = lap.case.name) :
    Summary.namesOf outcome (taken.filterMap (·.result.toOption)) =
      (endedAs outcome taken).map (·.name) := by
  induction taken with
  | nil => rfl
  | cons lap taken ih =>
      have later := ih fun lap member => named lap (List.mem_cons_of_mem _ member)
      unfold Summary.namesOf endedAs at later ⊢
      cases result : lap.result with
      | error fault =>
          have none : lap.outcome? = none := by rw [Lap.outcome?, result]; rfl
          simpa [List.filterMap_cons, List.filter_cons, result, none, Except.toOption] using later
      | ok record =>
          have one : lap.outcome? = some record.outcome := by rw [Lap.outcome?, result]; rfl
          have name := named lap List.mem_cons_self record result
          by_cases same : record.outcome = outcome <;>
            simpa [List.filterMap_cons, List.filter_cons, result, one, same, name,
              Except.toOption] using later

variable {pipeline : Pipeline} {cases : List Case} {session : Session} {records : List Record}

theorem Finished.records_eq (finished : Finished pipeline cases session records) :
    (laps pipeline cases session).filterMap (·.result.toOption) = records := by
  have kept := congrArg (List.filterMap Except.toOption) finished.results
  rw [List.filterMap_map, List.filterMap_map] at kept
  exact kept.trans List.filterMap_some

theorem Finished.namesOf (finished : Finished pipeline cases session records) (outcome : Outcome) :
    Summary.namesOf outcome records =
      (endedAs outcome (laps pipeline cases session)).map (·.name) := by
  have names := namesOf_endedAs outcome fun lap (member : lap ∈ laps pipeline cases session)
    record => laps_named member
  rwa [finished.records_eq] at names

theorem Finished.endedAs_subset (finished : Finished pipeline cases session records)
    (outcome : Outcome) : endedAs outcome (laps pipeline cases session) ⊆ cases := by
  intro case member
  obtain ⟨lap, inside, rfl⟩ := List.mem_map.mp member
  rw [← finished.all]
  exact List.mem_map_of_mem (List.mem_filter.mp inside).1

theorem select_subset (options : RunOptions) (config : Config) (cases : List Case) :
    (select options config cases).selected ⊆ cases := by
  have ordered : (if config.sortCases then sortCases cases else cases) ⊆ cases := by
    split
    · exact (List.mergeSort_perm cases _).subset
    · exact List.Subset.refl _
  unfold select Selection.ofNames
  split
  · exact ordered
  · exact fun case member => ordered (List.mem_filter.mp member).1

variable {host : Host} {options : RunOptions} {summary : Summary}

theorem Ready.finished_of_ok (ready : Ready host options session)
    (completed : (execute host options session).1 = .ok summary) :
    ∃ records, Finished ready.pipeline ready.selected ready.opening records ∧
      summary = .ofRecords ready.selected.length records := by
  rcases ready.ends with ⟨records, finished, ended⟩ | ⟨_, lap, fault, _, ended, _⟩
  · exact ⟨records, finished, Except.ok.inj (completed.symm.trans ended)⟩
  · rw [ended] at completed
    cases completed

theorem Ready.ok_of_ran (ready : Ready host options session)
    (ran : (runCases ready.pipeline ready.selected (.empty ready.selected.length)
      ready.opening).1.toOption = some summary) :
    (execute host options session).1 = .ok summary := by
  rw [execute_ready ready]
  generalize runCases ready.pipeline ready.selected _ ready.opening = ended at ran ⊢
  obtain ⟨result, after⟩ := ended
  cases result with
  | error cause => cases ran
  | ok told =>
      cases ran
      rfl

theorem Ready.told_of_ok (ready : Ready host options session)
    (completed : (execute host options session).1 = .ok summary) :
    (execute host options session).2.blocks = ready.closing.blocks ++
      Report.shownSummary ready.shown (Hint.ofConfig ready.config) summary ++
      htmlBlocks ready.shown options.html := by
  rw [execute_ready ready] at completed ⊢
  unfold closing
  generalize runCases ready.pipeline ready.selected _ ready.opening = ended at completed ⊢
  obtain ⟨result, after⟩ := ended
  cases result with
  | error cause => cases completed
  | ok told =>
      cases completed
      exact (conclude_silent ..).2

def Ready.summaryLines (ready : Ready host options session) : List String :=
  let phrases := ready.shown.locale.phrases
  "" :: phrases.passedTotal (endedAs .passed ready.laps).length ready.selected.length ::
    ((endedAs .compileFailed ready.laps).map (·.entry ready.config.hint phrases.compileErrored) ++
      (endedAs .runtimeMismatch ready.laps).map (·.entry ready.config.hint phrases.runtimeWrong))

theorem Ready.summaryLines_eq (ready : Ready host options session)
    (finished : Finished ready.pipeline ready.selected ready.opening records) :
    Report.summaryLines ready.shown.locale (Hint.ofConfig ready.config)
      (.ofRecords ready.selected.length records) = ready.summaryLines := by
  have names : ∀ outcome, Summary.namesOf outcome records =
    (endedAs outcome ready.laps).map (·.name) := finished.namesOf
  have known : ∀ outcome, endedAs outcome ready.laps ⊆ ready.discovered :=
    fun outcome => List.Subset.trans (finished.endedAs_subset outcome) (select_subset _ _ _)
  have found : discover session.tree ready.config.testsDir ready.config.layout =
    .ok ready.discovered := discoverRead_ok ready.discovery
  have errored := Hint.lines_eq_entries found (known .compileFailed) fun name =>
    (rfl : (Hint.ofConfig ready.config).line? ready.shown.locale .compileFailed name = _)
  have differed := Hint.lines_eq_entries found (known .runtimeMismatch) fun name =>
    (rfl : (Hint.ofConfig ready.config).line? ready.shown.locale .runtimeMismatch name = _)
  unfold Report.summaryLines Summary.ofRecords
  simp only [names, errored, differed, List.length_map]
  rfl

theorem summary_tells_each_case (completed : (execute host options session).1 = .ok summary) :
    Nonempty (Ready host options session) ∧ ∀ ready : Ready host options session,
      ready.laps.map (·.case) = ready.selected ∧ ready.selected ⊆ ready.discovered ∧
      (∀ lap ∈ ready.laps,
        ready.pipeline.runCase lap.case lap.start = (lap.result, lap.finish)) ∧
      Report.summaryLines ready.shown.locale (Hint.ofConfig ready.config) summary =
        ready.summaryLines ∧
      (execute host options session).2.blocks = ready.closing.blocks ++
        Report.shownSummary ready.shown (Hint.ofConfig ready.config) summary ++
        htmlBlocks ready.shown options.html := by
  refine ⟨ready_of_ok completed, fun ready => ?_⟩
  obtain ⟨records, finished, rfl⟩ := ready.finished_of_ok completed
  refine ⟨finished.all, select_subset _ _ _, ?_, ready.summaryLines_eq finished,
    ready.told_of_ok completed⟩
  intro lap member
  obtain ⟨case, before, rfl⟩ := mem_laps member
  exact Lap.of_ran

theorem summary_tells_each_case_pair :
    (execute Pair.surroundings {} { tree := Pair.tree }).1 = .ok Pair.summary ∧
    endedAs .compileFailed Pair.ready.laps = [.ofDirectory "mul" "tests/mul" {}] ∧
    Report.summaryLines .english (Hint.ofConfig {}) Pair.summary =
      ["", "Passed 1 / 2 tests",
        "Compiler errored [mul] ->\nnr compiler:watch tests/mul/test.in"] := by
  have completed : (execute Pair.surroundings {} { tree := Pair.tree }).1 = .ok Pair.summary :=
    Pair.ready.ok_of_ran (by decide +kernel)
  have ended : [Outcome.passed, .compileFailed, .runtimeMismatch].map
      (endedAs · Pair.ready.laps) =
        [[.ofDirectory "add" "tests/add" {}], [.ofDirectory "mul" "tests/mul" {}], []] := by
    decide +kernel
  simp only [List.map_cons, List.map_nil, List.cons.injEq, and_true] at ended
  obtain ⟨passed, failed, differed⟩ := ended
  obtain ⟨_, _, _, lines, _⟩ := (summary_tells_each_case completed).2 Pair.ready
  refine ⟨completed, failed, lines.trans ?_⟩
  rw [Ready.summaryLines, failed, passed, differed]
  decide +kernel

end Run
end Acceptance
