import Acceptance.Proofs.CaseFiles

namespace Acceptance

open Text (Bytes)

-- When a case passes. The files of a case are taken as a map from paths to contents, and the
-- compiler and the machine as functions that may do anything but write the expected output or
-- reach past the machine's standard output.

-- The files that running a case has to do with stand for themselves.
structure Case.Ordinary (case : Case) (tree : FileTree) : Prop where
  input : tree.isOrdinary case.input
  expected : tree.isOrdinary case.expected
  program : tree.isOrdinary case.program
  output : tree.isOrdinary case.actualOutput
  diagnostics : tree.isOrdinary case.actualDiagnostics

theorem Case.Ordinary.changes {case : Case} {place : Place} {before after : FileTree}
    (ordinary : case.Ordinary before) (change : FileTree.ChangesAt place before after) :
    case.Ordinary after where
  input := change.ordinary ordinary.input
  expected := change.ordinary ordinary.expected
  program := change.ordinary ordinary.program
  output := change.ordinary ordinary.output
  diagnostics := change.ordinary ordinary.diagnostics

-- The files of the case stay files with one name each, and what is expected stays. This is asked
-- where the files stand for themselves: through a link any writing could reach what is expected.
structure Case.Spares (case : Case) (before after : FileTree) : Prop where
  ordinary : case.Ordinary before → case.Ordinary after
  expected : case.Ordinary before →
    (after.read case.expected).toOption = (before.read case.expected).toOption

theorem Case.Spares.read {case : Case} {before after : FileTree} {bytes : Bytes}
    (spares : case.Spares before after) (ordinary : case.Ordinary before) :
    after.read case.expected = .ok bytes ↔ before.read case.expected = .ok bytes := by
  rw [← toOption_eq_some, spares.expected ordinary, toOption_eq_some]

theorem FileTree.read_input {path : String} {tree : FileTree} {spot : Place}
    (file : tree.isFile path) (found : tree.locate path = .ok spot) :
    tree.read path = .ok (tree.inputOf (.opened spot)) := by
  obtain ⟨content, mode, seen⟩ := isFile_iff.mp file
  obtain ⟨place, located, present⟩ := status_eq_ok.mp seen
  cases found.symm.trans located
  exact read_eq_ok.mpr ⟨_, seen, by simp [inputOf, present, Entry.bytes?]⟩

theorem FileTree.sameContent_iff {tree : FileTree} {left right : String} {bytes : Bytes}
    (found : tree.read left = .ok bytes) :
    tree.sameContent left right ↔ tree.read right = .ok bytes := by
  unfold sameContent
  rw [found]
  cases tree.read right with
  | error cause => simp
  | ok other => simpa using eq_comm

theorem Case.Spares.refl (case : Case) (tree : FileTree) : case.Spares tree tree := ⟨id, fun _ => rfl⟩

theorem Case.Spares.of_program {case : Case} {layout : Layout} {before after : FileTree}
    {bytes : Bytes} (told : case.LaidOut layout)
    (written : before.write case.program bytes = .ok after) : case.Spares before after := by
  obtain ⟨_, differ, _⟩ := told.1.apart
  have changed : case.Ordinary before → ∃ place, before.site? case.program = some place ∧
      FileTree.ChangesAt place before after :=
    fun ordinary => FileTree.write_ordinary told.program ordinary.program written
  constructor
  · intro ordinary
    obtain ⟨place, _, change⟩ := changed ordinary
    exact ordinary.changes change
  · intro ordinary
    obtain ⟨place, site, change⟩ := changed ordinary
    have alike := change.alike told.expected told.program differ site ordinary.expected
    apply Option.ext
    intro content
    rw [toOption_eq_some, toOption_eq_some]
    exact alike.read

namespace Pipeline

variable (behaviour : Behaviour) (pipeline : Pipeline) (case : Case)

-- The compiler gets the bytes of the input while nothing is found under the name of the program,
-- exits with 0 and leaves a program.
def Builds (tree built : FileTree) : Prop :=
  ∃ cleared place pieces elapsed,
    tree.removeStale case.program = .ok cleared ∧ cleared.pathExists case.program = false ∧
    tree.locate case.input = .ok place ∧
    behaviour.answer pipeline.bound pipeline.collaborators.compiler case
        (tree.inputOf (.opened place)) cleared = .ended (.exited 0) pieces built elapsed ∧
    built.isFile case.program

-- The machine gets the bytes of the program once both artifacts have been made. How it ends does
-- not matter.
def Prints (built : FileTree) (bytes : Bytes) : Prop :=
  ∃ code output diagnostics first opened completion pieces after elapsed,
    built.read case.program = .ok code ∧
    built.create case.actualOutput = .ok (output, first) ∧
    first.create case.actualDiagnostics = .ok (diagnostics, opened) ∧
    behaviour.answer pipeline.bound pipeline.collaborators.vm case code opened =
      .ended completion pieces after elapsed ∧
    printed .output pieces = bytes

variable {behaviour pipeline case} {layout : Layout} {tree cleared built first opened
  after : FileTree} {output diagnostics : Place} {bytes : Bytes}

theorem removed_program (told : case.LaidOut layout) (ordinary : case.Ordinary tree)
    (removed : tree.removeStale case.program = .ok cleared) :
    case.Ordinary cleared ∧ FileTree.Alike case.input tree cleared ∧
      FileTree.Alike case.expected tree cleared := by
  obtain ⟨inputProgram, expectedProgram, _⟩ := told.1.apart
  rcases FileTree.removeStale_changes told.program ordinary.program removed with
    rfl | ⟨place, site, change⟩
  · exact ⟨ordinary, .refl _ _, .refl _ _⟩
  · exact ⟨ordinary.changes change,
      change.alike told.input told.program inputProgram site ordinary.input,
      change.alike told.expected told.program expectedProgram site ordinary.expected⟩

theorem compiled_iff_builds (launched : pipeline.launch = .ofBehaviour behaviour)
    (told : case.LaidOut layout) (ordinary : case.Ordinary tree) :
    (∃ deeds, Compiling pipeline case tree deeds .compiled built) ↔
      Builds behaviour pipeline case tree built := by
  constructor
  · rintro ⟨deeds, compiling⟩
    obtain ⟨cleared, input, collected, elapsed, removed, found, ran, file⟩ := compiling.compiled
    obtain ⟨pieces, answer⟩ := (compiler_ended launched).mp ⟨collected, ran⟩
    obtain ⟨_, alike, _⟩ := removed_program told ordinary removed
    have located := (alike.locate input).mp found
    rw [alike.input located] at answer
    exact ⟨cleared, input, pieces, elapsed, removed,
      FileTree.removeStale_missing told.program ordinary.program removed, located, answer, file⟩
  · rintro ⟨cleared, input, pieces, elapsed, removed, _, located, answer, file⟩
    obtain ⟨_, alike, _⟩ := removed_program told ordinary removed
    rw [← alike.input located] at answer
    obtain ⟨collected, ran⟩ := (compiler_ended launched).mpr ⟨pieces, answer⟩
    have compiling := Compiling.ended removed ((alike.locate input).mpr located) ran
    rw [compileResult_compiled.mpr ⟨rfl, file⟩] at compiling
    exact ⟨_, compiling⟩

structure Opened (case : Case) (output diagnostics : Place) (built opened : FileTree) : Prop where
  ordinary : case.Ordinary opened
  program : FileTree.Alike case.program built opened
  expected : FileTree.Alike case.expected built opened
  outputSite : opened.site? case.actualOutput = some output
  diagnosticsSite : opened.site? case.actualDiagnostics = some diagnostics
  blank : ∃ mode, opened.entry? output = some (.file [] mode)

theorem opened_artifacts (told : case.LaidOut layout) (ordinary : case.Ordinary built)
    (made : built.create case.actualOutput = .ok (output, first))
    (madeToo : first.create case.actualDiagnostics = .ok (diagnostics, opened)) :
    Opened case output diagnostics built opened := by
  obtain ⟨_, _, programOutput, programDiagnostics, expectedOutput, expectedDiagnostics, _⟩ :=
    told.1.apart
  obtain ⟨site, change, _⟩ := FileTree.create_ordinary told.output ordinary.output made
  have fair := ordinary.changes change
  obtain ⟨site', change', _⟩ :=
    FileTree.create_ordinary told.diagnostics fair.diagnostics madeToo
  obtain ⟨outputSite, diagnosticsSite, blank, _⟩ :=
    told.blank_artifacts ordinary.output ordinary.diagnostics made madeToo
  refine ⟨fair.changes change', ?_, ?_, outputSite, diagnosticsSite, blank⟩
  · exact (change.alike told.program told.output programOutput site ordinary.program).trans
      (change'.alike told.program told.diagnostics programDiagnostics site' fair.program)
  · exact (change.alike told.expected told.output expectedOutput site ordinary.expected).trans
      (change'.alike told.expected told.diagnostics expectedDiagnostics site' fair.expected)

-- What is printed arrives in the output file, and what is expected stays.
theorem delivered_artifacts {pieces : List (Stream × Bytes)}
    (told : case.LaidOut layout) (ready : Opened case output diagnostics built opened)
    (spares : case.Spares opened after) (leaves : FileTree.Leaves case.actualOutput opened after) :
    let ran := (sinks output diagnostics).deliver pieces after
    ran.read case.actualOutput = .ok (printed .output pieces) ∧
      FileTree.Alike case.expected after ran := by
  intro ran
  obtain ⟨_, _, _, _, expectedOutput, expectedDiagnostics, differ⟩ := told.1.apart
  have ordinary := spares.ordinary ready.ordinary
  have siteOut : after.site? case.actualOutput = some output := leaves.site.trans ready.outputSite
  have siteErr := told.diagnostics_stay ready.outputSite ready.diagnosticsSite siteOut
  have aloneOut := (FileTree.isOrdinary_iff.mp ordinary.output output siteOut).1
  have aloneErr := (FileTree.isOrdinary_iff.mp ordinary.diagnostics diagnostics siteErr).1
  have ways : FileTree.SameWays after ran := by
    apply Sinks.deliver_ways
    intro stream place connected _
    cases stream with
    | output => cases connected; exact aloneOut
    | diagnostics => cases connected; exact aloneErr
  constructor
  · obtain ⟨mode, blank⟩ := ready.blank
    have present : ran.entry? output = some (.file (printed .output pieces) mode) := by
      refine Sinks.deliver_own rfl ?_ aloneOut
        ((leaves.entry output ready.outputSite).trans blank) rfl
      intro stream other connected
      cases stream with
      | output => exact other rfl
      | diagnostics =>
          cases connected
          exact FileTree.sites_differ told.output told.diagnostics differ siteOut siteErr rfl
    have located := FileTree.locate_straight told.output ((ways.site _).symm.trans siteOut)
      (by simp [FileTree.NotLink, present]) (by simp [present])
    exact FileTree.read_eq_ok.mpr ⟨_, FileTree.status_eq_ok.mpr ⟨output, located, present⟩, rfl⟩
  · refine ways.alike fun spot lead => ?_
    rw [FileTree.lead_ordinary told.expected ordinary.expected] at lead
    have alone := (FileTree.isOrdinary_iff.mp ordinary.expected spot lead).1
    refine Sinks.deliver_other fun stream place connected => FileTree.not_mem_twins alone ?_
    cases stream with
    | output =>
        cases connected
        exact FileTree.sites_differ told.expected told.output expectedOutput lead siteOut
    | diagnostics =>
        cases connected
        exact FileTree.sites_differ told.expected told.diagnostics expectedDiagnostics lead siteErr

theorem matches_iff_prints (launched : pipeline.launch = .ofBehaviour behaviour)
    (told : case.LaidOut layout) (ordinary : case.Ordinary built) (file : built.isFile case.program)
    (machine : behaviour.Keeps pipeline.bound pipeline.collaborators.vm case fun before after =>
      case.Spares before after ∧
        (case.Ordinary before → FileTree.Leaves case.actualOutput before after)) :
    (∃ deeds completion ran, Executing pipeline case built deeds (.ok completion) ran ∧
        ran.sameContent case.actualOutput case.expected) ↔
      ∃ bytes, Prints behaviour pipeline case built bytes ∧
        built.read case.expected = .ok bytes := by
  constructor
  · rintro ⟨deeds, completion, ran, executing, same⟩
    cases executing with
    | ended found made madeToo ran =>
        obtain ⟨pieces, own, answer, rfl⟩ := (machine_ended launched).mp ⟨_, ran⟩
        have ready := opened_artifacts told ordinary made madeToo
        obtain ⟨spares, leaves⟩ := machine _ _ _ _ _ _ answer
        obtain ⟨written, kept⟩ := delivered_artifacts told ready spares (leaves ready.ordinary)
        rw [FileTree.sameContent_iff written, kept.read] at same
        rw [ready.program.input found] at answer
        exact ⟨_, ⟨_, _, _, _, _, _, _, _, _, FileTree.read_input file found, made, madeToo,
          answer, rfl⟩, ready.expected.read.mp ((spares.read ready.ordinary).mp same)⟩
  · rintro ⟨bytes, ⟨code, output, diagnostics, first, opened, completion, pieces, after, elapsed,
      coded, made, madeToo, answer, rfl⟩, expected⟩
    obtain ⟨content, mode, seen⟩ := FileTree.isFile_iff.mp file
    obtain ⟨program, found, _⟩ := FileTree.status_eq_ok.mp seen
    have ready := opened_artifacts told ordinary made madeToo
    obtain ⟨spares, leaves⟩ := machine _ _ _ _ _ _ answer
    cases coded.symm.trans (FileTree.read_input file found)
    rw [← ready.program.input found] at answer
    obtain ⟨collected, ran⟩ := (machine_ended launched).mpr ⟨pieces, after, answer, rfl⟩
    obtain ⟨written, kept⟩ := delivered_artifacts told ready spares (leaves ready.ordinary)
    refine ⟨_, _, _, .ended found made madeToo ran, ?_⟩
    rw [FileTree.sameContent_iff written, kept.read]
    exact (spares.read ready.ordinary).mpr (ready.expected.read.mpr expected)

theorem passed_iff_builds_and_prints (behaviour : Behaviour) (pipeline : Pipeline) (case : Case)
    (layout : Layout) (session : Session) (launched : pipeline.launch = .ofBehaviour behaviour)
    (chosen : pipeline.collaborators.comparator = .builtin) (told : case.LaidOut layout)
    (ordinary : case.Ordinary session.tree)
    (compiler :
      behaviour.Keeps pipeline.bound pipeline.collaborators.compiler case case.Spares)
    (machine : behaviour.Keeps pipeline.bound pipeline.collaborators.vm case fun before after =>
      case.Spares before after ∧
        (case.Ordinary before → FileTree.Leaves case.actualOutput before after)) :
    pipeline.verdict case session = .ok .passed ↔
      ∃ built bytes, Builds behaviour pipeline case session.tree built ∧
        Prints behaviour pipeline case built bytes ∧
        session.tree.read case.expected = .ok bytes := by
  have kept : ∀ {built}, Builds behaviour pipeline case session.tree built →
      case.Ordinary built ∧ built.isFile case.program ∧ ∀ bytes,
        built.read case.expected = .ok bytes ↔ session.tree.read case.expected = .ok bytes := by
    rintro built ⟨cleared, place, pieces, elapsed, removed, _, _, answer, file⟩
    obtain ⟨fair, _, alike⟩ := removed_program told ordinary removed
    have spares := compiler _ _ _ _ _ _ answer
    exact ⟨spares.ordinary fair, file, fun bytes => (spares.read fair).trans alike.read⟩
  constructor
  · intro passed
    obtain ⟨deeds, course, _⟩ := runCase_course pipeline case session
    rw [passed] at course
    cases course with
    | compared compiling executing comparing =>
        have builds := (compiled_iff_builds launched told ordinary).mp ⟨_, compiling⟩
        obtain ⟨fair, file, expected⟩ := kept builds
        obtain ⟨bytes, prints, found⟩ := (matches_iff_prints launched told fair file machine).mp
          ⟨_, _, _, executing, comparing.same chosen⟩
        exact ⟨_, bytes, builds, prints, (expected bytes).mp found⟩
  · rintro ⟨built, bytes, builds, prints, found⟩
    obtain ⟨fair, file, expected⟩ := kept builds
    obtain ⟨first, compiling⟩ := (compiled_iff_builds launched told ordinary).mpr builds
    obtain ⟨second, completion, ran, executing, same⟩ :=
      (matches_iff_prints launched told fair file machine).mpr
        ⟨bytes, prints, (expected bytes).mpr found⟩
    exact (Course.compared compiling executing (.passed chosen same)).taken.1

end Pipeline

-- A compiler that copies its input to its program wherever that can be written, and a machine that
-- prints its program piece by piece and then has to be stopped. An earlier run left a program and
-- an output.
namespace Copying

def case : Case := .ofDirectory "add" "tests/add" {}

theorem told : case.LaidOut {} := ⟨by decide, _, _, rfl⟩

def left : FileTree where
  entries := [(["tests"], .directory), (["add", "tests"], .directory),
    (["test.in", "add", "tests"], .file (Text.utf8 "42") 420),
    (["test.out", "add", "tests"], .file (Text.utf8 "42") 420),
    (["a.frisc", "add", "tests"], .file (Text.utf8 "41") 420),
    (["my.out", "add", "tests"], .file (Text.utf8 "411") 420)]

def compiled (tree : FileTree) : Except IoError FileTree → Reply
  | .ok after => .ended (.exited 0) [] after 12
  | .error _ => .ended (.exited 1) [] tree 12

def behaviour : Behaviour := fun _ tree program _ input =>
  if program = "machine" then
    .ended .timedOut [(.output, input.take 1), (.diagnostics, input), (.output, input.drop 1)] tree
      5000
  else compiled tree (tree.write case.program input)

def pipeline : Pipeline where
  launch := .ofBehaviour behaviour
  collaborators := ⟨⟨"compiler", []⟩, ⟨"machine", []⟩, .builtin⟩
  bound := some 5000

end Copying

theorem Pipeline.passed_iff_builds_and_prints_copying :
    Copying.pipeline.verdict Copying.case { tree := Copying.left } = .ok .passed ∧
      ∃ built bytes,
        Builds Copying.behaviour Copying.pipeline Copying.case Copying.left built ∧
        Prints Copying.behaviour Copying.pipeline Copying.case built bytes ∧
        Copying.left.read Copying.case.expected = .ok bytes := by
  have passed : Copying.pipeline.verdict Copying.case { tree := Copying.left } = .ok .passed := rfl
  refine ⟨passed, (passed_iff_builds_and_prints Copying.behaviour Copying.pipeline Copying.case {}
    { tree := Copying.left } rfl rfl Copying.told ?_ ?_ ?_).mp passed⟩
  · exact ⟨by decide, by decide, by decide, by decide, by decide⟩
  · intro before input completion pieces after elapsed answer
    have compiled : Copying.compiled before (before.write Copying.case.program input) =
      .ended completion pieces after elapsed := answer
    cases written : before.write Copying.case.program input with
    | ok tree =>
        rw [written] at compiled
        cases compiled
        exact .of_program Copying.told written
    | error cause =>
        rw [written] at compiled
        cases compiled
        exact .refl _ _
  · intro before input completion pieces after elapsed answer
    cases answer
    exact ⟨.refl _ _, fun _ => .refl _ _⟩

end Acceptance
