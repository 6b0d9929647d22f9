import Acceptance.Proofs.CaseFiles
import Acceptance.Proofs.ShownNames
import Acceptance.Proofs.Substitution

namespace Acceptance

open Command (Template)

namespace FileTree

-- The comparison without another program and the comparison by one.

variable {tree : FileTree} {path actual expected : String}

theorem sameContent_true : tree.sameContent actual expected ↔
    ∃ bytes, tree.read actual = .ok bytes ∧ tree.read expected = .ok bytes := by
  unfold sameContent
  cases tree.read actual with
  | error cause => simp
  | ok bytes =>
      cases tree.read expected with
      | error cause => simp
      | ok other =>
          simp only [beq_iff_eq, Except.ok.injEq]
          constructor
          · intro same
            exact ⟨bytes, rfl, same.symm⟩
          · rintro ⟨common, left, right⟩
            exact left.trans right.symm

theorem read_directory (directory : tree.isDirectory path) :
    tree.read path = .error .isDirectory := by
  unfold isDirectory at directory
  unfold read
  split at directory
  · rename_i seen
    rw [seen]
    rfl
  · cases directory

-- What is expected cannot be read, or one of the two texts has one more line end than the other.
inductive Unlike (tree : FileTree) (actual expected : String) : Prop where
  | unreadable {cause : IoError} (lost : tree.read expected = .error cause)
  | directory (directory : tree.isDirectory expected)
  | unended {bytes : Text.Bytes} (found : tree.read actual = .ok bytes)
      (wanted : tree.read expected = .ok (bytes ++ Text.utf8 "\n"))
  | ended {bytes : Text.Bytes} (found : tree.read actual = .ok (bytes ++ Text.utf8 "\n"))
      (wanted : tree.read expected = .ok bytes)

theorem Unlike.differ (unlike : tree.Unlike actual expected) :
    tree.sameContent actual expected = false := by
  rw [← Bool.not_eq_true, sameContent_true]
  rintro ⟨same, left, right⟩
  have longer : ∀ bytes, bytes ≠ bytes ++ Text.utf8 "\n" := by
    intro bytes equal
    have lengths := congrArg List.length equal
    have one : (Text.utf8 "\n").length = 1 := by decide
    simp [one] at lengths
  cases unlike with
  | unreadable lost => cases right.symm.trans lost
  | directory directory => cases right.symm.trans (read_directory directory)
  | unended found wanted =>
      cases left.symm.trans found
      exact longer _ (Except.ok.inj (right.symm.trans wanted))
  | ended found wanted =>
      cases right.symm.trans wanted
      exact longer _ (Except.ok.inj (left.symm.trans found))

end FileTree

-- Given two paths, the program starts, leaves the tree as it is, and exits with 0 exactly if both
-- files can be read and have the same bytes.
def Launcher.Compares (launch : Launcher) (bound : Option Nat) (program : String)
    (tree : FileTree) (one other : String) : Prop :=
  ∃ completion collected elapsed,
    launch bound tree { program, arguments := [one, other] } =
      .ended completion collected tree elapsed ∧
    (completion = .exited 0 ↔ ∃ bytes, tree.read (Text.ofText one) = .ok bytes ∧
      tree.read (Text.ofText other) = .ok bytes)

namespace Comparator

def diffLine : String := "diff \x7bactual\x7d \x7bexpected\x7d"

def diffTemplate : Template where
  program := "diff"
  arguments := [Placeholder.actual.key, Placeholder.expected.key]

theorem parse_diffLine (env : Environment) :
    Template.parse? env diffLine = some diffTemplate := by
  have words : Command.split? diffLine.toList = some (("diff" :: diffTemplate.arguments).map
      String.toList) := by decide
  have expanded : Command.expand? env "diff".toList = some "diff".toList := by
    simp [Command.expand?, Command.expandVariables?, Command.expandTilde]
  unfold Template.parse?
  rw [words, List.map_cons]
  simp only [expanded, Option.map_some, List.map_map]
  decide

theorem ofConfig_diffLine (env : Environment) (config : Config) :
    Collaborators.ofConfig env { config with diff := diffLine } = (do
      let compiler ← Collaborators.template env .compile config.compiler
      let vm ← Collaborators.template env .execute config.vm
      return { compiler, vm, comparator := .external diffTemplate }) := by
  have external : Config.usesBuiltin { config with diff := diffLine } = false := by
    show (Text.trim diffLine.toList == Config.builtinComparator.toList) = false
    decide
  have parsed : Collaborators.template env .diff diffLine = .ok diffTemplate := by
    rw [Collaborators.template, parse_diffLine]
  unfold Collaborators.ofConfig
  rw [external]
  simp only [parsed]
  rfl

theorem ofConfig_builtin (env : Environment) (config : Config) :
    Collaborators.ofConfig env { config with diff := Config.builtinComparator } = (do
      let compiler ← Collaborators.template env .compile config.compiler
      let vm ← Collaborators.template env .execute config.vm
      return { compiler, vm, comparator := .builtin }) := by
  have builtin : Config.usesBuiltin { config with diff := Config.builtinComparator } = true := by
    show (Text.trim Config.builtinComparator.toList == Config.builtinComparator.toList) = true
    decide
  unfold Collaborators.ofConfig
  rw [builtin]
  rfl

end Comparator

structure Case.Unbraced (name dir : String) (layout : Layout) : Prop where
  name : '\x7b' ∉ name.toList ∧ '\x7d' ∉ name.toList
  dir : '\x7b' ∉ dir.toList ∧ '\x7d' ∉ dir.toList
  files : ∀ file ∈ layout.names, '\x7b' ∉ file.toList ∧ '\x7d' ∉ file.toList

theorem Case.Unbraced.path {name dir file : String} {layout : Layout}
    (unbraced : Case.Unbraced name dir layout) (member : file ∈ layout.names) :
    '\x7b' ∉ (Path.join dir file).toList := by
  intro brace
  rcases Path.mem_join brace with inside | slash | inside
  · exact unbraced.dir.1 inside
  · exact absurd slash (by decide)
  · exact (unbraced.files file member).1 inside

-- Whatever blanks and quotes stand in them, the texts of the two paths are the two arguments.
theorem Comparator.fill_diffTemplate {name dir : String} {layout : Layout}
    (unbraced : Case.Unbraced name dir layout) :
    Comparator.diffTemplate.fill (Bindings.ofCase (.ofDirectory name dir layout)) =
      [Text.shown (Path.join dir layout.actualOutput),
        Text.shown (Path.join dir layout.expected)] := by
  have actual : '\x7b' ∉ (Text.shown (Path.join dir layout.actualOutput)).toList := by
    rw [Text.mem_shown (by decide)]
    exact unbraced.path (by simp [Layout.names])
  have expected : '\x7b' ∉ (Text.shown (Path.join dir layout.expected)).toList := by
    rw [Text.mem_shown (by decide)]
    exact unbraced.path (by simp [Layout.names])
  have filled := Bindings.substitute_key (.ofDirectory name dir layout) .actual actual
  have filledToo := Bindings.substitute_key (.ofDirectory name dir layout) .expected expected
  simp only [Template.fill, diffTemplate, List.map_cons, List.map_nil, filled, filledToo]
  rfl

namespace Pipeline

variable {pipeline : Pipeline} {case : Case} {session built ran : Session}

theorem verdict_of_failed {reason : CompileFailure} {output : String}
    (failed : pipeline.compile case session = (.failed reason output, built)) :
    pipeline.verdict case session = .ok .compileFailed := by
  rw [verdict_eq]
  unfold classify
  rw [failed]

theorem verdict_of_faulted {fault : Fault}
    (compiled : pipeline.compile case session = (.compiled, built))
    (faulted : pipeline.execute case built = (.error fault, ran)) :
    pipeline.verdict case session = .error fault := by
  rw [verdict_eq]
  unfold classify finish
  rw [compiled]
  simp only [faulted]

theorem verdict_of_executed {completion : Completion}
    (compiled : pipeline.compile case session = (.compiled, built))
    (executed : pipeline.execute case built = (.ok completion, ran)) :
    pipeline.verdict case session = (pipeline.compare case ran).1 := by
  rw [verdict_eq]
  unfold classify finish
  rw [compiled]
  simp only [executed]
  generalize pipeline.compare case ran = compared
  obtain ⟨verdict, last⟩ := compared
  cases verdict <;> rfl

def withComparator (pipeline : Pipeline) (comparator : Comparator) : Pipeline :=
  { pipeline with collaborators := { pipeline.collaborators with comparator } }

section Unasked

-- The comparator has no part in what happens before it is asked.
variable (pipeline : Pipeline) (case : Case) (session : Session) (comparator : Comparator)

theorem startCompiler_withComparator (input : Place) :
    (pipeline.withComparator comparator).startCompiler case input session =
      pipeline.startCompiler case input session := by
  rw [startCompiler_eq, startCompiler_eq]
  rfl

theorem compile_withComparator :
    (pipeline.withComparator comparator).compile case session = pipeline.compile case session := by
  unfold compile
  simp only [startCompiler_withComparator]

theorem startMachine_withComparator (program output diagnostics : Place) :
    (pipeline.withComparator comparator).startMachine case program output diagnostics session =
      pipeline.startMachine case program output diagnostics session := by
  rw [startMachine_eq, startMachine_eq]
  rfl

theorem execute_withComparator :
    (pipeline.withComparator comparator).execute case session = pipeline.execute case session := by
  unfold execute
  simp only [startMachine_withComparator]

end Unasked

-- The tree in which a comparator is asked: the case compiled and its program ran.
def Reaches (pipeline : Pipeline) (case : Case) (session ran : Session) : Prop :=
  ∃ built completion, pipeline.compile case session = (.compiled, built) ∧
    pipeline.execute case built = (.ok completion, ran)

theorem reaches_withComparator (comparator : Comparator) :
    (pipeline.withComparator comparator).Reaches case session ran ↔
      pipeline.Reaches case session ran := by
  simp only [Reaches, compile_withComparator, execute_withComparator]

theorem verdict_of_reached (reached : pipeline.Reaches case session ran) :
    pipeline.verdict case session = (pipeline.compare case ran).1 := by
  obtain ⟨built, completion, compiled, executed⟩ := reached
  exact verdict_of_executed compiled executed

theorem verdict_withComparator {one other : Comparator}
    (alike : ∀ ran, pipeline.Reaches case session ran →
      ((pipeline.withComparator one).compare case ran).1 =
        ((pipeline.withComparator other).compare case ran).1) :
    (pipeline.withComparator one).verdict case session =
      (pipeline.withComparator other).verdict case session := by
  have first := compile_withComparator pipeline case session
  rcases compiled : pipeline.compile case session with ⟨status, built⟩
  rw [compiled] at first
  cases status with
  | failed reason output =>
      rw [verdict_of_failed (first one), verdict_of_failed (first other)]
  | compiled =>
      have second := execute_withComparator pipeline case built
      rcases executed : pipeline.execute case built with ⟨result, ran⟩
      rw [executed] at second
      cases result with
      | error fault =>
          rw [verdict_of_faulted (first one) (second one),
            verdict_of_faulted (first other) (second other)]
      | ok completion =>
          rw [verdict_of_executed (first one) (second one),
            verdict_of_executed (first other) (second other),
            alike ran ⟨built, completion, compiled, executed⟩]

theorem compare_builtin (chosen : pipeline.collaborators.comparator = .builtin)
    (session : Session) : (pipeline.compare case session).1 =
      .ok (outcomeOf (session.tree.sameContent case.actualOutput case.expected)) := by
  rw [compare, chosen]

theorem compare_diff {name dir : String} {layout : Layout}
    (unbraced : Case.Unbraced name dir layout)
    (texts : Text.isText (Path.join dir layout.actualOutput) ∧
      Text.isText (Path.join dir layout.expected))
    (chosen : pipeline.collaborators.comparator = .external Comparator.diffTemplate)
    (compares : pipeline.launch.Compares pipeline.bound "diff" session.tree
      (Text.shown (Path.join dir layout.actualOutput))
      (Text.shown (Path.join dir layout.expected))) :
    (pipeline.compare (.ofDirectory name dir layout) session).1 =
      .ok (outcomeOf (session.tree.sameContent (Path.join dir layout.actualOutput)
        (Path.join dir layout.expected))) := by
  obtain ⟨completion, collected, elapsed, answer, exited⟩ := compares
  rw [eq_of_beq texts.1, eq_of_beq texts.2] at exited
  have asked : request Comparator.diffTemplate (.ofDirectory name dir layout) =
      { program := "diff",
        arguments := [Text.shown (Path.join dir layout.actualOutput),
          Text.shown (Path.join dir layout.expected)] } := by
    rw [request, Comparator.fill_diffTemplate unbraced]
    rfl
  have success : completion.isSuccess = session.tree.sameContent
      (Path.join dir layout.actualOutput) (Path.join dir layout.expected) := by
    rw [Bool.eq_iff_iff, FileTree.sameContent_true, ← exited]
    simp [Completion.isSuccess]
  obtain ⟨deeds, comparing, _⟩ :=
    compare_course pipeline (.ofDirectory name dir layout) session
  rw [← success]
  exact (comparing.unique (.ended chosen (asked ▸ answer))).2.1

def configured (pipeline : Pipeline) (env : Environment) (config : Config) (line : String) :
    Except Fault Pipeline :=
  (Collaborators.ofConfig env { config with diff := line }).map fun collaborators =>
    { pipeline with collaborators }

theorem configured_cases (pipeline : Pipeline) (env : Environment) (config : Config) :
    (∃ fault, pipeline.configured env config Comparator.diffLine = .error fault ∧
      pipeline.configured env config Config.builtinComparator = .error fault) ∨
    ∃ own : Pipeline, own.launch = pipeline.launch ∧ own.bound = pipeline.bound ∧
      pipeline.configured env config Comparator.diffLine =
        .ok (own.withComparator (.external Comparator.diffTemplate)) ∧
      pipeline.configured env config Config.builtinComparator =
        .ok (own.withComparator .builtin) := by
  unfold configured
  rw [Comparator.ofConfig_diffLine, Comparator.ofConfig_builtin]
  cases Collaborators.template env .compile config.compiler with
  | error fault => exact .inl ⟨fault, rfl, rfl⟩
  | ok compiler =>
      cases Collaborators.template env .execute config.vm with
      | error fault => exact .inl ⟨fault, rfl, rfl⟩
      | ok vm =>
          exact .inr ⟨{ pipeline with collaborators := ⟨compiler, vm, .builtin⟩ },
            rfl, rfl, rfl, rfl⟩

-- The two paths are texts. The program only has to compare them, and only in the tree in which it
-- is asked to.
theorem diff_agrees_with_builtin (pipeline : Pipeline) (env : Environment) (config : Config)
    (name dir : String) (layout : Layout) (session : Session)
    (unbraced : Case.Unbraced name dir layout)
    (texts : Text.isText (Path.join dir layout.actualOutput) ∧
      Text.isText (Path.join dir layout.expected))
    (compares : ∀ own ran, pipeline.configured env config Config.builtinComparator = .ok own →
      own.Reaches (.ofDirectory name dir layout) session ran →
      pipeline.launch.Compares pipeline.bound "diff" ran.tree
        (Text.shown (Path.join dir layout.actualOutput))
        (Text.shown (Path.join dir layout.expected))) :
    let case := Case.ofDirectory name dir layout
    (pipeline.configured env config Comparator.diffLine).map (·.verdict case session) =
      (pipeline.configured env config Config.builtinComparator).map (·.verdict case session) ∧
    ∀ line, line = Comparator.diffLine ∨ line = Config.builtinComparator →
      ∀ own ran, pipeline.configured env config line = .ok own →
        own.Reaches case session ran → ran.tree.Unlike case.actualOutput case.expected →
        own.verdict case session = .ok .runtimeMismatch := by
  intro case
  rcases configured_cases pipeline env config with
    ⟨fault, external, builtin⟩ | ⟨own, launch, bound, external, builtin⟩
  · rw [external, builtin]
    refine ⟨rfl, ?_⟩
    rintro line (rfl | rfl) own _ configured
    · cases external.symm.trans configured
    · cases builtin.symm.trans configured
  rw [← launch, ← bound] at compares
  have diff : ∀ ran, own.Reaches case session ran →
      ((own.withComparator (.external Comparator.diffTemplate)).compare case ran).1
      = .ok (outcomeOf (ran.tree.sameContent case.actualOutput case.expected)) :=
    fun ran reached => compare_diff unbraced texts rfl
      (compares _ ran builtin ((reaches_withComparator _).mpr reached))
  have bytes : ∀ ran, ((own.withComparator .builtin).compare case ran).1 =
      .ok (outcomeOf (ran.tree.sameContent case.actualOutput case.expected)) :=
    compare_builtin rfl
  rw [external, builtin]
  refine ⟨?_, ?_⟩
  · have same : (own.withComparator (.external Comparator.diffTemplate)).verdict case session =
        (own.withComparator .builtin).verdict case session :=
      verdict_withComparator fun ran reached => by rw [diff ran reached, bytes]
    simp only [Except.map, same]
  · rintro line chosen other ran configured reached unlike
    rw [verdict_of_reached reached]
    rcases chosen with rfl | rfl
    · cases external.symm.trans configured
      rw [diff ran ((reaches_withComparator _).mp reached), unlike.differ]
      rfl
    · cases builtin.symm.trans configured
      rw [bytes, unlike.differ]
      rfl

end Pipeline

-- A compiler that copies its input, a machine that copies its program, and a `diff` that compares
-- the files its arguments name and refuses arguments that cannot be handed over.
namespace Echo

def tree (name wanted : String) : FileTree where
  entries := [(["tests"], .directory), ([name, "tests"], .directory),
    (["test.in", name, "tests"], .file (Text.utf8 "42") 420),
    (["test.out", name, "tests"], .file (Text.utf8 wanted) 420)]

def comparing (tree : FileTree) (one other : String) : Reply :=
  if one.toList.contains '\x00' || other.toList.contains '\x00' then .refused .nulInPath
  else
    let same := tree.sameContent (Text.ofText one) (Text.ofText other)
    .ended (if same then .exited 0 else .exited 1) [] tree 3

def launch (name : String) : Launcher := fun bound tree request =>
  match request.arguments with
  | [one, other] => comparing tree one other
  | _ =>
      Launcher.ofBehaviour (fun _ tree program _ input =>
        if program = "machine" then .ended (.exited 0) [(.output, input)] tree 5
        else .ended (.exited 0) [] (tree.put ["a.frisc", name, "tests"] (.file input 420)) 7)
        bound tree request

def pipeline (name : String) : Pipeline :=
  { launch := launch name, collaborators := ⟨⟨"", []⟩, ⟨"", []⟩, .builtin⟩ }

def config : Config := { compiler := "compiler", vm := "machine" }

def case (label name : String) : Case := .ofDirectory label ("tests/" ++ name) {}

theorem compares (name : String) (tree : FileTree) {one other : String}
    (plain : '\x00' ∉ one.toList ∧ '\x00' ∉ other.toList) :
    (launch name).Compares none "diff" tree one other := by
  have allowed : (one.toList.contains '\x00' || other.toList.contains '\x00') = false := by
    simp [plain]
  refine ⟨if tree.sameContent (Text.ofText one) (Text.ofText other) then .exited 0 else .exited 1,
    [], 3, ?_, ?_⟩
  · simp only [launch, comparing, allowed]
    rfl
  · rw [← FileTree.sameContent_true]
    split <;> simp_all

theorem parsed : ∀ word ∈ ["compiler", "machine"],
    Template.parse? {} word = some ⟨word, []⟩ := by decide +kernel

def equipped (name : String) (comparator : Comparator) : Pipeline :=
  { pipeline name with collaborators := ⟨⟨"compiler", []⟩, ⟨"machine", []⟩, comparator⟩ }

theorem configured_diff (name : String) :
    (pipeline name).configured {} config Comparator.diffLine =
      .ok (equipped name (.external Comparator.diffTemplate)) := by
  rw [Pipeline.configured, Comparator.ofConfig_diffLine]
  simp only [config, Collaborators.template, parsed _ List.mem_cons_self,
    parsed "machine" (by decide)]
  rfl

theorem configured_builtin (name : String) :
    (pipeline name).configured {} config Config.builtinComparator = .ok (equipped name .builtin) := by
  rw [Pipeline.configured, Comparator.ofConfig_builtin]
  simp only [config, Collaborators.template, parsed _ List.mem_cons_self,
    parsed "machine" (by decide)]
  rfl

end Echo

namespace Unended

-- The expected text has a line end that the output lacks. The directory has a name made of
-- blanks, quotes and a dollar sign.
def name : String := "it's \"$1\" # one"

def session : Session := { tree := Echo.tree name "42\n" }

end Unended

theorem Pipeline.diff_agrees_with_builtin_unended :
    ((Echo.pipeline Unended.name).configured {} Echo.config Comparator.diffLine).map
      (·.verdict (Echo.case Unended.name Unended.name) Unended.session) =
        .ok (.ok .runtimeMismatch) ∧
    ((Echo.pipeline Unended.name).configured {} Echo.config Config.builtinComparator).map
      (·.verdict (Echo.case Unended.name Unended.name) Unended.session) =
        .ok (.ok .runtimeMismatch) := by
  obtain ⟨agree, told⟩ := diff_agrees_with_builtin (Echo.pipeline Unended.name) {} Echo.config
    Unended.name ("tests/" ++ Unended.name) {} Unended.session ⟨by decide, by decide, by decide⟩
    (by decide) fun _ ran _ _ => Echo.compares Unended.name ran.tree (by decide)
  have mismatch := told _ (.inl rfl) _ _ (Echo.configured_diff Unended.name) ⟨_, _, rfl, rfl⟩
    (.unended rfl rfl)
  have external := congrArg
    (Except.map (·.verdict (Echo.case Unended.name Unended.name) Unended.session))
    (Echo.configured_diff Unended.name)
  exact ⟨external.trans (congrArg Except.ok mismatch),
    agree.symm.trans (external.trans (congrArg Except.ok mismatch))⟩

-- In a directory whose name is no text the program is handed the paths of other files.
theorem Pipeline.diff_handed_other_files :
    let name := Text.stray 0xFF
    let case := Echo.case "a\uFFFD" name
    let session : Session := { tree := Echo.tree name "42" }
    Case.Unbraced "a\uFFFD" ("tests/" ++ name) {} ∧
    (∀ tree one other, '\x00' ∉ one.toList ∧ '\x00' ∉ other.toList →
      (Echo.pipeline name).launch.Compares none "diff" tree one other) ∧
    ((Echo.pipeline name).configured {} Echo.config Comparator.diffLine).map
      (·.verdict case session) = .ok (.ok .runtimeMismatch) ∧
    ((Echo.pipeline name).configured {} Echo.config Config.builtinComparator).map
      (·.verdict case session) = .ok (.ok .passed) := by
  intro name case session
  have mismatch : ((Echo.equipped name (.external Comparator.diffTemplate)).verdict case
    session).toOption = some .runtimeMismatch := by decide +kernel
  have passed : ((Echo.equipped name .builtin).verdict case session).toOption = some .passed := by
    decide +kernel
  refine ⟨⟨by decide, by decide, by decide⟩, fun tree one other => Echo.compares name tree, ?_, ?_⟩
  · rw [Echo.configured_diff, Except.map, toOption_eq_some.mp mismatch]
  · rw [Echo.configured_builtin, Except.map, toOption_eq_some.mp passed]

end Acceptance
