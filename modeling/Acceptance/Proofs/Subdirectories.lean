import Acceptance.Proofs.CaseFiles
import Acceptance.Proofs.OwnPaths
import Acceptance.Proofs.Walks
import Acceptance.Proofs.WholeRun

namespace Acceptance

open FileTree (FileName)

-- What discovery finds. Every name in the root that leads to a directory is a case, and nothing
-- else is.

variable {tree : FileTree} {root name : String} {layout : Layout} {directory : Place} {links : Nat}

instance (name : String) : Decidable (FileName name) :=
  decidable_of_iff (FileTree.IsName name ∧ '/' ∉ name.toList ∧ '\x00' ∉ name.toList ∧
      ¬FileTree.nameLimit < Text.size name)
    ⟨fun ⟨proper, unslashed, plain, short⟩ => ⟨proper, unslashed, plain, short⟩,
      fun named => ⟨named.proper, named.unslashed, named.plain, named.short⟩⟩

theorem FileTree.mem_place_of_mem_names (member : name ∈ tree.names directory) :
    ∃ listed ∈ tree.entries, name ∈ listed.1 := by
  obtain ⟨⟨place, entry⟩, inside, named⟩ := List.mem_filterMap.mp member
  refine ⟨_, inside, ?_⟩
  cases place with
  | nil => cases named
  | cons first above =>
      simp only [Option.ite_none_right_eq_some, Option.some.injEq] at named
      exact named.2 ▸ List.mem_cons_self

theorem FileTree.list_of_leads (leads : tree.Leads root links directory)
    (inside : tree.isDirectoryAt directory) : tree.list root = .ok (tree.names directory) := by
  rw [list, locate_iff.mpr ⟨links, leads⟩]
  simp [bind, Except.bind, inside, pure, Except.pure]

theorem discoverListed_missing (listing : Except IoError (List (Except IoError String))) :
    discoverListed tree root layout listing = .error (.missingRoot root) ↔
      ¬tree.isDirectory root := by
  unfold discoverListed
  by_cases inside : tree.isDirectory root
  · cases listing.bind (casesOf tree root layout) <;> simp [inside]
  · simp [inside]

theorem discoverListed_ok (inside : tree.isDirectory root) (names : List String) :
    discoverListed tree root layout (.ok (names.map .ok)) =
      .ok ((names.filter fun name => tree.isDirectory (Path.join root name)).map fun name =>
        .ofDirectory (Text.shown name) (Path.join root name) layout) := by
  unfold discoverListed
  rw [Except.bind, casesOf_ok, inside, filterMap_ofEntry]
  rfl

theorem discoverListed_failed (inside : tree.isDirectory root)
    {listing : Except IoError (List (Except IoError String))} {cause : IoError}
    (failed : listing.bind (casesOf tree root layout) = .error cause) :
    discoverListed tree root layout listing = .error (.discovery root cause) := by
  unfold discoverListed
  rw [failed, inside]
  rfl

theorem isDirectory_join (named : FileName name) (leads : tree.Leads root links directory)
    (inside : tree.isDirectoryAt directory) : tree.isDirectory (Path.join root name) ↔
      Text.size (Path.join root name) < FileTree.pathLimit ∧
        ∃ more place, links + more ≤ FileTree.linkLimit ∧ tree.Walk more directory [name] place ∧
          tree.isDirectoryAt place := by
  rw [FileTree.isDirectory_iff]
  constructor
  · rintro ⟨count, place, joined, within⟩
    obtain ⟨short, few, more, rfl, walk⟩ := (FileTree.leads_join named leads inside).mp joined
    exact ⟨short, more, place, few, walk, within⟩
  · rintro ⟨short, more, place, few, walk, within⟩
    have joined := (FileTree.leads_join named leads inside).mpr ⟨short, few, more, rfl, walk⟩
    exact ⟨_, place, joined, within⟩

namespace Run

variable {host : Host} {shown : Presentation} {options : RunOptions} {config : Config}
  {session : Session}

theorem runConfigured_undiscovered {fault : Fault}
    (failed : discoverRead host.reading session.tree config.testsDir config.layout =
      .error fault) :
    (runConfigured host shown options config session).2 = session := by
  unfold runConfigured
  cases Collaborators.ofConfig host.env config with
  | error cause => rfl
  | ok collaborators => rw [failed]

end Run

-- The root has to lead to a directory. Then each name in it that leads to a directory gives one
-- case, in the order of the listing, which is called by the text of the name; a listing that
-- fails, at once or at some entry, gives no case. Nothing is changed by it.
theorem discover_immediate_directories (tree : FileTree) (distinct : tree.Distinct)
    (named : ∀ listed ∈ tree.entries, ∀ name ∈ listed.1, FileName name) (root : String)
    (layout : Layout) :
    (∀ listing, discoverListed tree root layout listing = .error (.missingRoot root) ↔
      ¬∃ links directory, tree.Leads root links directory ∧ tree.isDirectoryAt directory) ∧
    (∀ links directory, tree.Leads root links directory → tree.isDirectoryAt directory →
      discover tree root layout =
        discoverListed tree root layout (.ok ((tree.names directory).map .ok)) ∧
      (∀ names, names.Perm (tree.names directory) → ∃ (cases : List Case) (found : List String),
        discoverListed tree root layout (.ok (names.map .ok)) = .ok cases ∧
        found.Sublist names ∧ found.Nodup ∧
        (∀ name, name ∈ found ↔ name ∈ names ∧
          Text.size (Path.join root name) < FileTree.pathLimit ∧
          ∃ more place, links + more ≤ FileTree.linkLimit ∧ tree.Walk more directory [name] place ∧
            tree.isDirectoryAt place) ∧
        cases.map (·.dir) = found.map (Path.join root) ∧
        cases.map (·.name) = found.map Text.shown ∧
        ((cases.map (·.name)).Nodup ↔
          ∀ one ∈ found, ∀ other ∈ found, Text.shown one = Text.shown other → one = other) ∧
        ∀ case ∈ cases, [case.specInput, case.input, case.expected, case.program,
          case.actualOutput, case.actualDiagnostics] = layout.names.map (Path.join case.dir)) ∧
      (∀ cause, discoverListed tree root layout (.error cause) = .error (.discovery root cause)) ∧
      ∀ (names : List String) cause later,
        discoverListed tree root layout (.ok (names.map .ok ++ .error cause :: later)) =
          .error (.discovery root cause)) ∧
    ∀ host shown options config (session : Session), session.tree = tree →
      config.testsDir = root → config.layout = layout →
        (∀ fault, discoverRead host.reading tree root layout = .error fault →
          (Run.runConfigured host shown options config session).2.tree = tree) ∧
        ∀ cases, discoverRead host.reading tree root layout = .ok cases →
          (Run.announce shown config (Run.select options config cases) session).tree = tree := by
  refine ⟨?_, ?_, ?_⟩
  · intro listing
    rw [discoverListed_missing, FileTree.isDirectory_iff]
  · intro links directory leads inside
    have present := FileTree.isDirectory_iff.mpr ⟨links, directory, leads, inside⟩
    refine ⟨?_, ?_, fun cause => discoverListed_failed present rfl, fun names cause later =>
      discoverListed_failed present (casesOf_error names cause later)⟩
    · rw [discover, discoverRead, FileTree.list_of_leads leads inside]
      rfl
    · intro names listed
      have once : names.Nodup := listed.nodup_iff.mpr (distinct.names directory)
      refine ⟨_, _, discoverListed_ok present names, List.filter_sublist, once.filter _,
        fun name => ?_, by rw [List.map_map]; rfl, map_name_ofDirectory _, ?_, ?_⟩
      · rw [List.mem_filter]
        refine and_congr_right fun member => ?_
        obtain ⟨_, held, within⟩ := FileTree.mem_place_of_mem_names (listed.subset member)
        exact isDirectory_join (named _ held _ within) leads inside
      · rw [map_name_ofDirectory, List.nodup_map_iff_inj_on (once.filter _)]
      · intro case member
        obtain ⟨name, _, rfl⟩ := List.mem_map.mp member
        rfl
  · rintro host shown options config session rfl rfl rfl
    refine ⟨fun fault failed => ?_, fun cases _ => ?_⟩
    · rw [Run.runConfigured_undiscovered failed]
    · simp [Run.announce]

-- The root is a link. In it are a directory with another one inside, a file, a link to a link to a
-- directory, a link to nowhere and one to itself.
def linkedSuite : FileTree where
  entries := [(["suite"], .link "tests/"), (["tests"], .directory),
    (["add", "tests"], .directory), (["inner", "add", "tests"], .directory),
    (["notes", "tests"], .file [] 0o644), (["mul", "tests"], .link "again"),
    (["again", "tests"], .link "/shared/./mul"), (["shared"], .directory),
    (["mul", "shared"], .directory), (["gone", "tests"], .link "../nowhere"),
    (["loop", "tests"], .link "loop")]

theorem discover_immediate_directories_linked :
    linkedSuite.Distinct ∧
    (∀ listed ∈ linkedSuite.entries, ∀ name ∈ listed.1, FileName name) ∧
    ∃ links, linkedSuite.Leads "suite" links ["tests"] ∧ ∃ cases,
      discover linkedSuite "suite" {} = .ok cases ∧
      cases.map (·.name) = ["add", "mul", "again"] ∧ ∃ more place,
        links + more ≤ FileTree.linkLimit ∧ linkedSuite.Walk more ["tests"] ["mul"] place := by
  have distinct : linkedSuite.Distinct := by decide
  have named : ∀ listed ∈ linkedSuite.entries, ∀ name ∈ listed.1, FileName name := by decide
  have located : (linkedSuite.locate "suite").toOption = some ["tests"] := by decide +kernel
  have told : (discover linkedSuite "suite" {}).toOption.map (·.map (·.name)) =
      some ["add", "mul", "again"] := by decide +kernel
  obtain ⟨links, leads⟩ := FileTree.locate_iff.mp (toOption_eq_some.mp located)
  obtain ⟨listing, found, _⟩ := (discover_immediate_directories linkedSuite distinct named "suite"
    {}).2.1 links ["tests"] leads (by decide)
  obtain ⟨cases, entries, taken, listed, _, members, _, texts, _⟩ := found _ (.refl _)
  rw [listing, taken] at told
  have names : cases.map (·.name) = ["add", "mul", "again"] := Option.some.inj told
  have mul : "mul" ∈ entries := by
    obtain ⟨name, member, told⟩ := List.mem_map.mp
      (show "mul" ∈ entries.map Text.shown by rw [← texts, names]; decide)
    have only : ∀ name ∈ linkedSuite.names ["tests"], Text.shown name = "mul" → name = "mul" := by
      decide
    rwa [only name (listed.subset member) told] at member
  obtain ⟨_, _, more, place, few, walk, _⟩ := (members "mul").mp mul
  exact ⟨distinct, named, links, leads, cases, listing.trans taken, names, more, place, few, walk⟩

-- A link to the directory that it is in.
def selfLinked : FileTree where
  entries := [(["a"], .link ".")]

def roundabout : String := "/".intercalate (List.replicate 40 "a")

-- Two directories whose names differ, but not in their texts.
def strayPair : FileTree where
  entries := [(["tests"], .directory), ([Text.stray 0xFF, "tests"], .directory),
    ([Text.stray 0xFE, "tests"], .directory)]

-- By a way with as many links as are allowed the directory is still found and listed, but no link
-- in it is followed any more.
theorem linked_directory_missed :
    ((selfLinked.list roundabout).toOption = some ["a"] ∧ selfLinked.isDirectory "a" ∧
      (discover selfLinked "." {}).toOption = some [.ofDirectory "a" "./a" {}] ∧
      (discover selfLinked roundabout {}).toOption = some []) ∧
    (strayPair.list "tests").toOption = some [Text.stray 0xFF, Text.stray 0xFE] ∧
      Text.stray 0xFF ≠ Text.stray 0xFE ∧
      (discover strayPair "tests" {}).toOption = some
        [.ofDirectory "a\uFFFD" ("tests/" ++ Text.stray 0xFF) {},
          .ofDirectory "a\uFFFD" ("tests/" ++ Text.stray 0xFE) {}] := by
  decide +kernel

end Acceptance
