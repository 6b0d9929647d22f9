import Acceptance.Proofs.AnyOrder
import Acceptance.Proofs.OrderedChoice
import Acceptance.Proofs.WholeRun

namespace Acceptance

open Text (Bytes)

namespace FileTree

-- Trees that differ in the order in which one directory lists its entries, and in nothing else.
-- Whatever is done by path is the same in both, and the difference stays the only one.

variable {tree left right : FileTree} {root place directory : Place} {path : String}

def keys (tree : FileTree) : List Place := tree.entries.map (·.1)

def child? (directory : Place) : Place → Option String
  | name :: above => if above = directory then some name else none
  | [] => none

theorem names_eq (tree : FileTree) (directory : Place) :
    tree.names directory = tree.keys.filterMap (child? directory) := by
  rw [names, keys, List.filterMap_map]
  rfl

theorem lookup_perm {one other : List (Place × Entry)} (permuted : one.Perm other)
    (once : (one.map (·.1)).Nodup) : one.lookup place = other.lookup place := by
  induction permuted with
  | nil => rfl
  | cons pair _ ih =>
      obtain ⟨spot, entry⟩ := pair
      rw [List.lookup_cons, List.lookup_cons, ih (List.nodup_cons.mp once).2]
  | swap one other rest =>
      obtain ⟨spot, entry⟩ := one
      obtain ⟨spot', entry'⟩ := other
      have apart : (place == spot) = false ∨ (place == spot') = false := by
        by_cases here : place = spot
        · right
          have differ : spot ≠ spot' := by
            rintro rfl
            simp at once
          simpa [here] using differ
        · exact .inl (by simpa using here)
      rcases apart with other | other <;> simp only [List.lookup_cons, other]
  | trans first _ ih ih' => exact (ih once).trans (ih' ((first.map _).nodup_iff.mp once))

theorem replaceEntry_eq {entry : Entry} {entries : List (Place × Entry)}
    (once : (entries.map (·.1)).Nodup) :
    replaceEntry entries place entry =
      entries.map fun pair => if pair.1 = place then (place, entry) else pair := by
  induction entries with
  | nil => rfl
  | cons pair entries ih =>
      obtain ⟨spot, old⟩ := pair
      obtain ⟨fresh, once⟩ := List.nodup_cons.mp once
      rw [replaceEntry, List.map_cons]
      split
      · rename_i here
        subst here
        have kept : entries.map (fun pair => if pair.1 = spot then (spot, entry) else pair) =
            entries := by
          refine (List.map_congr_left fun pair member => if_neg ?_).trans (List.map_id _)
          intro again
          exact fresh (List.mem_map.mpr ⟨pair, member, again⟩)
        rw [kept]
      · rw [ih once]

theorem put_keys {entry : Entry} (tree : FileTree) : (tree.put place entry).keys =
    if (tree.entries.lookup place).isSome then tree.keys else place :: tree.keys := by
  have replaced : ∀ entries : List (Place × Entry),
      (replaceEntry entries place entry).map (·.1) = entries.map (·.1) := by
    intro entries
    induction entries with
    | nil => rfl
    | cons pair entries ih =>
        obtain ⟨spot, old⟩ := pair
        rw [replaceEntry]
        split
        · simp_all
        · simp [ih]
  unfold keys put
  split
  · exact replaced _
  · rfl

theorem erase_keys (tree : FileTree) (place : Place) :
    (tree.erase place).keys = tree.keys.filter (· != place) := by
  rw [keys, keys, List.filter_map]
  rfl

theorem filterMap_child_filter (places : List Place) :
    (places.filter (· != place)).filterMap (child? directory) =
      (places.filterMap (child? directory)).filter fun name => name :: directory != place := by
  induction places with
  | nil => rfl
  | cons spot places ih =>
      cases named : child? directory spot with
      | none =>
          rw [List.filter_cons, List.filterMap_cons_none named]
          split
          · rw [List.filterMap_cons_none named, ih]
          · exact ih
      | some name =>
          have own : spot = name :: directory := by
            cases spot with
            | nil => cases named
            | cons first above => simp_all [child?]
          subst own
          rw [List.filter_cons, List.filterMap_cons_some named, List.filter_cons]
          split
          · rw [List.filterMap_cons_some named, ih]
          · exact ih

structure Relisted (root : Place) (left right : FileTree) : Prop where
  entries : left.entries.Perm right.entries
  -- A directory holds each name once.
  distinct : left.Distinct
  names : ∀ directory, directory ≠ root → right.names directory = left.names directory
  cwd : right.cwd = left.cwd
  shared : right.shared = left.shared

namespace Relisted

theorem entry (relisted : Relisted root left right) (place : Place) :
    right.entry? place = left.entry? place := by
  rw [FileTree.entry?, FileTree.entry?, lookup_perm relisted.entries relisted.distinct]

theorem same (relisted : Relisted root left right) : FileTree.Same left right where
  cwd := relisted.cwd
  entry place _ := relisted.entry place
  together place other _ _ := by rw [Together, Together, relisted.shared]

theorem put (relisted : Relisted root left right) (place : Place) (entry : Entry) :
    Relisted root (left.put place entry) (right.put place entry) := by
  have once : (right.entries.map (·.1)).Nodup :=
    (relisted.entries.map _).nodup_iff.mp relisted.distinct
  have looked : left.entries.lookup place = right.entries.lookup place :=
    lookup_perm relisted.entries relisted.distinct
  refine ⟨?_, ?_, ?_, relisted.cwd, relisted.shared⟩
  · simp only [FileTree.put, looked]
    split
    · rw [replaceEntry_eq relisted.distinct, replaceEntry_eq once]
      exact relisted.entries.map _
    · exact relisted.entries.cons _
  · show (left.put place entry).keys.Nodup
    rw [put_keys]
    split
    · exact relisted.distinct
    · rename_i vacant
      refine List.nodup_cons.mpr ⟨fun member => ?_, relisted.distinct⟩
      obtain ⟨pair, inside, rfl⟩ := List.mem_map.mp member
      have absent := List.lookup_eq_none_iff.mp (Option.not_isSome_iff_eq_none.mp vacant) pair
        inside
      simp at absent
  · intro directory other
    have names := relisted.names directory other
    rw [names_eq, names_eq] at names ⊢
    rw [put_keys, put_keys, ← looked]
    split
    · exact names
    · rw [List.filterMap_cons, List.filterMap_cons, names]

theorem erase (relisted : Relisted root left right) (place : Place) :
    Relisted root (left.erase place) (right.erase place) where
  entries := relisted.entries.filter _
  distinct := by
    show (left.erase place).keys.Nodup
    rw [erase_keys]
    exact relisted.distinct.filter _
  names directory other := by
    have names := relisted.names directory other
    rw [names_eq, names_eq] at names ⊢
    rw [erase_keys, erase_keys, filterMap_child_filter, filterMap_child_filter, names]
  cwd := relisted.cwd
  shared := by simp only [FileTree.erase, relisted.shared]

theorem putAll (relisted : Relisted root left right) (places : List Place) (entry : Entry) :
    Relisted root (places.foldl (fun tree place => tree.put place entry) left)
      (places.foldl (fun tree place => tree.put place entry) right) := by
  induction places generalizing left right with
  | nil => exact relisted
  | cons spot places ih => exact ih (relisted.put spot entry)

theorem store (relisted : Relisted root left right) (place : Place) (content : Bytes)
    (mode : Nat) :
    Relisted root (left.store place content mode) (right.store place content mode) := by
  have twins : right.twins place = left.twins place := by rw [twins, twins, relisted.shared]
  rw [FileTree.store, FileTree.store, twins]
  exact relisted.putAll _ _

theorem find (relisted : Relisted root left right) (purpose : Purpose) (path : String) :
    right.find purpose path = left.find purpose path :=
  relisted.same.find (fun _ _ => trivial) purpose

theorem locate (relisted : Relisted root left right) (path : String) :
    right.locate path = left.locate path := relisted.same.locate fun _ _ => trivial

theorem status (relisted : Relisted root left right) (path : String) :
    right.status path = left.status path := relisted.same.status fun _ _ => trivial

theorem isFile (relisted : Relisted root left right) (path : String) :
    right.isFile path = left.isFile path := relisted.same.isFile fun _ _ => trivial

theorem read (relisted : Relisted root left right) (path : String) :
    right.read path = left.read path := relisted.same.read fun _ _ => trivial

theorem isDirectory (relisted : Relisted root left right) (path : String) :
    right.isDirectory path = left.isDirectory path := by
  rw [FileTree.isDirectory, FileTree.isDirectory, relisted.status]

theorem sameContent (relisted : Relisted root left right) (one other : String) :
    right.sameContent one other = left.sameContent one other := by
  rw [FileTree.sameContent, FileTree.sameContent, relisted.read, relisted.read]

theorem stations (relisted : Relisted root left right) (links : Nat) (start : Place)
    (parts : List String) : right.stations links start parts = left.stations links start parts := by
  have lookups : ∀ current parts, right.lookups current parts = left.lookups current parts := by
    intro current parts
    induction parts generalizing current with
    | nil => rfl
    | cons part rest ih =>
        simp only [lookups, isDirectoryAt_congr (relisted.entry current), relisted.entry, ih]
  induction links generalizing start parts with
  | zero => rw [FileTree.stations, FileTree.stations, lookups]
  | succ links ih =>
      have walked : right.advance .target start parts = left.advance .target start parts :=
        (advance_agree .target fun spot _ => relisted.entry spot).1
      simp only [FileTree.stations, lookups, walked, ih]

theorem canonical (relisted : Relisted root left right) (path : String) :
    right.canonical path = left.canonical path := by
  have traced : right.trace .target path = left.trace .target path := by
    rw [trace, trace, relisted.cwd, resolve_agree fun spot _ => relisted.entry spot]
  rw [FileTree.canonical, FileTree.canonical, stationsOf, stationsOf, relisted.cwd,
    relisted.stations, traced]

theorem load (relisted : Relisted root left right) (path : String) (required : Bool) :
    Config.load right path required = Config.load left path required := by
  have readText : ∀ file, right.readText file = left.readText file := by
    intro file
    rw [readText, readText, relisted.read]
  have present : right.pathExists path = left.pathExists path := by
    rw [pathExists, pathExists, relisted.status]
  unfold Config.load
  rw [present, relisted.canonical]
  simp only [readText]

theorem removeStale (relisted : Relisted root left right) (path : String) :
    Matched (Relisted root) (left.removeStale path) (right.removeStale path) := by
  unfold FileTree.removeStale
  rw [remove_eq, remove_eq, relisted.find]
  cases left.find .itself (ownPath path) with
  | error cause =>
      simp only
      split
      · exact .done relisted
      · exact .failed cause
  | ok found =>
      cases found with
      | vacant directory name slash => exact .done relisted
      | entry place =>
          simp only [isDirectoryAt_congr (relisted.entry place)]
          by_cases inside : left.isDirectoryAt place
          · simp only [inside]
            exact .failed _
          by_cases slash : (trimSlashes path).2
          · simp only [inside, slash]
            exact .failed _
          · simp only [inside, slash]
            exact .done (relisted.erase place)

theorem create (relisted : Relisted root left right) (path : String) :
    Matched (fun one other => other.1 = one.1 ∧ Relisted root one.2 other.2)
      (left.create path) (right.create path) := by
  rw [create_eq, create_eq, relisted.find]
  cases left.find .newFile path with
  | error cause => exact .failed cause
  | ok found =>
      cases found with
      | vacant directory name slash => exact .done ⟨rfl, relisted.put _ _⟩
      | entry place =>
          simp only [relisted.entry place]
          split
          · exact .done ⟨rfl, relisted.store _ _ _⟩
          · exact .failed _
          · exact .done ⟨rfl, relisted⟩
          · exact .failed _

theorem names_perm (relisted : Relisted root left right) (directory : Place) :
    (right.names directory).Perm (left.names directory) := by
  rw [names_eq, names_eq]
  exact (relisted.entries.map _).symm.filterMap _

theorem list (relisted : Relisted root left right) (path : String) :
    Matched (fun one other => other.Perm one) (left.list path) (right.list path) := by
  unfold FileTree.list
  rw [relisted.locate]
  cases left.locate path with
  | error cause => exact .failed cause
  | ok place =>
      simp only [bind, Except.bind, isDirectoryAt_congr (relisted.entry place)]
      split
      · exact .done (relisted.names_perm place)
      · exact .failed _

end Relisted
end FileTree

open FileTree (Relisted)

theorem FileTree.Relisted.discover {root : Place} {left right : FileTree}
    (relisted : Relisted root left right) (reading : Reading) (path : String) (layout : Layout) :
    (∃ fault, discoverRead reading left path layout = .error fault ∧
        discoverRead reading right path layout = .error fault) ∨
      ∃ cases cases', discoverRead reading left path layout = .ok cases ∧
        discoverRead reading right path layout = .ok cases' ∧ cases'.Perm cases := by
  have own : Case.ofEntry? right path layout = Case.ofEntry? left path layout := by
    funext name
    simp only [Case.ofEntry?, relisted.isDirectory]
  unfold discoverRead discoverListed
  rw [relisted.isDirectory]
  by_cases missing : (!left.isDirectory path) = true
  · exact .inl ⟨.missingRoot path, if_pos missing, if_pos missing⟩
  simp only [if_neg missing]
  have listed := relisted.list path
  generalize left.list path = one, right.list path = other at listed
  cases reading with
  | refused cause => exact .inl ⟨.discovery path cause, rfl, rfl⟩
  | whole =>
      cases listed with
      | failed cause => exact .inl ⟨.discovery path cause, rfl, rfl⟩
      | done permuted =>
          simp only [Reading.listing, Except.map, Except.bind, casesOf_ok, own]
          exact .inr ⟨_, _, rfl, rfl, permuted.filterMap _⟩
  | broken after cause =>
      cases listed with
      | failed cause => exact .inl ⟨.discovery path cause, rfl, rfl⟩
      | done permuted =>
          simp only [Reading.listing, Except.map, Except.bind, casesOf_error]
          exact .inl ⟨.discovery path cause, rfl, rfl⟩

-- Where no two cases have the same name there is only one way to sort them.
theorem sortCases_perm {one other : List Case} (permuted : other.Perm one)
    (once : (one.map (·.name)).Nodup) : sortCases other = sortCases one := by
  have same : (sortCases other).Perm (sortCases one) :=
    (List.mergeSort_perm _ _).trans (permuted.trans (List.mergeSort_perm _ _).symm)
  refine List.Perm.eq_of_pairwise ?_ (sortCases_rising other) (sortCases_rising one) same
  intro case case' member member' below above
  have inside : case ∈ one := permuted.subset ((List.mergeSort_perm _ _).subset member)
  have inside' : case' ∈ one := (List.mergeSort_perm _ _).subset member'
  exact List.inj_on_of_nodup_map once inside inside' (String.le_antisymm below above)

theorem sortCases_increasing {cases : List Case} (once : (cases.map (·.name)).Nodup) :
    ((sortCases cases).map (·.name)).Pairwise (· < ·) := by
  have distinct : ((sortCases cases).map (·.name)).Nodup :=
    ((List.mergeSort_perm cases _).map _).nodup_iff.mpr once
  have rising := List.pairwise_map.mpr (sortCases_rising cases)
  refine (rising.and distinct).imp fun both => ?_
  exact Std.lt_of_le_of_ne both.1 both.2

namespace Run

variable {config : Config}

theorem select_perm {options : RunOptions} {one other : List Case}
    (sorted : config.sortCases = true) (permuted : other.Perm one)
    (once : (one.map (·.name)).Nodup) :
    select options config other = select options config one := by
  rw [select, select, if_pos sorted, if_pos sorted, sortCases_perm permuted once]

theorem select_increasing {cases : List Case} (options : RunOptions)
    (sorted : config.sortCases = true) (once : (cases.map (·.name)).Nodup) :
    ((select options config cases).selected.map (·.name)).Pairwise (· < ·) := by
  rw [select, if_pos sorted, Selection.ofNames]
  split
  · exact sortCases_increasing once
  · exact (sortCases_increasing once).sublist (List.filter_sublist.map _)

end Run
end Acceptance
