import Acceptance.Process
import Acceptance.Proofs.Access

namespace Acceptance.FileTree

open Text (Bytes)

-- Files that stand for themselves. Where a path itself names a file or a directory that has no
-- other name, or nothing yet, the tree is a map from paths to contents: an operation on one such
-- path is not felt on another.

variable {tree before after cleared : FileTree} {place spot : Place} {path other name last : String}
  {bytes : Bytes}

def isPlain : Option Entry → Bool
  | some (.link _) | some (.device _) => false
  | _ => true

-- No link, no device, no second name.
def isOrdinary (tree : FileTree) (path : String) : Bool :=
  match tree.site? path with
  | none => true
  | some place => decide (tree.Alone place) && isPlain (tree.entry? place)

theorem isOrdinary_iff : tree.isOrdinary path ↔
    ∀ place, tree.site? path = some place → tree.Alone place ∧ isPlain (tree.entry? place) := by
  unfold isOrdinary
  cases tree.site? path with
  | none => simp
  | some place => simp

theorem NotLink.of_plain (plain : isPlain (tree.entry? place)) : tree.NotLink place := by
  intro target linked
  simp [linked, isPlain] at plain

theorem straight_of_ordinary (ordinary : tree.isOrdinary path)
    (site : tree.site? path = some place) : tree.NotLink place :=
  .of_plain (isOrdinary_iff.mp ordinary place site).2

theorem find_ordinary {purpose : Purpose} (ends : EndsIn path name)
    (ordinary : tree.isOrdinary path) : tree.find purpose path = tree.find .itself path := by
  apply find_straight ends
  intro place found
  exact straight_of_ordinary ordinary (by simp [site?, found])

theorem site_of_located (ends : EndsIn path name) (ordinary : tree.isOrdinary path)
    (found : tree.locate path = .ok place) : tree.site? path = some place :=
  site_of_locate ends found fun _ site => straight_of_ordinary ordinary site

-- The path leads to the same entry in both trees, if to any.
structure Alike (path : String) (before after : FileTree) : Prop where
  locate : ∀ spot, after.locate path = .ok spot ↔ before.locate path = .ok spot
  entry : ∀ spot, before.locate path = .ok spot → after.entry? spot = before.entry? spot

theorem Alike.refl (path : String) (tree : FileTree) : Alike path tree tree :=
  ⟨fun _ => .rfl, fun _ _ => rfl⟩

theorem Alike.trans {middle : FileTree} (first : Alike path before middle)
    (second : Alike path middle after) : Alike path before after :=
  ⟨fun spot => (second.locate spot).trans (first.locate spot), fun spot found =>
    (second.entry spot ((first.locate spot).mpr found)).trans (first.entry spot found)⟩

theorem Alike.status {entry : Entry} (alike : Alike path before after) :
    after.status path = .ok entry ↔ before.status path = .ok entry := by
  rw [status_eq_ok, status_eq_ok]
  refine exists_congr fun spot => ?_
  rw [alike.locate]
  exact and_congr_right fun found => by rw [alike.entry spot found]

theorem Alike.read (alike : Alike path before after) :
    after.read path = .ok bytes ↔ before.read path = .ok bytes := by
  simp only [read_eq_ok, alike.status]

theorem Alike.isFile (alike : Alike path before after) :
    after.isFile path = before.isFile path := by
  apply Bool.eq_iff_iff.mpr
  simp only [isFile_iff, alike.status]

theorem Alike.input (alike : Alike path before after) (found : before.locate path = .ok spot) :
    after.inputOf (.opened spot) = before.inputOf (.opened spot) := by
  simp only [inputOf, alike.entry spot found]

theorem SameWays.alike (ways : SameWays before after)
    (own : ∀ spot, before.lead? path = some spot → after.entry? spot = before.entry? spot) :
    Alike path before after := by
  refine ⟨fun spot => ⟨fun found => ?_, fun found => ?_⟩, fun spot found => ?_⟩
  · have same := own spot ((ways.lead path).trans (lead_of_locate found))
    exact ways.symm.locate found fun absent => same.trans absent
  · exact ways.locate found fun absent => (own spot (lead_of_locate found)).symm.trans absent
  · exact own spot (lead_of_locate found)

theorem lead_ordinary (ends : EndsIn path name) (ordinary : tree.isOrdinary path) :
    tree.lead? path = tree.site? path := by
  rw [lead?, find_ordinary ends ordinary]
  rfl

-- What is at the end of the path is not touched.
structure Leaves (path : String) (before after : FileTree) : Prop where
  site : after.site? path = before.site? path
  entry : ∀ place, before.site? path = some place → after.entry? place = before.entry? place
  alone : ∀ place, before.site? path = some place → before.Alone place → after.Alone place

theorem Leaves.refl (path : String) (tree : FileTree) : Leaves path tree tree :=
  ⟨rfl, fun _ _ => rfl, fun _ _ alone => alone⟩

-- Files come and go at one place; all else stays.
structure ChangesAt (place : Place) (before after : FileTree) : Prop where
  ways : SameWays before after
  entry : ∀ other, other ≠ place → after.entry? other = before.entry? other
  alone : ∀ other, before.Alone other → after.Alone other
  plain : isPlain (after.entry? place)

theorem ChangesAt.ordinary (change : ChangesAt place before after)
    (ordinary : before.isOrdinary path) : after.isOrdinary path := by
  rw [isOrdinary_iff] at ordinary ⊢
  intro spot site
  rw [← change.ways.site path] at site
  obtain ⟨alone, plain⟩ := ordinary spot site
  refine ⟨change.alone spot alone, ?_⟩
  by_cases same : spot = place
  · rw [same]
    exact change.plain
  · rwa [change.entry spot same]

theorem sites_differ (ends : EndsIn path name) (ends' : EndsIn other last) (differ : name ≠ last)
    (site : before.site? path = some place) (site' : after.site? other = some spot) :
    place ≠ spot := by
  obtain ⟨directory, rfl⟩ := site_named ends site
  obtain ⟨directory', rfl⟩ := site_named ends' site'
  intro same
  exact differ (List.cons.inj same).1

theorem ChangesAt.alike (change : ChangesAt place before after) (ends : EndsIn path name)
    (ends' : EndsIn other last) (differ : name ≠ last) (site : tree.site? other = some place)
    (ordinary : before.isOrdinary path) : Alike path before after :=
  change.ways.alike fun spot here => change.entry spot
    (sites_differ ends ends' differ ((lead_ordinary ends ordinary).symm.trans here) site)

theorem Leaf.of_removable (straight : tree.NotLink place)
    (outside : tree.isDirectoryAt place = false) : Leaf (tree.entry? place) := by
  unfold isDirectoryAt at outside
  cases present : tree.entry? place with
  | none => trivial
  | some entry =>
      cases entry with
      | file content mode => trivial
      | device device => trivial
      | link target => exact (straight target present).elim
      | directory => simp [present] at outside

theorem removeStale_site (ends : EndsIn path name) (straight : tree.NotLink place)
    (removed : tree.removeStale path = .ok cleared) (site : tree.site? path = some place) :
    cleared.entry? place = none ∧ ChangesAt place tree cleared := by
  cases directory : tree.isDirectoryAt place with
  | true => simp [removeStale_inside ends site directory] at removed
  | false =>
      rw [removeStale_outside ends site directory] at removed
      have leaf := Leaf.of_removable straight directory
      obtain ⟨above, rfl⟩ := site_named ends site
      by_cases present : (tree.entry? (name :: above)).isSome
      · rw [if_pos present] at removed
        cases removed
        have gone : FileTree.entry? (tree.erase (name :: above)) (name :: above) = none := by
          simp [entry?_erase]
        refine ⟨gone, .erase leaf, ?_, fun _ alone => alone.erase, by simp [gone, isPlain]⟩
        intro spot differ
        simp [entry?_erase, differ]
      · rw [if_neg present] at removed
        cases removed
        have absent : tree.entry? (name :: above) = none := by simpa using present
        exact ⟨absent, .refl tree, fun _ _ => rfl, fun _ alone => alone,
          by simp [absent, isPlain]⟩

theorem removeStale_nowhere (ends : EndsIn path name)
    (removed : tree.removeStale path = .ok cleared) (nowhere : tree.site? path = none) : cleared = tree := by
  obtain ⟨cause, failed⟩ := find_of_no_site ends nowhere
  rw [removeStale_error ends failed] at removed
  split at removed
  · exact (Except.ok.inj removed).symm
  · cases removed

theorem removeStale_changes (ends : EndsIn path name) (ordinary : tree.isOrdinary path)
    (removed : tree.removeStale path = .ok cleared) :
    cleared = tree ∨ ∃ place, tree.site? path = some place ∧ ChangesAt place tree cleared := by
  cases site : tree.site? path with
  | none => exact .inl (removeStale_nowhere ends removed site)
  | some place =>
      exact .inr ⟨place, rfl,
        (removeStale_site ends (straight_of_ordinary ordinary site) removed site).2⟩

theorem removeStale_missing (ends : EndsIn path name) (ordinary : tree.isOrdinary path)
    (removed : tree.removeStale path = .ok cleared) : cleared.pathExists path = false := by
  unfold pathExists
  cases seen : cleared.status path with
  | error cause => rfl
  | ok entry =>
      obtain ⟨spot, found, present⟩ := status_eq_ok.mp seen
      cases site : tree.site? path with
      | none =>
          cases removeStale_nowhere ends removed site
          have here := site_of_located ends ordinary found
          simp [site] at here
      | some place =>
          obtain ⟨absent, change⟩ :=
            removeStale_site ends (straight_of_ordinary ordinary site) removed site
          have here := site_of_located ends (change.ordinary ordinary) found
          rw [← change.ways.site path, site] at here
          cases here
          simp [absent] at present

theorem ChangesAt.put {mode : Nat} (leaf : Leaf (tree.entry? (name :: place))) :
    ChangesAt (name :: place) tree (tree.put (name :: place) (.file bytes mode)) := by
  refine ⟨.put leaf trivial, fun spot differ => ?_, fun _ alone => alone, ?_⟩
  · simp [entry?_put, differ]
  · simp [entry?_put, isPlain]

theorem ChangesAt.trans {middle : FileTree} (first : ChangesAt place before middle)
    (second : ChangesAt place middle after) : ChangesAt place before after :=
  ⟨first.ways.trans second.ways,
    fun spot differ => (second.entry spot differ).trans (first.entry spot differ),
    fun spot alone => second.alone spot (first.alone spot alone), second.plain⟩

theorem create_ordinary (ends : EndsIn path name) (ordinary : tree.isOrdinary path)
    (made : tree.create path = .ok (place, after)) :
    tree.site? path = some place ∧ ChangesAt place tree after ∧
      ∃ mode, after.entry? place = some (.file [] mode) := by
  rcases create_cases made with ⟨directory, last, slash, found, rfl, rfl⟩ |
    ⟨content, mode, found, present, rfl⟩ | ⟨device, found, present, rfl⟩
  · rw [find_ordinary ends ordinary] at found
    rcases find_itself_cases tree ends with ⟨cause, failed⟩ | ⟨above, arrived⟩
    · simp [found] at failed
    · have site : tree.site? path = some (name :: above) := arrived.spot
      unfold Ends at arrived
      split at arrived
      · simp [found] at arrived
      · rename_i absent
        obtain ⟨_, _, equal, vacant⟩ := arrived
        cases equal
        rw [found] at vacant
        cases vacant
        exact ⟨site, .put (by simp [absent, Leaf]), Entry.plainMode, by simp [entry?_put]⟩
  · rw [find_ordinary ends ordinary] at found
    have site : tree.site? path = some place := by simp [site?, found]
    obtain ⟨directory, rfl⟩ := site_named ends site
    rw [store_alone (isOrdinary_iff.mp ordinary _ site).1]
    exact ⟨site, .put (by simp [present, Leaf]), mode, by simp [entry?_put]⟩
  · rw [find_ordinary ends ordinary] at found
    have site : after.site? path = some place := by simp [site?, found]
    have plain := (isOrdinary_iff.mp ordinary place site).2
    simp [present, isPlain] at plain

-- Writing a file that stands for itself changes nothing else.
theorem write_ordinary (ends : EndsIn path name) (ordinary : tree.isOrdinary path)
    (written : tree.write path bytes = .ok after) :
    ∃ place, tree.site? path = some place ∧ ChangesAt place tree after := by
  unfold write at written
  cases made : tree.create path with
  | error cause => simp [made, bind, Except.bind] at written
  | ok result =>
      obtain ⟨place, first⟩ := result
      obtain ⟨site, change, mode, blank⟩ := create_ordinary ends ordinary made
      refine ⟨place, site, ?_⟩
      have after_eq : first.writeAt place 0 bytes = after := by
        simpa [made, bind, Except.bind, isFull, blank, pure, Except.pure] using written
      have alone := change.alone place (isOrdinary_iff.mp ordinary place site).1
      obtain ⟨directory, rfl⟩ := site_named ends site
      rw [← after_eq, writeAt, blank]
      simp only [store_alone alone]
      exact change.trans (.put (by simp [blank, Leaf]))

end Acceptance.FileTree
