import Acceptance.Proofs.Delivery
import Acceptance.Proofs.Ordinary

namespace Acceptance.FileTree

open Text (Bytes)

-- Trees that agree but for what is at the ends of a few paths. As long as nothing but files comes
-- and goes there, every operation on one of these paths leads from such trees to such trees.

variable {paths : List String} {path name : String} {place : Place}
  {left middle right before after cleared cleared' : FileTree}

structure AgreeOff (paths : List String) (left right : FileTree) : Prop where
  cwd : left.cwd = right.cwd
  together : ∀ place other, left.Together place other ↔ right.Together place other
  site : ∀ path ∈ paths, left.site? path = right.site? path
  entry : ∀ place, (∀ path ∈ paths, left.site? path ≠ some place) →
    left.entry? place = right.entry? place

namespace AgreeOff

theorem refl (paths : List String) (tree : FileTree) : AgreeOff paths tree tree :=
  ⟨rfl, fun _ _ => .rfl, fun _ _ => rfl, fun _ _ => rfl⟩

theorem symm (agree : AgreeOff paths left right) : AgreeOff paths right left where
  cwd := agree.cwd.symm
  together place other := (agree.together place other).symm
  site path member := (agree.site path member).symm
  entry place apart := (agree.entry place fun path member same =>
    apart path member ((agree.site path member).symm.trans same)).symm

theorem trans (first : AgreeOff paths left middle) (second : AgreeOff paths middle right) :
    AgreeOff paths left right where
  cwd := first.cwd.trans second.cwd
  together place other := (first.together place other).trans (second.together place other)
  site path member := (first.site path member).trans (second.site path member)
  entry place apart := (first.entry place apart).trans (second.entry place fun path member same =>
    apart path member ((first.site path member).trans same))

theorem of_ways (ways : SameWays before after) (shared : after.shared = before.shared)
    (kept : ∀ place, (∀ path ∈ paths, before.site? path ≠ some place) →
      after.entry? place = before.entry? place) : AgreeOff paths before after :=
  ⟨ways.cwd, fun _ _ => by rw [Together, Together, shared], fun path _ => ways.site path,
    fun place apart => (kept place apart).symm⟩

end AgreeOff

structure Spare (tree : FileTree) (path : String) : Prop where
  ordinary : tree.isOrdinary path
  outside : ∀ place, tree.site? path = some place → tree.isDirectoryAt place = false

theorem Spare.alone (spare : before.Spare path) (site : before.site? path = some place) :
    before.Alone place := (isOrdinary_iff.mp spare.ordinary place site).1

theorem Spare.leaf (spare : before.Spare path) (site : before.site? path = some place) :
    Leaf (before.entry? place) :=
  .of_removable (straight_of_ordinary spare.ordinary site) (spare.outside place site)

theorem Spare.leaves (spare : before.Spare path) (leaves : Leaves path before after) :
    after.Spare path := by
  refine ⟨isOrdinary_iff.mpr fun place site => ?_, fun place site => ?_⟩
  · rw [leaves.site] at site
    obtain ⟨alone, plain⟩ := isOrdinary_iff.mp spare.ordinary place site
    exact ⟨leaves.alone place site alone, by rwa [leaves.entry place site]⟩
  · rw [leaves.site] at site
    have outside := spare.outside place site
    unfold isDirectoryAt at outside ⊢
    rwa [leaves.entry place site]

theorem ChangesAt.spare (change : ChangesAt place before after) (spare : before.Spare path) :
    after.Spare path := by
  refine ⟨change.ordinary spare.ordinary, fun spot site => ?_⟩
  rw [← change.ways.isDirectoryAt]
  exact spare.outside spot ((change.ways.site path).trans site)

-- Two trees, in both of which there are only files at the ends of the paths, if anything.
structure Beside (paths : List String) (left right : FileTree) : Prop where
  agree : AgreeOff paths left right
  left : ∀ path ∈ paths, left.Spare path
  right : ∀ path ∈ paths, right.Spare path

theorem Beside.symm (beside : Beside paths left right) : Beside paths right left :=
  ⟨beside.agree.symm, beside.right, beside.left⟩

theorem Beside.trans (first : Beside paths left middle) (second : Beside paths middle right) :
    Beside paths left right := ⟨first.agree.trans second.agree, first.left, second.right⟩

theorem Beside.ways (beside : Beside paths left right) : SameWays left right := by
  refine ⟨beside.agree.cwd, fun place => ?_⟩
  by_cases hidden : ∃ path ∈ paths, left.site? path = some place
  · obtain ⟨path, member, site⟩ := hidden
    exact .inr ⟨(beside.left path member).leaf site,
      (beside.right path member).leaf ((beside.agree.site path member).symm.trans site)⟩
  · exact .inl (beside.agree.entry place fun path member site => hidden ⟨path, member, site⟩)

-- A path that leads to none of the places in question leads to the same entry in both trees.
theorem Beside.alike (beside : Beside paths left right)
    (clear : ∀ end_ ∈ paths, ∀ place, left.site? end_ = some place → left.lead? path ≠ some place) :
    Alike path left right :=
  beside.ways.alike fun spot lead => (beside.agree.entry spot fun end_ member site =>
    clear end_ member spot site lead).symm

theorem removeStale_frame (ends : EndsIn path name) (site : before.site? path = some place)
    (apart : ∀ other, ¬before.Together place other)
    (removed : before.removeStale path = .ok cleared) :
    cleared.cwd = before.cwd ∧
      (∀ one other, cleared.Together one other ↔ before.Together one other) ∧
      (∀ other, before.Alone other → cleared.Alone other) ∧
      ∀ other, cleared.entry? other = if other = place then none else before.entry? other := by
  cases directory : before.isDirectoryAt place with
  | true => simp [removeStale_inside ends site directory] at removed
  | false =>
      rw [removeStale_outside ends site directory] at removed
      obtain ⟨above, rfl⟩ := site_named ends site
      by_cases present : (before.entry? (name :: above)).isSome
      · rw [if_pos present] at removed
        cases removed
        exact ⟨rfl, together_erase_apart apart, fun _ alone => alone.erase,
          fun other => by simp [entry?_erase]⟩
      · rw [if_neg present] at removed
        cases removed
        refine ⟨rfl, fun _ _ => .rfl, fun _ alone => alone, fun other => ?_⟩
        split
        · rename_i same
          rw [same]
          simpa using present
        · rfl

-- One of the differences disappears when the path is cleared in both trees. On the right it may
-- have been more than a file.
theorem Beside.of_removed (ends : EndsIn path name) (agree : AgreeOff (path :: paths) left right)
    (spare : left.Spare path) (first : ∀ other ∈ paths, left.Spare other)
    (second : ∀ other ∈ paths, right.Spare other) (site : left.site? path = some place)
    (apart : ∀ other ∈ paths, left.site? other ≠ some place)
    (removed : left.removeStale path = .ok cleared)
    (removed' : right.removeStale path = .ok cleared') : Beside paths cleared cleared' := by
  have single := (spare.alone site).apart
  have site' := (agree.site path (by simp)).symm.trans site
  obtain ⟨cwd, together, _, entry⟩ := removeStale_frame ends site single removed
  obtain ⟨cwd', together', alone', entry'⟩ := removeStale_frame ends site'
    (fun other => mt (agree.together place other).mpr (single other)) removed'
  -- Off the other paths the cleared trees are the same.
  have same : ∀ spot, (∀ other ∈ paths, left.site? other ≠ some spot) →
      cleared.entry? spot = cleared'.entry? spot := by
    intro spot clear
    rw [entry, entry']
    split
    · rfl
    · rename_i differ
      refine agree.entry spot fun other member here => ?_
      rcases List.mem_cons.mp member with rfl | member
      · exact differ (Option.some.inj (here.symm.trans site))
      · exact clear other member here
  have ways : SameWays cleared cleared' := by
    refine ⟨by rw [cwd, cwd', agree.cwd], fun spot => ?_⟩
    by_cases hidden : ∃ other ∈ paths, left.site? other = some spot
    · obtain ⟨other, member, here⟩ := hidden
      have differ : spot ≠ place := fun equal => apart other member (equal ▸ here)
      rw [entry, entry', if_neg differ, if_neg differ]
      exact .inr ⟨(first other member).leaf here, (second other member).leaf
        ((agree.site other (by simp [member])).symm.trans here)⟩
    · exact .inl (same spot fun other member here => hidden ⟨other, member, here⟩)
  have change := (removeStale_site ends (straight_of_ordinary spare.ordinary site) removed site).2
  refine ⟨⟨by rw [cwd, cwd', agree.cwd],
    fun one other => (together one other).trans ((agree.together one other).trans
      (together' one other).symm), fun other _ => ways.site other,
      fun spot clear => same spot fun other member => ?_⟩,
    fun other member => change.spare (first other member), fun other member => ?_⟩
  · rw [change.ways.site]
    exact clear other member
  · refine (second other member).leaves ⟨?_, fun spot here => ?_, fun spot here free => ?_⟩
    · rw [← ways.site, ← change.ways.site, agree.site other (by simp [member])]
    · rw [entry', if_neg]
      rintro rfl
      exact apart other member ((agree.site other (by simp [member])).trans here)
    · exact alone' spot free

theorem Beside.of_created (ends : EndsIn path name) (member : path ∈ paths)
    (spare : ∀ other ∈ paths, before.Spare other)
    (made : before.create path = .ok (place, after)) : Beside paths before after := by
  obtain ⟨site, change, _⟩ := create_ordinary ends (spare path member).ordinary made
  refine ⟨.of_ways change.ways (create_shared made) fun spot apart => change.entry spot ?_, spare,
    fun other among => change.spare (spare other among)⟩
  rintro rfl
  exact apart path member site

theorem Spare.creates (ends : EndsIn path name) (spare : before.Spare path)
    (site : before.site? path = some place) : ∃ after, before.create path = .ok (place, after) := by
  have leaf := spare.leaf site
  have plain := (isOrdinary_iff.mp spare.ordinary place site).2
  have arrived := find_of_site ends site
  rw [create_eq, find_ordinary ends spare.ordinary]
  unfold Ends at arrived
  cases present : before.entry? place with
  | none =>
      rw [present] at arrived
      obtain ⟨directory, last, rfl, found⟩ := arrived
      exact ⟨_, by rw [found]⟩
  | some entry =>
      rw [present] at arrived leaf plain
      simp only [arrived, present]
      cases entry with
      | file content mode => exact ⟨_, rfl⟩
      | directory | link target => exact leaf.elim
      | device device => cases plain

theorem Spare.create_fails {cause : IoError} (ends : EndsIn path name) (spare : before.Spare path) :
    before.create path = .error cause ↔ before.find .itself path = .error cause := by
  constructor
  · intro blocked
    cases site : before.site? path with
    | some place =>
        obtain ⟨after, made⟩ := spare.creates ends site
        simp [made] at blocked
    | none =>
        obtain ⟨own, failed⟩ := find_of_no_site ends site
        rw [create_eq, find_ordinary ends spare.ordinary, failed] at blocked
        rw [failed, Except.error.inj blocked]
  · intro failed
    rw [create_eq, find_ordinary ends spare.ordinary, failed]

theorem Beside.creates (ends : EndsIn path name) (member : path ∈ paths)
    (beside : Beside paths left right) (made : left.create path = .ok (place, after)) :
    ∃ after', right.create path = .ok (place, after') ∧ Beside paths left after ∧
      Beside paths after after' := by
  have site := (create_ordinary ends (beside.left path member).ordinary made).1
  obtain ⟨after', made'⟩ := (beside.right path member).creates ends
    ((beside.agree.site path member).symm.trans site)
  have own := Beside.of_created ends member beside.left made
  exact ⟨after', made', own,
    own.symm.trans (beside.trans (.of_created ends member beside.right made'))⟩

theorem Beside.of_delivered {other last : String} {output diagnostics : Place} {mode mode' : Nat}
    {pieces : List (Stream × Bytes)} (ends : EndsIn path name) (ends' : EndsIn other last)
    (differ : name ≠ last) (spare : ∀ end_ ∈ [path, other], before.Spare end_)
    (site : before.site? path = some output) (site' : before.site? other = some diagnostics)
    (blank : before.entry? output = some (.file [] mode))
    (blank' : before.entry? diagnostics = some (.file [] mode')) :
    let sinks : Sinks := { output := .opened output, diagnostics := .opened diagnostics }
    Beside [path, other] before (sinks.deliver pieces before) ∧
      FileTree.entry? (sinks.deliver pieces before) output =
        some (.file (printed .output pieces) mode) ∧
      FileTree.entry? (sinks.deliver pieces before) diagnostics =
        some (.file (printed .diagnostics pieces) mode') := by
  intro sinks
  have alone := (spare path (by simp)).alone site
  have alone' := (spare other (by simp)).alone site'
  have apart := sites_differ ends ends' differ site site'
  have written : entry? (sinks.deliver pieces before) output =
      some (.file (printed .output pieces) mode) := by
    refine Sinks.deliver_own rfl (fun stream differs connected => ?_) alone blank rfl
    cases stream with
    | output => exact differs rfl
    | diagnostics => cases connected; exact apart rfl
  have written' : entry? (sinks.deliver pieces before) diagnostics =
      some (.file (printed .diagnostics pieces) mode') := by
    refine Sinks.deliver_own rfl (fun stream differs connected => ?_) alone' blank' rfl
    cases stream with
    | output => cases connected; exact apart rfl
    | diagnostics => exact differs rfl
  have ways : SameWays before (sinks.deliver pieces before) := by
    refine Sinks.deliver_ways fun stream place connected _ => ?_
    cases stream with
    | output => cases connected; exact alone
    | diagnostics => cases connected; exact alone'
  refine ⟨⟨.of_ways ways Sinks.deliver_shared fun spot clear => ?_, spare, fun end_ member => ?_⟩,
    written, written'⟩
  · refine Sinks.deliver_other fun stream place connected => ?_
    cases stream with
    | output =>
        cases connected
        rw [twins_alone alone]
        simpa using fun same : spot = output => clear path (by simp) (same ▸ site)
    | diagnostics =>
        cases connected
        rw [twins_alone alone']
        simpa using fun same : spot = diagnostics => clear other (by simp) (same ▸ site')
  · refine ⟨isOrdinary_iff.mpr fun spot here => ?_, fun spot here => ?_⟩
    · rw [← ways.site] at here
      refine ⟨?_, ?_⟩
      · unfold Alone
        rw [Sinks.deliver_shared]
        exact (spare end_ member).alone here
      · simp only [List.mem_cons, List.not_mem_nil, or_false] at member
        rcases member with rfl | rfl
        · cases site.symm.trans here
          simp [written, isPlain]
        · cases site'.symm.trans here
          simp [written', isPlain]
    · rw [← ways.site] at here
      rw [← ways.isDirectoryAt]
      exact (spare end_ member).outside spot here

theorem error_beside {dir : String} {cause : IoError} {other : String}
    (proper : IsName name) (plain : '/' ∉ name.toList) (proper' : IsName other)
    (plain' : '/' ∉ other.toList) (site : before.site? (Path.join dir name) = some place)
    (failed : before.find .itself (Path.join dir other) = .error cause) :
    refusal? (Path.join dir other) = some cause ∨
      refusal? (Path.join dir other) = none ∧ cause = .nameTooLong := by
  obtain ⟨_, _, directory, entered, inside, _⟩ := (site_join dir proper plain).mp site
  rw [find_eq, partsOf_join dir plain', isAbsolute_join dir plain'] at failed
  cases refused : refusal? (Path.join dir other) with
  | some own =>
      rw [refused] at failed
      exact .inl (by rw [Except.error.inj failed])
  | none =>
      simp only [refused, resolve_concat proper' _ _ (.inl rfl), entered] at failed
      refine .inr ⟨rfl, ?_⟩
      unfold look at failed
      simp only [inside] at failed
      by_cases long : nameLimit < Text.size other
      · simpa [long, eq_comm] using failed
      · cases present : before.entry? (other :: directory) <;> simp [long, present] at failed

end Acceptance.FileTree
