import Acceptance.Proofs.Delivery
import Acceptance.Proofs.Visits

namespace Acceptance.FileTree

open Text (Bytes)

-- Regions of a file system. Trees agree on a region if they have the same entries there and give
-- the files there the same names.

variable {tree left right middle before after cleared : FileTree} {place other third home : Place}
  {path : String} {content bytes : Bytes} {mode offset : Nat} {region wide : Place → Prop}

-- Every name of a file shows the same, and no name belongs to two files.
structure Coherent (tree : FileTree) : Prop where
  disjoint : ∀ one ∈ tree.shared, ∀ group ∈ tree.shared, ∀ place ∈ one, place ∈ group → one = group
  files : ∀ place other, tree.Together place other → ∃ content mode,
    tree.entry? place = some (.file content mode) ∧ tree.entry? other = some (.file content mode)

theorem Together.symm (together : tree.Together place other) : tree.Together other place := by
  obtain ⟨differ, group, member, inside, inside'⟩ := together
  exact ⟨differ.symm, group, member, inside', inside⟩

namespace Coherent

theorem together_trans (coherent : tree.Coherent) (first : tree.Together place other)
    (second : tree.Together other third) (differ : place ≠ third) : tree.Together place third := by
  obtain ⟨_, group, member, inside, middle⟩ := first
  obtain ⟨_, group', member', middle', inside'⟩ := second
  cases coherent.disjoint group member group' member' other middle middle'
  exact ⟨differ, group, member, inside, inside'⟩

theorem mem_twins (coherent : tree.Coherent) :
    other ∈ tree.twins place ↔ other = place ∨ tree.Together place other := by
  unfold twins
  cases found : tree.shared.find? (·.contains place) with
  | none =>
      have missing := List.find?_eq_none.mp found
      simp only [Option.getD_none, List.mem_singleton]
      refine ⟨.inl, fun named => named.elim id ?_⟩
      rintro ⟨_, group, member, inside, _⟩
      exact (missing group member (by simpa using inside)).elim
  | some group =>
      have member := List.mem_of_find?_eq_some found
      have inside : place ∈ group := by simpa using List.find?_some found
      simp only [Option.getD_some]
      constructor
      · intro inside'
        by_cases same : other = place
        · exact .inl same
        · exact .inr ⟨Ne.symm same, group, member, inside, inside'⟩
      · rintro (rfl | ⟨_, group', member', middle, inside'⟩)
        · exact inside
        · rwa [coherent.disjoint group member group' member' place inside middle]

theorem erase (coherent : tree.Coherent) (place : Place) : (tree.erase place).Coherent := by
  constructor
  · intro one member group member' spot inside inside'
    simp only [FileTree.erase, forget, List.mem_filter, List.mem_map] at member member'
    obtain ⟨⟨old, present, rfl⟩, _⟩ := member
    obtain ⟨⟨old', present', rfl⟩, _⟩ := member'
    rw [coherent.disjoint old present old' present' spot (List.mem_filter.mp inside).1
      (List.mem_filter.mp inside').1]
  · intro one other together
    obtain ⟨kept, kept', together⟩ := together_erase.mp together
    simpa [entry?_erase, kept, kept'] using coherent.files one other together

theorem put {entry : Entry} (coherent : tree.Coherent) (vacant : tree.entry? place = none) :
    (tree.put place entry).Coherent := by
  refine ⟨coherent.disjoint, fun one other together => ?_⟩
  obtain ⟨content, mode, present, present'⟩ := coherent.files one other together
  have kept : one ≠ place := by
    rintro rfl
    simp [vacant] at present
  have kept' : other ≠ place := by
    rintro rfl
    simp [vacant] at present'
  exact ⟨content, mode, by simpa [entry?_put, kept], by simpa [entry?_put, kept']⟩

theorem store (coherent : tree.Coherent) (place : Place) (content : Bytes) (mode : Nat) :
    (tree.store place content mode).Coherent := by
  refine ⟨by rw [store_shared]; exact coherent.disjoint, fun one other together => ?_⟩
  have old : tree.Together one other := by
    unfold Together at together ⊢
    rwa [store_shared] at together
  obtain ⟨content', mode', present, present'⟩ := coherent.files one other old
  have inner : one ≠ [] := by
    rintro rfl
    cases present
  have inner' : other ≠ [] := by
    rintro rfl
    cases present'
  -- A name is written to exactly if all names of its file are.
  have both : ∀ {spot next}, tree.Together spot next → spot ∈ tree.twins place →
      next ∈ tree.twins place := by
    intro spot next linked inside
    rw [coherent.mem_twins] at inside ⊢
    rcases inside with rfl | named
    · exact .inr linked
    · by_cases same : next = place
      · exact .inl same
      · exact .inr (coherent.together_trans named linked (Ne.symm same))
  by_cases inside : one ∈ tree.twins place
  · exact ⟨content, mode, by simp [entry?_store, inside, inner],
      by simp [entry?_store, both old inside, inner']⟩
  · have outside : other ∉ tree.twins place := fun inside' => inside (both old.symm inside')
    exact ⟨content', mode', by simpa [entry?_store, inside], by simpa [entry?_store, outside]⟩

theorem writeAt (coherent : tree.Coherent) (place : Place) (offset : Nat) (bytes : Bytes) :
    (tree.writeAt place offset bytes).Coherent := by
  rcases writeAt_cases tree place offset bytes with same | ⟨content, mode, _, stored⟩
  · rwa [same]
  · rw [stored]
    exact coherent.store place _ mode

theorem create (coherent : tree.Coherent) (made : tree.create path = .ok (place, after)) :
    after.Coherent := by
  rcases create_cases made with ⟨_, _, _, found, rfl, rfl⟩ | ⟨_, mode, _, _, rfl⟩ | ⟨_, _, _, rfl⟩
  · exact coherent.put (find_vacant found)
  · exact coherent.store place [] mode
  · exact coherent

theorem write (coherent : tree.Coherent) (channel : Channel) (offset : Nat) (bytes : Bytes) :
    (Sinks.write tree channel offset bytes).Coherent := by
  cases channel with
  | nothing => exact coherent
  | collected => exact coherent
  | opened spot => exact coherent.writeAt spot offset bytes

end Coherent

structure AgreeOn (region : Place → Prop) (left right : FileTree) : Prop where
  cwd : right.cwd = left.cwd
  entry : ∀ place, region place → right.entry? place = left.entry? place
  together : ∀ place other, region place → region other →
    (right.Together place other ↔ left.Together place other)

namespace AgreeOn

theorem refl (tree : FileTree) : AgreeOn region tree tree :=
  ⟨rfl, fun _ _ => rfl, fun _ _ _ _ => Iff.rfl⟩

theorem symm (agree : AgreeOn region left right) : AgreeOn region right left :=
  ⟨agree.cwd.symm, fun place inside => (agree.entry place inside).symm,
    fun place other inside inside' => (agree.together place other inside inside').symm⟩

theorem trans (first : AgreeOn region left middle) (second : AgreeOn region middle right) :
    AgreeOn region left right :=
  ⟨second.cwd.trans first.cwd,
    fun place inside => (second.entry place inside).trans (first.entry place inside),
    fun place other inside inside' => (second.together place other inside inside').trans
      (first.together place other inside inside')⟩

theorem mono (agree : AgreeOn wide left right) (narrow : ∀ place, region place → wide place) :
    AgreeOn region left right :=
  ⟨agree.cwd, fun place inside => agree.entry place (narrow place inside),
    fun place other inside inside' =>
      agree.together place other (narrow place inside) (narrow other inside')⟩

theorem erase (agree : AgreeOn region left right) (place : Place) :
    AgreeOn region (left.erase place) (right.erase place) := by
  refine ⟨agree.cwd, fun spot inside => ?_, fun one other inside inside' => ?_⟩
  · rw [entry?_erase, entry?_erase, agree.entry spot inside]
  · rw [together_erase, together_erase, agree.together one other inside inside']

theorem put (agree : AgreeOn region left right) (place : Place) (entry : Entry) :
    AgreeOn region (left.put place entry) (right.put place entry) := by
  refine ⟨agree.cwd, fun spot inside => ?_, agree.together⟩
  rw [entry?_put, entry?_put, agree.entry spot inside]

theorem store (agree : AgreeOn region left right) (coherent : left.Coherent)
    (coherent' : right.Coherent) (inside : region place) :
    AgreeOn region (left.store place content mode) (right.store place content mode) := by
  refine ⟨by simpa using agree.cwd, fun spot inside' => ?_, fun one other first second => ?_⟩
  · have same : spot ∈ right.twins place ↔ spot ∈ left.twins place := by
      rw [coherent.mem_twins, coherent'.mem_twins, agree.together place spot inside inside']
    simp only [entry?_store, same, agree.entry spot inside']
  · have same := agree.together one other first second
    unfold Together at same ⊢
    simpa only [store_shared] using same

theorem writeAt (agree : AgreeOn region left right) (coherent : left.Coherent)
    (coherent' : right.Coherent) (inside : region place) :
    AgreeOn region (left.writeAt place offset bytes) (right.writeAt place offset bytes) := by
  have same := agree.entry place inside
  unfold FileTree.writeAt
  rw [same]
  split
  · exact agree.store coherent coherent' inside
  · exact agree

theorem write {channel : Channel} (agree : AgreeOn region left right) (coherent : left.Coherent)
    (coherent' : right.Coherent) (opened : ∀ place, channel = .opened place → region place) :
    AgreeOn region (Sinks.write left channel offset bytes)
      (Sinks.write right channel offset bytes) := by
  cases channel with
  | nothing => exact agree
  | collected => exact agree
  | opened place => exact agree.writeAt coherent coherent' (opened place rfl)

theorem deliver {sinks : Sinks} (pieces : List (Stream × Bytes))
    (agree : AgreeOn region left right) (coherent : left.Coherent) (coherent' : right.Coherent)
    (opened : ∀ stream place, sinks.channel stream = .opened place → region place) :
    AgreeOn region (sinks.deliver pieces left) (sinks.deliver pieces right) := by
  induction pieces generalizing sinks left right with
  | nil => exact agree
  | cons piece pieces ih =>
      have same : (Sinks.step (sinks, right) piece).1 = (Sinks.step (sinks, left) piece).1 := by
        obtain ⟨stream, bytes⟩ := piece
        cases stream <;> rfl
      rw [Sinks.deliver_cons, Sinks.deliver_cons, same, Sinks.step_tree, Sinks.step_tree]
      refine ih (agree.write coherent coherent' (opened piece.1)) (coherent.write _ _ _)
        (coherent'.write _ _ _) fun stream place connected => ?_
      rw [Sinks.step_channel] at connected
      exact opened stream place connected

theorem find (agree : AgreeOn region left right)
    (ways : ∀ place, left.Passes path place → region place) (purpose : Purpose) :
    right.find purpose path = left.find purpose path :=
  find_agree agree.cwd fun place passes => agree.entry place (ways place passes)

theorem locate (agree : AgreeOn region left right)
    (ways : ∀ place, left.Passes path place → region place) :
    right.locate path = left.locate path := by
  rw [FileTree.locate, FileTree.locate, agree.find ways]

theorem input (agree : AgreeOn region left right) (inside : region place) :
    right.inputOf (.opened place) = left.inputOf (.opened place) := by
  simp only [inputOf, agree.entry place inside]

theorem status (agree : AgreeOn region left right)
    (ways : ∀ place, left.Passes path place → region place) :
    right.status path = left.status path := by
  rw [FileTree.status, FileTree.status, agree.locate ways]
  cases found : left.locate path with
  | error cause => rfl
  | ok place =>
      simp only [bind, Except.bind]
      rw [agree.entry place (ways place (passes_of_locate found))]

theorem isFile (agree : AgreeOn region left right)
    (ways : ∀ place, left.Passes path place → region place) :
    right.isFile path = left.isFile path := by
  rw [FileTree.isFile, FileTree.isFile, agree.status ways]

theorem read (agree : AgreeOn region left right)
    (ways : ∀ place, left.Passes path place → region place) :
    right.read path = left.read path := by
  rw [FileTree.read, FileTree.read, agree.status ways]

end AgreeOn

inductive Matched {α : Type} (related : α → α → Prop) :
    Except IoError α → Except IoError α → Prop where
  | failed (cause : IoError) : Matched related (.error cause) (.error cause)
  | done {one other : α} (still : related one other) : Matched related (.ok one) (.ok other)

theorem Matched.of_failed {α : Type} {related : α → α → Prop} {cause : IoError}
    {other : Except IoError α} (matched : Matched related (.error cause) other) :
    other = .error cause := by
  cases matched
  rfl

theorem Matched.of_done {α : Type} {related : α → α → Prop} {one : α} {other : Except IoError α}
    (matched : Matched related (.ok one) other) : ∃ two, other = .ok two ∧ related one two := by
  cases matched with
  | done still => exact ⟨_, rfl, still⟩

theorem AgreeOn.removeStale (agree : AgreeOn region left right)
    (ways : ∀ place, left.Passes path place → region place) :
    Matched (AgreeOn region) (left.removeStale path) (right.removeStale path) := by
  have found := agree.find (fun place passes => ways place (Passes.of_ownPath passes)) .itself
  unfold FileTree.removeStale
  rw [remove_eq, remove_eq, found]
  cases reached : left.find .itself (ownPath path) with
  | error cause =>
      simp only
      split
      · exact .done agree
      · exact .failed cause
  | ok found =>
      cases found with
      | vacant directory name slash => exact .done agree
      | entry place =>
          have passes : left.Passes path place :=
            Passes.of_ownPath (find_passes (congrArg spot? reached))
          simp only [isDirectoryAt_congr (agree.entry place (ways place passes))]
          by_cases directory : left.isDirectoryAt place
          · simp only [directory]
            exact .failed _
          by_cases slash : (trimSlashes path).2
          · simp only [directory, slash]
            exact .failed _
          · simp only [directory, slash]
            exact .done (agree.erase place)

theorem AgreeOn.create (agree : AgreeOn region left right) (coherent : left.Coherent)
    (coherent' : right.Coherent) (ways : ∀ place, left.Passes path place → region place) :
    Matched (fun one other => one.1 = other.1 ∧ AgreeOn region one.2 other.2)
      (left.create path) (right.create path) := by
  rw [create_eq, create_eq, agree.find ways .newFile]
  cases reached : left.find .newFile path with
  | error cause => exact .failed cause
  | ok found =>
      cases found with
      | vacant directory name slash => exact .done ⟨rfl, agree.put _ _⟩
      | entry place =>
          have inside : region place := ways place (find_passes (congrArg spot? reached))
          simp only [agree.entry place inside]
          split
          · exact .done ⟨rfl, agree.store coherent coherent' inside⟩
          · exact .failed _
          · exact .done ⟨rfl, agree⟩
          · exact .failed _

theorem AgreeOn.overwrite (agree : AgreeOn region left right) (coherent : left.Coherent)
    (coherent' : right.Coherent) (ways : ∀ place, left.Passes path place → region place) :
    Matched (AgreeOn region) (left.write path content) (right.write path content) := by
  have creation := agree.create coherent coherent' ways
  unfold FileTree.write
  cases made : left.create path with
  | error cause =>
      rw [made] at creation
      rw [creation.of_failed]
      exact .failed cause
  | ok one =>
      rw [made] at creation
      obtain ⟨⟨place, opened'⟩, made', rfl, near⟩ := creation.of_done
      have inside : region one.1 := ways one.1 (find_passes (create_leads made))
      have same : opened'.isFull one.1 = one.2.isFull one.1 := by
        rw [isFull, isFull, near.entry one.1 inside]
      rw [made']
      simp only [bind, Except.bind, same]
      by_cases full : (one.2.isFull one.1 && !content.isEmpty)
      · simp only [full]
        exact .failed _
      · simp only [full]
        exact .done (near.writeAt (coherent.create made) (coherent'.create made') inside)

-- All names of a file that has one in a directory are in there.
def Closed (home : Place) (tree : FileTree) : Prop :=
  ∀ place other, tree.Together place other → Below home place → Below home other

-- Entries in a directory have become files or vanished, and names in there are given up.
structure Trims (home : Place) (before after : FileTree) : Prop where
  pruned : Pruned (Below home) before after
  fewer : ∀ place other, after.Together place other → before.Together place other
  kept : ∀ place other, ¬Below home place → ¬Below home other →
    before.Together place other → after.Together place other
  coherent : after.Coherent

namespace Trims

theorem refl (coherent : tree.Coherent) : Trims home tree tree :=
  ⟨⟨rfl, fun _ => .inl rfl⟩, fun _ _ => id, fun _ _ _ _ => id, coherent⟩

theorem trans (first : Trims home before middle) (second : Trims home middle after) :
    Trims home before after := by
  refine ⟨⟨second.pruned.cwd.trans first.pruned.cwd, fun place => ?_⟩,
    fun place other together => first.fewer _ _ (second.fewer _ _ together),
    fun place other out out' together =>
      second.kept _ _ out out' (first.kept _ _ out out' together),
    second.coherent⟩
  rcases second.pruned.entry place with same | changed
  · rw [same]
    exact first.pruned.entry place
  · exact .inr changed

theorem agree (trims : Trims home before after) :
    AgreeOn (fun place => ¬Below home place) before after := by
  refine ⟨trims.pruned.cwd, fun place outside => ?_, fun place other out out' =>
    ⟨trims.fewer place other, trims.kept place other out out'⟩⟩
  exact (trims.pruned.entry place).resolve_right fun changed => outside changed.1

theorem closed (trims : Trims home before after) (closed : Closed home before) :
    Closed home after := fun place other together => closed place other (trims.fewer _ _ together)

theorem of_erase (coherent : tree.Coherent) (below : Below home place) :
    Trims home tree (tree.erase place) := by
  refine ⟨(Pruned.erase tree place).mono (by rintro _ rfl; exact below),
    fun one other together => (together_erase.mp together).2.2,
    fun one other out out' together => together_erase.mpr ⟨?_, ?_, together⟩,
    coherent.erase place⟩
  · rintro rfl
    exact out below
  · rintro rfl
    exact out' below

theorem of_put {entry : Entry} (coherent : tree.Coherent) (below : Below home place)
    (vacant : tree.entry? place = none) (leaf : Leaf (some entry)) :
    Trims home tree (tree.put place entry) := by
  refine ⟨⟨rfl, fun spot => ?_⟩, fun _ _ => id, fun _ _ _ _ => id, coherent.put vacant⟩
  rw [entry?_put]
  split
  · rename_i here
    rw [here.1]
    exact .inr ⟨below, leaf⟩
  · exact .inl rfl

theorem of_store (coherent : tree.Coherent) (closed : Closed home tree) (below : Below home place) :
    Trims home tree (tree.store place content mode) := by
  have same : (tree.store place content mode).Together = tree.Together := by
    funext one other
    unfold Together
    rw [store_shared]
  refine ⟨⟨store_cwd, fun spot => ?_⟩, fun one other => by rw [same]; exact id,
    fun one other _ _ => by rw [same]; exact id, coherent.store place content mode⟩
  rw [entry?_store]
  split
  · rename_i here
    refine .inr ⟨?_, trivial⟩
    rcases coherent.mem_twins.mp here.1 with rfl | together
    · exact below
    · exact closed place spot together below
  · exact .inl rfl

theorem of_write {channel : Channel} (coherent : tree.Coherent) (closed : Closed home tree)
    (below : ∀ place, channel = .opened place → Below home place) :
    Trims home tree (Sinks.write tree channel offset bytes) := by
  cases channel with
  | nothing => exact .refl coherent
  | collected => exact .refl coherent
  | opened place =>
      rcases writeAt_cases tree place offset bytes with same | ⟨content, mode, _, stored⟩
      · rw [Sinks.write, same]
        exact .refl coherent
      · rw [Sinks.write, stored]
        exact .of_store coherent closed (below place rfl)

theorem of_deliver {sinks : Sinks} (pieces : List (Stream × Bytes)) (coherent : tree.Coherent)
    (closed : Closed home tree)
    (below : ∀ stream place, sinks.channel stream = .opened place → Below home place) :
    Trims home tree (sinks.deliver pieces tree) := by
  induction pieces generalizing sinks tree with
  | nil => exact .refl coherent
  | cons piece pieces ih =>
      have first : Trims home tree (Sinks.step (sinks, tree) piece).2 := by
        rw [Sinks.step_tree]
        exact .of_write coherent closed (below piece.1)
      rw [Sinks.deliver_cons]
      refine first.trans (ih first.coherent (first.closed closed) fun stream place connected => ?_)
      rw [Sinks.step_channel] at connected
      exact below stream place connected

theorem of_removeStale (coherent : tree.Coherent) (directory : tree.isDirectoryAt home)
    (within : ∀ place, tree.site? path = some place → home <:+ place)
    (removed : tree.removeStale path = .ok cleared) : Trims home tree cleared := by
  rcases removeStale_cases removed with rfl | ⟨place, found, outside, rfl⟩
  · exact .refl coherent
  · refine .of_erase coherent ⟨within place (congrArg spot? found), ?_⟩
    rintro rfl
    simp [directory] at outside

theorem of_create (coherent : tree.Coherent) (closed : Closed home tree)
    (directory : tree.isDirectoryAt home)
    (within : ∀ place, tree.lead? path = some place → home <:+ place)
    (made : tree.create path = .ok (place, after)) : Trims home tree after ∧ Below home place := by
  have inside := within place (create_leads made)
  have present : tree.entry? home = some .directory := by simpa [isDirectoryAt] using directory
  have below : tree.entry? place ≠ some .directory → Below home place := by
    intro differ
    refine ⟨inside, ?_⟩
    rintro rfl
    exact differ present
  rcases create_cases made with ⟨above, name, slash, found, rfl, rfl⟩ |
    ⟨content, mode, found, file, rfl⟩ | ⟨device, found, file, rfl⟩
  · have vacant := find_vacant found
    have below := below (by simp [vacant])
    exact ⟨.of_put coherent below vacant trivial, below⟩
  · have below := below (by simp [file])
    exact ⟨.of_store coherent closed below, below⟩
  · exact ⟨.refl coherent, below (by simp [file])⟩

theorem of_overwrite (coherent : tree.Coherent) (closed : Closed home tree)
    (directory : tree.isDirectoryAt home)
    (within : ∀ place, tree.lead? path = some place → home <:+ place)
    (written : tree.write path content = .ok after) : Trims home tree after := by
  unfold FileTree.write at written
  cases made : tree.create path with
  | error cause => simp [made, bind, Except.bind] at written
  | ok one =>
      obtain ⟨place, opened⟩ := one
      obtain ⟨trims, below⟩ := of_create coherent closed directory within made
      simp only [made, bind, Except.bind] at written
      split at written
      · cases written
      · cases written
        have second : Trims home opened (Sinks.write opened (.opened place) 0 content) :=
          of_write trims.coherent (trims.closed closed) (by rintro _ ⟨⟩; exact below)
        exact trims.trans second

end Trims

end Acceptance.FileTree
