import Acceptance.Proofs.Named

namespace Acceptance

open Text (Bytes)

-- The operations by path, each described by the place at which it takes effect and by what it
-- leaves there.

def Entry.bytes? : Entry → Option Bytes
  | .file content _ => some content
  | .device .terminal => none
  | .device _ => some []
  | _ => none

theorem toOption_eq_some {ε α : Type} {result : Except ε α} {value : α} :
    result.toOption = some value ↔ result = .ok value := by
  cases result <;> simp [Except.toOption]

namespace FileTree

variable {tree left right after cleared : FileTree} {place other : Place} {path name : String}
  {entry : Entry} {bytes : Bytes}

theorem locate_eq_ok :
    tree.locate path = .ok place ↔ tree.find .target path = .ok (.entry place) := by
  unfold locate
  cases tree.find .target path with
  | error cause => simp [bind, Except.bind]
  | ok found => cases found <;> simp [bind, Except.bind, pure, Except.pure]

theorem status_eq_ok : tree.status path = .ok entry ↔
    ∃ place, tree.locate path = .ok place ∧ tree.entry? place = some entry := by
  unfold status
  cases tree.locate path with
  | error cause => simp [bind, Except.bind]
  | ok place =>
      cases present : tree.entry? place <;>
        simp [bind, Except.bind, pure, Except.pure, present]

theorem isFile_iff :
    tree.isFile path ↔ ∃ content mode, tree.status path = .ok (.file content mode) := by
  unfold isFile
  cases tree.status path with
  | error cause => simp
  | ok entry => cases entry <;> simp

theorem read_eq_ok : tree.read path = .ok bytes ↔
    ∃ entry, tree.status path = .ok entry ∧ entry.bytes? = some bytes := by
  unfold read
  cases tree.status path with
  | error cause => simp [bind, Except.bind]
  | ok entry =>
      cases entry with
      | device device => cases device <;> simp [bind, Except.bind, pure, Except.pure, Entry.bytes?]
      | file content mode => simp [bind, Except.bind, pure, Except.pure, Entry.bytes?]
      | directory => simp [bind, Except.bind, Entry.bytes?]
      | link target => simp [bind, Except.bind, Entry.bytes?]

theorem lead_of_locate (found : tree.locate path = .ok place) : tree.lead? path = some place := by
  rw [lead?, locate_eq_ok.mp found]
  rfl

theorem SameWays.locate (ways : SameWays left right) (found : left.locate path = .ok place)
    (kept : right.entry? place = none → left.entry? place = none) :
    right.locate path = .ok place := by
  rw [locate_eq_ok] at found ⊢
  have akin := find_akin ways .target path
  rw [found] at akin
  generalize right.find .target path = other at akin
  cases akin with
  | same => rfl
  | lost lostLeft _ =>
      obtain ⟨directory, name, equal⟩ := lostLeft
      cases equal
  | ends spot endsLeft endsRight =>
      cases Option.some.inj endsLeft.spot
      unfold Ends at endsLeft endsRight
      split at endsRight
      · exact endsRight
      · rename_i absent
        rw [kept absent] at endsLeft
        obtain ⟨directory, name, _, equal⟩ := endsLeft
        cases equal

theorem SameWays.read (ways : SameWays left right) (found : left.read path = .ok bytes)
    (kept : ∀ place, left.lead? path = some place →
      (right.entry? place).bind Entry.bytes? = (left.entry? place).bind Entry.bytes?) :
    right.read path = .ok bytes := by
  obtain ⟨entry, seen, content⟩ := read_eq_ok.mp found
  obtain ⟨place, located, present⟩ := status_eq_ok.mp seen
  have same := kept place (lead_of_locate located)
  rw [present, Option.bind_some, content] at same
  obtain ⟨other, present', content'⟩ := Option.bind_eq_some_iff.mp same
  have located' := ways.locate located (by simp [present'])
  exact read_eq_ok.mpr ⟨other, status_eq_ok.mpr ⟨place, located', present'⟩, content'⟩

theorem lead_straight (ends : EndsIn path name) (site : tree.site? path = some place)
    (straight : tree.NotLink place) : tree.lead? path = some place := by
  rw [lead?, find_straight ends, ← site, site?]
  intro spot found
  rw [site?, found] at site
  cases site
  exact straight

-- Without a link at its end a path is located where it leads itself.
theorem locate_straight (ends : EndsIn path name) (site : tree.site? path = some place)
    (straight : tree.NotLink place) (present : tree.entry? place ≠ none) :
    tree.locate path = .ok place := by
  have arrived := find_of_site ends site
  unfold Ends at arrived
  split at arrived
  · rw [locate_eq_ok, find_straight ends, arrived]
    intro spot found
    rw [arrived] at found
    cases found
    exact straight
  · rename_i absent
    exact (present absent).elim

theorem site_of_locate (ends : EndsIn path name) (found : tree.locate path = .ok place)
    (straight : ∀ spot, tree.site? path = some spot → tree.NotLink spot) :
    tree.site? path = some place := by
  rw [locate_eq_ok, find_straight ends] at found
  · simp [site?, found]
  · intro spot itself
    exact straight spot (by simp [site?, itself])

theorem site_of_lead (ends : EndsIn path name) (found : tree.locate path = .ok place) :
    ∃ spot, tree.site? path = some spot := by
  cases site : tree.site? path with
  | some spot => exact ⟨spot, rfl⟩
  | none =>
      obtain ⟨cause, failed⟩ := find_of_no_site ends site
      rw [locate_eq_ok, find_straight ends (by simp [failed]), failed] at found
      cases found

-- The path by which an entry is removed: separators at the end do not count.
def ownPath (path : String) : String :=
  if (trimSlashes path).1.isEmpty then path else (trimSlashes path).1

theorem ownPath_named (ends : EndsIn path name) : ownPath path = path := by
  simp [ownPath, trimSlashes_named ends]

theorem ownPath_unslashed (unslashed : (trimSlashes path).2 = false) : ownPath path = path := by
  have whole : (path.toList.reverse.dropWhile (· == '/')).reverse = path.toList := by
    have suffix := List.dropWhile_suffix (l := path.toList.reverse) (· == '/')
    have long : (path.toList.reverse.dropWhile (· == '/')).length = path.toList.reverse.length := by
      rw [List.length_reverse, String.length_toList]
      simpa [trimSlashes, bne] using unslashed
    rw [suffix.eq_of_length long, List.reverse_reverse]
  simp [ownPath, trimSlashes, whole]

theorem remove_eq (tree : FileTree) (path : String) : tree.remove path =
    match tree.find .itself (ownPath path) with
    | .error cause => .error cause
    | .ok (.vacant _ _ _) => .error .noEntry
    | .ok (.entry place) =>
        if tree.isDirectoryAt place then .error .isDirectory
        else if (trimSlashes path).2 then .error .notDirectory
        else .ok (tree.erase place) := by
  unfold remove ownPath
  rcases trimSlashes path with ⟨trimmed, slash⟩
  simp only [bind, Except.bind]
  cases tree.find .itself (if trimmed.isEmpty then path else trimmed) with
  | error cause => rfl
  | ok found => cases found <;> rfl

theorem removeStale_cases (removed : tree.removeStale path = .ok cleared) :
    cleared = tree ∨ ∃ place, tree.find .itself path = .ok (.entry place) ∧
      tree.isDirectoryAt place = false ∧ cleared = tree.erase place := by
  unfold removeStale at removed
  rw [remove_eq] at removed
  cases found : tree.find .itself (ownPath path) with
  | error cause =>
      simp only [found] at removed
      split at removed
      · exact .inl (Except.ok.inj removed).symm
      · cases removed
  | ok spot =>
      simp only [found] at removed
      cases spot with
      | vacant directory name slash =>
          simp only [if_true] at removed
          exact .inl (Except.ok.inj removed).symm
      | entry place =>
          by_cases directory : tree.isDirectoryAt place
          · simp [directory, show IoError.isDirectory ≠ .noEntry by decide] at removed
          by_cases slash : (trimSlashes path).2
          · simp [directory, slash, show IoError.notDirectory ≠ .noEntry by decide] at removed
          rw [ownPath_unslashed (by simpa using slash)] at found
          simp only [directory, slash] at removed
          exact .inr ⟨place, found, by simpa using directory, (Except.ok.inj removed).symm⟩

theorem removeStale_entry (ends : EndsIn path name)
    (found : tree.find .itself path = .ok (.entry place)) : tree.removeStale path =
      if tree.isDirectoryAt place then .error .isDirectory else .ok (tree.erase place) := by
  unfold removeStale
  rw [remove_eq, ownPath_named ends, found, trimSlashes_named ends]
  by_cases directory : tree.isDirectoryAt place
  · simp [directory, show IoError.isDirectory ≠ .noEntry by decide]
  · simp [directory]

theorem removeStale_vacant {directory : Place} {slash : Bool} (ends : EndsIn path name)
    (found : tree.find .itself path = .ok (.vacant directory name slash)) :
    tree.removeStale path = .ok tree := by
  unfold removeStale
  rw [remove_eq, ownPath_named ends, found]
  simp

theorem removeStale_error {cause : IoError} (ends : EndsIn path name)
    (found : tree.find .itself path = .error cause) :
    tree.removeStale path = if cause = .noEntry then .ok tree else .error cause := by
  unfold removeStale
  rw [remove_eq, ownPath_named ends, found]

-- What is no directory is removed, whatever it is.
theorem removeStale_outside (ends : EndsIn path name) (site : tree.site? path = some place)
    (outside : tree.isDirectoryAt place = false) : tree.removeStale path =
      .ok (if (tree.entry? place).isSome then tree.erase place else tree) := by
  have arrived := find_of_site ends site
  obtain ⟨directory, rfl⟩ := site_named ends site
  unfold Ends at arrived
  split at arrived
  · rename_i entry present
    simp [removeStale_entry ends arrived, outside, present]
  · rename_i absent
    obtain ⟨above, last, equal, found⟩ := arrived
    cases equal
    simp [removeStale_vacant ends found, absent]

theorem removeStale_gone {cleared : FileTree} (ends : EndsIn path name)
    (site : tree.site? path = some place) (outside : tree.isDirectoryAt place = false)
    (removed : tree.removeStale path = .ok cleared) : cleared.entry? place = none := by
  rw [removeStale_outside ends site outside] at removed
  obtain ⟨directory, rfl⟩ := site_named ends site
  cases removed
  split
  · simp [entry?_erase]
  · rename_i absent
    simpa using absent

theorem removeStale_inside (ends : EndsIn path name) (site : tree.site? path = some place)
    (inside : tree.isDirectoryAt place) : tree.removeStale path = .error .isDirectory := by
  have arrived := find_of_site ends site
  unfold isDirectoryAt at inside
  have present : tree.entry? place = some .directory := by simpa using inside
  unfold Ends at arrived
  rw [present] at arrived
  simp [removeStale_entry ends arrived, isDirectoryAt, present]

theorem create_eq (tree : FileTree) (path : String) : tree.create path =
    match tree.find .newFile path with
    | .error cause => .error cause
    | .ok (.vacant directory name _) =>
        .ok (name :: directory, tree.put (name :: directory) (.file [] Entry.plainMode))
    | .ok (.entry place) =>
        match tree.entry? place with
        | some (.file _ mode) => .ok (place, tree.store place [] mode)
        | some (.device .terminal) => .error .noDevice
        | some (.device _) => .ok (place, tree)
        | _ => .error .isDirectory := by
  unfold create
  simp only [bind, Except.bind]
  cases tree.find .newFile path with
  | error cause => rfl
  | ok found =>
      cases found with
      | vacant directory name slash => rfl
      | entry place =>
          simp only
          cases tree.entry? place with
          | none => rfl
          | some entry =>
              cases entry with
              | device device => cases device <;> rfl
              | file content mode => rfl
              | directory => rfl
              | link target => rfl

-- A file that is made or emptied, or a device that stays as it is.
theorem create_cases (made : tree.create path = .ok (place, after)) :
    (∃ directory name slash, tree.find .newFile path = .ok (.vacant directory name slash) ∧
        place = name :: directory ∧ after = tree.put place (.file [] Entry.plainMode)) ∨
      (∃ content mode, tree.find .newFile path = .ok (.entry place) ∧
        tree.entry? place = some (.file content mode) ∧ after = tree.store place [] mode) ∨
      ∃ device, tree.find .newFile path = .ok (.entry place) ∧
        tree.entry? place = some (.device device) ∧ after = tree := by
  rw [create_eq] at made
  split at made
  · cases made
  · rename_i directory name slash found
    cases made
    exact .inl ⟨directory, name, slash, found, rfl, rfl⟩
  · rename_i spot found
    split at made
    · rename_i content mode present
      cases made
      exact .inr (.inl ⟨content, mode, found, present, rfl⟩)
    · cases made
    · rename_i device _ present
      cases made
      exact .inr (.inr ⟨device, found, present, rfl⟩)
    · cases made

-- What is found for a new file is what is found for reading, and it demands no directory.
theorem advance_newFile {place : Place} {parts : List String} {progress : Progress}
    (reached : tree.advance .newFile place parts = progress)
    (well : ∀ cause, progress ≠ .failed cause) :
    tree.advance .target place parts = progress ∧
      ∀ directory name slash, progress = .arrived (.vacant directory name slash) →
        slash = false := by
  fun_induction tree.advance .newFile place parts with
  | case1 current => exact ⟨reached, by rintro _ _ _ rfl; cases reached⟩
  | case2 | case5 | case6 | case8 => exact (well _ reached.symm).elim
  | case3 current part rest inside same ih =>
      rw [advance, if_neg inside, if_pos same]
      exact ih reached
  | case4 current rest inside proper ih =>
      rw [advance, if_neg inside, if_neg proper, if_pos rfl]
      exact ih reached
  | case7 current part rest inside proper down fits short absent final =>
      have last : rest = [] := by simpa [final] using fits
      subst reached
      simp_all [advance]
  | case9 => simp at *
  | case10 current part rest inside proper down fits short target present stays =>
      subst reached
      simp_all [advance]
  | case11 current part rest inside proper down fits short entry passable present ih =>
      have onward : tree.advance .target current (part :: rest) =
          tree.advance .target (part :: current) rest := by
        rw [advance, if_neg inside, if_neg proper, if_neg down, if_neg (by simp), if_neg short,
          present]
        split
        · contradiction
        · exact (passable _ (Option.some.inj ‹_›)).elim
        · rfl
      rw [onward]
      exact ih reached

theorem resolve_newFile {links : Nat} {start : Place} {parts : List String} {found : Found}
    (reached : tree.resolve .newFile links start parts = .ok found) :
    tree.resolve .target links start parts = .ok found ∧
      ∀ directory name slash, found = .vacant directory name slash → slash = false := by
  unfold resolve at reached ⊢
  cases walked : tree.advance .newFile start parts with
  | failed cause => simp [walked] at reached
  | arrived spot =>
      obtain ⟨same, demands⟩ := advance_newFile walked (by simp)
      simp only [walked, Except.ok.injEq] at reached
      subst reached
      simpa [same] using demands
  | detour directory target rest =>
      obtain ⟨same, _⟩ := advance_newFile walked (by simp)
      cases links with
      | zero => simp [walked] at reached
      | succ links =>
          simp only [walked] at reached
          simp only [same]
          exact resolve_newFile reached

theorem lead_of_newFile {found : Found} (reached : tree.find .newFile path = .ok found) :
    tree.lead? path = spot? (.ok found) ∧
      ∀ directory name slash, found = .vacant directory name slash → slash = false := by
  rw [find_eq] at reached
  unfold lead?
  rw [find_eq]
  cases refused : refusal? path with
  | some cause => simp [refused] at reached
  | none =>
      simp only [refused] at reached
      obtain ⟨same, demands⟩ := resolve_newFile reached
      exact ⟨by simp only [same], demands⟩

theorem create_leads (made : tree.create path = .ok (place, after)) :
    tree.lead? path = some place := by
  rcases create_cases made with ⟨directory, name, slash, found, rfl, _⟩ | ⟨_, _, found, _, _⟩ |
    ⟨_, found, _, _⟩
  · obtain ⟨same, demands⟩ := lead_of_newFile found
    obtain rfl := demands _ _ _ rfl
    exact same
  · exact (lead_of_newFile found).1
  · exact (lead_of_newFile found).1

theorem create_shared (made : tree.create path = .ok (place, after)) :
    after.shared = tree.shared := by
  rcases create_cases made with ⟨_, _, _, _, _, rfl⟩ | ⟨_, _, _, _, rfl⟩ | ⟨_, _, _, rfl⟩
  · exact put_shared
  · exact store_shared
  · rfl

end FileTree
end Acceptance
