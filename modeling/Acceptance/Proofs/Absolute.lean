import Acceptance.Proofs.Regions

namespace Acceptance.FileTree

-- Absolute paths. In a sound tree every place that a path leads to has directories all the way
-- down to it, so that its absolute path leads back to it.

variable {tree before after : FileTree} {current start place : Place} {part name path : String}
  {parts rest : List String} {links : Nat} {P : Place → Prop}

structure FileName (name : String) : Prop where
  proper : IsName name
  unslashed : '/' ∉ name.toList
  plain : '\x00' ∉ name.toList
  short : ¬nameLimit < Text.size name

-- A place with directories all the way down to it.
def Rooted (tree : FileTree) (place : Place) : Prop :=
  ∀ name above, name :: above <:+ place → FileName name ∧ tree.isDirectoryAt above

theorem rooted_nil : tree.Rooted [] := by
  intro name above inside
  simp at inside

theorem Rooted.cons (rooted : tree.Rooted current) (named : FileName part)
    (inside : tree.isDirectoryAt current) : tree.Rooted (part :: current) := by
  intro name above suffix
  rcases List.suffix_cons_iff.mp suffix with same | deeper
  · cases same
    exact ⟨named, inside⟩
  · exact rooted name above deeper

theorem Rooted.names (rooted : tree.Rooted place) (member : name ∈ place) : FileName name := by
  obtain ⟨below, above, rfl⟩ := List.append_of_mem member
  exact (rooted name above (List.suffix_append below _)).1

theorem Rooted.tail (rooted : tree.Rooted current) :
    tree.Rooted current.tail ∧ tree.isDirectoryAt current.tail := by
  cases current with
  | nil => exact ⟨rooted, rfl⟩
  | cons name above =>
      exact ⟨fun other higher suffix => rooted other higher (suffix.trans (List.suffix_cons _ _)),
        (rooted name above List.suffix_rfl).2⟩

-- What a part of a path cannot hold.
def Clean (part : String) : Prop := '/' ∉ part.toList ∧ '\x00' ∉ part.toList

theorem mem_splitOn {c : Char} {chars part : List Char} (member : part ∈ chars.splitOn c) :
    c ∉ part ∧ part ⊆ chars := by
  induction chars generalizing part with
  | nil =>
      rw [List.splitOn_nil, List.mem_singleton] at member
      simp [member]
  | cons d chars ih =>
      rw [List.splitOn_cons_eq_if_modifyHead] at member
      split at member
      · rcases List.mem_cons.mp member with rfl | later
        · simp
        · exact ⟨(ih later).1, List.Subset.trans (ih later).2 (List.subset_cons_self _ _)⟩
      · rename_i other
        obtain ⟨first, more, form⟩ := List.exists_cons_of_ne_nil (List.splitOn_ne_nil c chars)
        rw [form, List.modifyHead_cons] at member
        rw [form] at ih
        rcases List.mem_cons.mp member with rfl | later
        · obtain ⟨unsplit, inside⟩ := ih List.mem_cons_self
          refine ⟨?_, List.cons_subset_cons d inside⟩
          rw [List.mem_cons, not_or]
          exact ⟨fun same => other (by simp [same]), unsplit⟩
        · obtain ⟨unsplit, inside⟩ := ih (List.mem_cons_of_mem _ later)
          exact ⟨unsplit, List.Subset.trans inside (List.subset_cons_self _ _)⟩

theorem partsOf_clean (plain : '\x00' ∉ path.toList) : ∀ part ∈ partsOf path, Clean part := by
  intro part member
  obtain ⟨chars, inside, rfl⟩ := List.mem_map.mp member
  rw [Clean, String.toList_ofList]
  obtain ⟨unslashed, subset⟩ := mem_splitOn inside
  exact ⟨unslashed, fun null => plain (subset null)⟩

-- The places a walk ends at have directories above them; what it has not looked up by name is a
-- directory itself.
def Progress.Settles (tree : FileTree) (P : Place → Prop) : Progress → Prop
  | .arrived (.entry place) => tree.Rooted place ∧ (tree.isDirectoryAt place ∨ P place)
  | .detour directory target rest => tree.Rooted directory ∧ tree.isDirectoryAt directory ∧
      (∀ part ∈ rest, Clean part) ∧ ∃ place, tree.entry? place = some (.link target)
  | _ => True

theorem advance_settles (rooted : tree.Rooted current)
    (seen : tree.isDirectoryAt current ∨ P current) (clean : ∀ part ∈ parts, Clean part)
    (looked : ∀ place ∈ tree.lookups current parts, P place) :
    (tree.advance .target current parts).Settles tree P := by
  fun_induction tree.advance .target current parts with
  | case1 current => exact ⟨rooted, seen⟩
  | case2 | case5 | case6 | case7 | case8 => trivial
  | case3 current part rest inside stay ih =>
      rw [lookups, if_neg inside, if_pos stay] at looked
      exact ih rooted (.inl (by simpa using inside)) (List.forall_mem_cons.mp clean).2 looked
  | case4 current rest inside stay ih =>
      rw [lookups, if_neg inside, if_neg stay, if_pos rfl] at looked
      exact ih rooted.tail.1 (.inl rooted.tail.2) (List.forall_mem_cons.mp clean).2 looked
  | case9 => simp at *
  | case10 current part rest inside stay up goes long target present stays =>
      exact ⟨rooted, by simpa using inside, (List.forall_mem_cons.mp clean).2, _, present⟩
  | case11 current part rest inside stay up goes long entry passable present ih =>
      obtain ⟨tidy, clean⟩ := List.forall_mem_cons.mp clean
      have proper : IsName part := by simpa [IsName, not_or, and_assoc, up] using stay
      have within : tree.isDirectoryAt current := by simpa using inside
      have onward : tree.lookups current (part :: rest) =
          (part :: current) :: tree.lookups (part :: current) rest := by
        rw [lookups, if_neg inside, if_neg stay, if_neg up, present]
        cases entry <;> first | rfl | exact (passable _ rfl).elim
      rw [onward, List.forall_mem_cons] at looked
      exact ih (rooted.cons ⟨proper, tidy.1, tidy.2, long⟩ within) (.inr looked.1) clean looked.2

-- One walk without links, then the rest of the way from the target of the link it met.
theorem resolve_settles (plain : ∀ place target, tree.entry? place = some (.link target) →
    '\x00' ∉ target.toList) (rooted : tree.Rooted start) (inside : tree.isDirectoryAt start)
    (clean : ∀ part ∈ parts, Clean part)
    (looked : ∀ place ∈ tree.stations links start parts, P place)
    (found : tree.resolve .target links start parts = .ok (.entry place)) :
    tree.Rooted place ∧ (tree.isDirectoryAt place ∨ P place) := by
  induction links generalizing start parts with
  | zero =>
      have settled := advance_settles rooted (.inl inside) clean looked
      rw [resolve] at found
      cases walked : tree.advance .target start parts with
      | failed cause => simp [walked] at found
      | detour directory target rest => simp [walked] at found
      | arrived spot =>
          rw [walked] at settled found
          cases found
          exact settled
  | succ links ih =>
      rw [stations] at looked
      have settled := advance_settles rooted (.inl inside) clean fun place member =>
        looked place (List.mem_append_left _ member)
      rw [resolve] at found
      cases walked : tree.advance .target start parts with
      | failed cause => simp [walked] at found
      | arrived spot =>
          rw [walked] at settled found
          cases found
          exact settled
      | detour directory target rest =>
          rw [walked] at settled found looked
          obtain ⟨above, within, tidy, link, present⟩ := settled
          have parts : ∀ part ∈ partsOf target ++ rest, Clean part :=
            List.forall_mem_append.mpr ⟨partsOf_clean (plain link target present), tidy⟩
          refine ih ?_ ?_ parts (fun place member => looked place (List.mem_append_right _ member))
            found
          · split
            · exact rooted_nil
            · exact above
          · split
            · rfl
            · exact within

theorem text_toList (place : Place) :
    place.text.toList = '/' :: ['/'].intercalate (place.reverse.map String.toList) := by
  simp [Place.text, String.toList_intercalate]

theorem mem_intercalate {c d : Char} {list : List (List Char)}
    (member : c ∈ [d].intercalate list) : c = d ∨ ∃ chars ∈ list, c ∈ chars := by
  induction list with
  | nil => simp at member
  | cons first list ih =>
      by_cases last : list = []
      · subst last
        rw [List.intercalate_singleton] at member
        exact .inr ⟨first, List.mem_cons_self, member⟩
      · rw [List.intercalate_cons_of_ne_nil last, List.mem_append, List.mem_append,
          List.mem_singleton] at member
        rcases member with (here | between) | later
        · exact .inr ⟨first, List.mem_cons_self, here⟩
        · exact .inl between
        · refine (ih later).imp_right fun ⟨chars, inside, here⟩ => ?_
          exact ⟨chars, List.mem_cons_of_mem _ inside, here⟩

theorem text_plain (rooted : tree.Rooted place) : '\x00' ∉ place.text.toList := by
  rw [text_toList]
  intro member
  rcases List.mem_cons.mp member with slash | later
  · exact absurd slash (by decide)
  rcases mem_intercalate later with slash | ⟨chars, inside, here⟩
  · exact absurd slash (by decide)
  obtain ⟨name, named, rfl⟩ := List.mem_map.mp inside
  exact (rooted.names (List.mem_reverse.mp named)).plain here

theorem partsOf_text (rooted : tree.Rooted place) (inner : place ≠ []) :
    partsOf place.text = "" :: place.reverse := by
  have unslashed : ∀ chars ∈ place.reverse.map String.toList, '/' ∉ chars := by
    intro chars member
    obtain ⟨name, named, rfl⟩ := List.mem_map.mp member
    exact (rooted.names (List.mem_reverse.mp named)).unslashed
  have names : partsOf (String.ofList (['/'].intercalate (place.reverse.map String.toList))) =
      place.reverse := by
    rw [partsOf, String.toList_ofList, Path.parts,
      List.splitOn_intercalate '/' unslashed (by simpa using inner), List.map_map]
    exact List.map_id'' (fun name => String.ofList_toList) _
  rw [← String.ofList_toList (s := place.text), text_toList, ← List.nil_append ('/' :: _),
    partsOf_slash, names]
  rfl

theorem advance_down (ahead : List String) (current : Place) {entry : Entry}
    (rooted : tree.Rooted (ahead.reverse ++ current))
    (present : tree.entry? (ahead.reverse ++ current) = some entry)
    (straight : ∀ target, entry ≠ .link target) :
    tree.advance .target current ahead = .arrived (.entry (ahead.reverse ++ current)) := by
  induction ahead generalizing current with
  | nil => rfl
  | cons part rest ih =>
      rw [List.reverse_cons, List.append_assoc, List.singleton_append] at rooted present ⊢
      obtain ⟨named, inside⟩ := rooted part current (List.suffix_append _ _)
      -- The last part names the entry, every other one a directory.
      obtain ⟨here, found, passable⟩ : ∃ here, tree.entry? (part :: current) = some here ∧
          ∀ target, here ≠ .link target := by
        cases rest with
        | nil => exact ⟨entry, present, straight⟩
        | cons next more =>
            have directory := (rooted next (part :: current) (by simp)).2
            exact ⟨.directory, by simpa [isDirectoryAt] using directory, by simp⟩
      obtain ⟨proper, _, _, short⟩ := named
      rw [← ih (part :: current) rooted present, advance, found]
      simp only [inside, proper.1, proper.2.1, proper.2.2, short]
      cases here <;> simp_all

theorem find_text {entry : Entry} (rooted : tree.Rooted place)
    (present : tree.entry? place = some entry) (straight : ∀ target, entry ≠ .link target)
    (inner : place ≠ []) (shallow : isTooDeep place = false) :
    tree.find .target place.text = .ok (.entry place) := by
  have accepted : refusal? place.text = none := by
    have filled : place.text ≠ "" := by
      intro empty
      have chars := text_toList place
      simp [empty] at chars
    have short : ¬pathLimit ≤ Text.size place.text := by simpa [isTooDeep] using shallow
    simp [refusal?, short, filled, text_plain rooted]
  have absolute : isAbsolute place.text = true := by
    rw [isAbsolute, text_toList]
    rfl
  have walked : tree.advance .target [] ("" :: place.reverse) = .arrived (.entry place) := by
    have down : tree.advance .target [] place.reverse =
        .arrived (.entry (place.reverse.reverse ++ [])) :=
      advance_down place.reverse [] (by simpa using rooted) (by simpa using present) straight
    rw [List.reverse_reverse, List.append_nil] at down
    rw [← down, advance, if_neg (by simp [isDirectoryAt, entry?]), if_pos (by decide)]
  rw [find_eq, accepted, absolute, partsOf_text rooted inner]
  simp only [resolve, walked, if_true]

-- What a file system guarantees: the current directory lies in directories, targets of links are
-- texts without a zero, and the names of a file all show that file.
structure Sound (tree : FileTree) : Prop where
  cwd : tree.Rooted tree.cwd ∧ tree.isDirectoryAt tree.cwd
  links : ∀ place target, tree.entry? place = some (.link target) → '\x00' ∉ target.toList
  shared : tree.Coherent

theorem Rooted.mono (rooted : before.Rooted place)
    (kept : ∀ spot, before.isDirectoryAt spot → after.isDirectoryAt spot) : after.Rooted place :=
  fun name above suffix => (rooted name above suffix).imp_right (kept above)

theorem Sound.of_ways (sound : before.Sound) (ways : SameWays before after)
    (coherent : after.Coherent) : after.Sound where
  cwd := by
    have kept : ∀ spot, before.isDirectoryAt spot → after.isDirectoryAt spot := fun spot inside =>
      ways.isDirectoryAt spot ▸ inside
    rw [← ways.cwd]
    exact ⟨sound.cwd.1.mono kept, kept _ sound.cwd.2⟩
  links := by
    intro place target present
    rcases ways.entry place with same | ⟨_, leaf⟩
    · exact sound.links place target (same.trans present)
    · rw [present] at leaf
      exact leaf.elim
  shared := coherent

theorem Sound.put_directory (sound : tree.Sound) (vacant : tree.entry? place = none) :
    (tree.put place .directory).Sound where
  cwd := by
    have kept : ∀ spot, tree.isDirectoryAt spot →
        (tree.put place .directory).isDirectoryAt spot := by
      intro spot inside
      simp only [isDirectoryAt, entry?_put] at inside ⊢
      split
      · rfl
      · exact inside
    exact ⟨sound.cwd.1.mono kept, kept _ sound.cwd.2⟩
  links := by
    intro spot target present
    rw [entry?_put] at present
    split at present
    · cases present
    · exact sound.links spot target present
  shared := sound.shared.put vacant

-- A file is read by its absolute path, provided no path on the way to it is too long.
theorem canonical_file {content : Text.Bytes} {mode : Nat} (sound : tree.Sound)
    (found : tree.locate path = .ok place) (present : tree.entry? place = some (.file content mode))
    (shallow : ∀ station ∈ tree.stationsOf path, isTooDeep station = false) :
    tree.canonical path = .ok place.text ∧ tree.read place.text = .ok content := by
  have reached := locate_eq_ok.mp found
  have traced : tree.trace .target path = .ok (.entry place) := by
    unfold find at reached
    split at reached
    · cases reached
    · exact reached
  have settled : tree.Rooted place ∧ (tree.isDirectoryAt place ∨ isTooDeep place = false) := by
    rw [trace] at traced
    split at traced
    · cases traced
    split at traced
    · cases traced
    rename_i plain
    have clean : ∀ part ∈ partsOf path, Clean part := partsOf_clean (by simpa using plain)
    refine resolve_settles sound.links ?_ ?_ clean shallow traced
    · split
      · exact rooted_nil
      · exact sound.cwd.1
    · split
      · rfl
      · exact sound.cwd.2
  have outside : tree.isDirectoryAt place = false := by simp [isDirectoryAt, present]
  have inner : place ≠ [] := by
    rintro rfl
    cases present
  have located : tree.locate place.text = .ok place := by
    rw [locate_eq_ok]
    exact find_text settled.1 present (by simp) inner (settled.2.resolve_left (by simp [outside]))
  constructor
  · have near : (tree.stationsOf path).any isTooDeep = false := by
      simpa using shallow
    simp [canonical, near, traced, bind, Except.bind, pure, Except.pure]
  · exact read_eq_ok.mpr ⟨_, status_eq_ok.mpr ⟨place, located, present⟩, rfl⟩

end Acceptance.FileTree
