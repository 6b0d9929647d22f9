import Acceptance.Proofs.Absolute
import Acceptance.Proofs.Substitution

namespace Acceptance.FileTree

-- The way a path takes, part by part, with the links on it. There is at most one, it is put
-- together from the ways of two halves, and the lookup finds it if there are not too many links
-- on it.

variable {tree : FileTree} {current start middle place directory : Place} {part name path : String}
  {parts rest more : List String} {links count : Nat}

-- Where the parts of a path or of a link's target start.
def origin (path : String) (base : Place) : Place := if isAbsolute path then [] else base

theorem advance_stay (inside : tree.isDirectoryAt current) (trivial : part = "" ∨ part = ".") :
    tree.advance .target current (part :: rest) = tree.advance .target current rest := by
  rcases trivial with rfl | rfl <;> simp [advance, inside]

theorem advance_up (inside : tree.isDirectoryAt current) :
    tree.advance .target current (".." :: rest) = tree.advance .target current.tail rest := by
  simp [advance, inside]

theorem advance_entry {entry : Entry} (inside : tree.isDirectoryAt current) (proper : IsName part)
    (short : Text.size part ≤ nameLimit) (present : tree.entry? (part :: current) = some entry)
    (straight : tree.NotLink (part :: current)) :
    tree.advance .target current (part :: rest) = tree.advance .target (part :: current) rest := by
  rw [advance]
  simp only [inside, proper.1, proper.2.1, proper.2.2, Nat.not_lt.mpr short, present]
  cases entry with
  | link target => exact absurd present (straight target)
  | file content mode => simp
  | directory => simp
  | device device => simp

theorem advance_follow {target : String} (inside : tree.isDirectoryAt current)
    (proper : IsName part) (short : Text.size part ≤ nameLimit)
    (linked : tree.entry? (part :: current) = some (.link target)) :
    tree.advance .target current (part :: rest) = .detour current target rest := by
  simp [advance, inside, proper.1, proper.2.1, proper.2.2, Nat.not_lt.mpr short, linked]

inductive Walk (tree : FileTree) : Nat → Place → List String → Place → Prop where
  | here (place : Place) : Walk tree 0 place [] place
  | stay {links : Nat} {current place : Place} {part : String} {rest : List String} :
      tree.isDirectoryAt current → part = "" ∨ part = "." → Walk tree links current rest place →
      Walk tree links current (part :: rest) place
  | up {links : Nat} {current place : Place} {rest : List String} :
      tree.isDirectoryAt current → Walk tree links current.tail rest place →
      Walk tree links current (".." :: rest) place
  | down {links : Nat} {current place : Place} {part : String} {rest : List String}
      {entry : Entry} :
      tree.isDirectoryAt current → IsName part → Text.size part ≤ nameLimit →
      tree.entry? (part :: current) = some entry → tree.NotLink (part :: current) →
      Walk tree links (part :: current) rest place → Walk tree links current (part :: rest) place
  | follow {links : Nat} {current place : Place} {part target : String} {rest : List String} :
      tree.isDirectoryAt current → IsName part → Text.size part ≤ nameLimit →
      tree.entry? (part :: current) = some (.link target) →
      Walk tree links (origin target current) (partsOf target ++ rest) place →
      Walk tree (links + 1) current (part :: rest) place

namespace Walk

theorem inside (walk : tree.Walk links current (part :: rest) place) :
    tree.isDirectoryAt current := by
  cases walk <;> assumption

-- What is left of a walk from the point where it would follow a link.
def Onward (tree : FileTree) (links : Nat) (place : Place) : Progress → Prop
  | .arrived (.entry spot) => links = 0 ∧ spot = place
  | .arrived (.vacant _ _ _) | .failed _ => False
  | .detour directory target rest =>
      ∃ more, links = more + 1 ∧ tree.Walk more (origin target directory) (partsOf target ++ rest)
        place

theorem onward (walk : tree.Walk links current parts place) :
    Onward tree links place (tree.advance .target current parts) := by
  induction walk with
  | here place => exact ⟨rfl, rfl⟩
  | stay inside trivial _ ih => rwa [advance_stay inside trivial]
  | up inside _ ih => rwa [advance_up inside]
  | down inside proper short present straight _ ih =>
      rwa [advance_entry inside proper short present straight]
  | follow inside proper short linked walk _ =>
      rw [advance_follow inside proper short linked]
      exact ⟨_, rfl, walk⟩

theorem of_onward (onward : Onward tree links place (tree.advance .target current parts)) :
    tree.Walk links current parts place := by
  induction parts generalizing current with
  | nil =>
      obtain ⟨rfl, rfl⟩ := onward
      exact here _
  | cons part rest ih =>
      by_cases outside : tree.isDirectoryAt current = false
      · simp [advance, outside, Onward] at onward
      have inside : tree.isDirectoryAt current := by simpa using outside
      by_cases trivial : part = "" ∨ part = "."
      · rw [advance_stay inside trivial] at onward
        exact stay inside trivial (ih onward)
      by_cases above : part = ".."
      · subst above
        rw [advance_up inside] at onward
        exact up inside (ih onward)
      obtain ⟨filled, named⟩ := not_or.mp trivial
      by_cases long : nameLimit < Text.size part
      · simp [advance, inside, filled, named, above, long, Onward] at onward
      have proper : IsName part := ⟨filled, named, above⟩
      have short := Nat.not_lt.mp long
      cases present : tree.entry? (part :: current) with
      | none =>
          by_cases final : isFinal rest <;>
            simp [advance, inside, filled, named, above, long, present, final, Onward] at onward
      | some entry =>
          by_cases straight : tree.NotLink (part :: current)
          · rw [advance_entry inside proper short present straight] at onward
            exact down inside proper short present straight (ih onward)
          · obtain ⟨target, linked⟩ : ∃ target, tree.entry? (part :: current) =
                some (.link target) := by simpa [NotLink] using straight
            rw [advance_follow inside proper short linked] at onward
            obtain ⟨_, rfl, walk⟩ := onward
            exact follow inside proper short linked walk

theorem unique {place' : Place} (walk : tree.Walk links start parts place)
    (walk' : tree.Walk count start parts place') : count = links ∧ place' = place := by
  have onward' := walk'.onward
  induction walk generalizing count with
  | here => exact ⟨onward'.1, onward'.2.symm⟩
  | stay inside trivial _ ih =>
      rw [advance_stay inside trivial] at onward'
      exact ih (of_onward onward') onward'
  | up inside _ ih =>
      rw [advance_up inside] at onward'
      exact ih (of_onward onward') onward'
  | down inside proper short present straight _ ih =>
      rw [advance_entry inside proper short present straight] at onward'
      exact ih (of_onward onward') onward'
  | follow inside proper short linked _ ih =>
      rw [advance_follow inside proper short linked] at onward'
      obtain ⟨_, rfl, later⟩ := onward'
      obtain ⟨rfl, rfl⟩ := ih later later.onward
      exact ⟨rfl, rfl⟩

theorem append (walk : tree.Walk links start parts middle)
    (walk' : tree.Walk count middle more place) :
    tree.Walk (links + count) start (parts ++ more) place := by
  induction walk with
  | here => rwa [Nat.zero_add]
  | stay inside trivial _ ih => exact stay inside trivial (ih walk')
  | up inside _ ih => exact up inside (ih walk')
  | down inside proper short present straight _ ih =>
      exact down inside proper short present straight (ih walk')
  | follow inside proper short linked _ ih =>
      have later := ih walk'
      rw [List.append_assoc] at later
      rw [Nat.add_right_comm]
      exact follow inside proper short linked later

-- The parts of a target come before all that is left, so they belong to the first half.
theorem split (walk : tree.Walk links start (parts ++ more) place) :
    ∃ first second middle, first + second = links ∧ tree.Walk first start parts middle ∧
      tree.Walk second middle more place := by
  induction links using Nat.strongRecOn generalizing start parts with
  | ind links fewer =>
      induction parts generalizing start with
      | nil => exact ⟨0, links, start, Nat.zero_add _, here start, walk⟩
      | cons part parts ih =>
          cases walk with
          | stay inside trivial walk =>
              obtain ⟨first, second, middle, sum, one, two⟩ := ih walk
              exact ⟨first, second, middle, sum, stay inside trivial one, two⟩
          | up inside walk =>
              obtain ⟨first, second, middle, sum, one, two⟩ := ih walk
              exact ⟨first, second, middle, sum, up inside one, two⟩
          | down inside proper short present straight walk =>
              obtain ⟨first, second, middle, sum, one, two⟩ := ih walk
              exact ⟨first, second, middle, sum, down inside proper short present straight one, two⟩
          | follow inside proper short linked walk =>
              change tree.Walk _ _ (_ ++ (_ ++ _)) _ at walk
              rw [← List.append_assoc] at walk
              obtain ⟨first, second, middle, rfl, one, two⟩ := fewer _ (Nat.lt_succ_self _) walk
              exact ⟨first + 1, second, middle, Nat.add_right_comm _ _ _,
                follow inside proper short linked one, two⟩

end Walk

theorem resolve_iff : tree.resolve .target links start parts = .ok (.entry place) ↔
    ∃ count ≤ links, tree.Walk count start parts place := by
  have walks : ∀ count start parts, tree.Walk count start parts place ↔
      Walk.Onward tree count place (tree.advance .target start parts) :=
    fun _ _ _ => ⟨Walk.onward, Walk.of_onward⟩
  fun_induction tree.resolve .target links start parts with
  | case1 links start parts found walked =>
      simp only [walks _ start parts, walked]
      cases found with
      | entry spot =>
          constructor
          · rintro ⟨⟩
            exact ⟨0, Nat.zero_le _, rfl, rfl⟩
          · rintro ⟨_, _, _, rfl⟩
            rfl
      | vacant directory name slash => simp [Walk.Onward]
  | case2 links start parts cause walked =>
      simp only [walks _ start parts, walked]
      simp [Walk.Onward]
  | case3 start parts directory target rest walked =>
      simp only [walks _ start parts, walked]
      simp [Walk.Onward]
  | case4 start parts directory target rest walked links base ih =>
      simp only [ih, walks _ start parts, walked]
      constructor
      · rintro ⟨count, few, walk⟩
        exact ⟨count + 1, Nat.succ_le_succ few, count, rfl, walk⟩
      · rintro ⟨_, few, count, rfl, walk⟩
        exact ⟨count, Nat.le_of_succ_le_succ few, walk⟩

theorem refusal?_eq_none : refusal? path = none ↔
    path ≠ "" ∧ '\x00' ∉ path.toList ∧ Text.size path < pathLimit := by
  have small : Text.size "" = 0 := rfl
  unfold refusal?
  by_cases plain : '\x00' ∈ path.toList <;> by_cases filled : path = "" <;>
    by_cases long : pathLimit ≤ Text.size path <;> simp_all

-- A path leads to a place: the path is one that can be handed over, and there are not too many
-- links on the way.
structure Leads (tree : FileTree) (path : String) (links : Nat) (place : Place) : Prop where
  filled : path ≠ ""
  plain : '\x00' ∉ path.toList
  short : Text.size path < pathLimit
  few : links ≤ linkLimit
  walk : tree.Walk links (origin path tree.cwd) (partsOf path) place

theorem locate_iff : tree.locate path = .ok place ↔ ∃ links, tree.Leads path links place := by
  rw [locate_eq_ok, find_eq]
  cases refused : refusal? path with
  | some cause =>
      constructor
      · intro found
        cases found
      · rintro ⟨links, leads⟩
        rw [refusal?_eq_none.mpr ⟨leads.filled, leads.plain, leads.short⟩] at refused
        cases refused
  | none =>
      obtain ⟨filled, plain, short⟩ := refusal?_eq_none.mp refused
      simp only [resolve_iff]
      constructor
      · rintro ⟨links, few, walk⟩
        exact ⟨links, filled, plain, short, few, walk⟩
      · rintro ⟨links, leads⟩
        exact ⟨links, leads.few, leads.walk⟩

theorem isDirectory_iff : tree.isDirectory path ↔
    ∃ links place, tree.Leads path links place ∧ tree.isDirectoryAt place := by
  have status : tree.isDirectory path ↔ tree.status path = .ok .directory := by
    unfold isDirectory
    split <;> simp_all
  rw [status, status_eq_ok]
  simp only [locate_iff, isDirectoryAt, beq_iff_eq]
  constructor
  · rintro ⟨place, ⟨links, leads⟩, present⟩
    exact ⟨links, place, leads, present⟩
  · rintro ⟨links, place, leads, present⟩
    exact ⟨place, ⟨links, leads⟩, present⟩

-- A separator at the end of a path asks for a directory and leads no further.
theorem walk_leadOf (filled : path ≠ "") (inside : tree.isDirectoryAt directory) :
    tree.Walk links start (leadOf path) directory ↔
      tree.Walk links start (partsOf path) directory := by
  unfold leadOf
  split
  · simp_all
  split
  · rename_i slash
    obtain ⟨front, whole⟩ := List.getLast?_eq_some_iff.mp slash
    have parts : partsOf path = partsOf (String.ofList front) ++ [""] := by
      rw [← String.ofList_toList (s := path), whole, partsOf_slash]
      rfl
    rw [parts, List.dropLast_concat]
    constructor
    · intro walk
      exact walk.append (.stay inside (.inl rfl) (.here directory))
    · intro walk
      obtain ⟨first, second, middle, rfl, one, two⟩ := walk.split
      obtain ⟨rfl, rfl⟩ := (Walk.stay two.inside (.inl rfl) (.here middle)).unique two
      exact one
  · rfl

-- A name in a directory leads where it leads from there, if the path to it is not too long and
-- the links on the way to the directory and those behind the name are together not too many.
theorem leads_join (named : FileName name) (leads : tree.Leads path links directory)
    (inside : tree.isDirectoryAt directory) :
    tree.Leads (Path.join path name) count place ↔
      Text.size (Path.join path name) < pathLimit ∧ count ≤ linkLimit ∧
        ∃ more, links + more = count ∧ tree.Walk more directory [name] place := by
  have start : origin (Path.join path name) tree.cwd = origin path tree.cwd := by
    rw [origin, isAbsolute_join path named.unslashed, origin]
  constructor
  · intro joined
    refine ⟨joined.short, joined.few, ?_⟩
    have walk := joined.walk
    rw [start, partsOf_join path named.unslashed] at walk
    obtain ⟨first, second, middle, sum, one, two⟩ := walk.split
    obtain ⟨rfl, rfl⟩ := leads.walk.unique ((walk_leadOf leads.filled two.inside).mp one)
    exact ⟨second, sum, two⟩
  · rintro ⟨short, few, more, rfl, walk⟩
    have filled : Path.join path name ≠ "" := by
      intro empty
      have accepted := (endsIn_join path named.proper named.unslashed).not_refused
      exact accepted (empty ▸ rfl)
    refine ⟨filled, ?_, short, few, ?_⟩
    · intro zero
      rcases Path.mem_join zero with before | slash | within
      · exact leads.plain before
      · cases slash
      · exact named.plain within
    · rw [start, partsOf_join path named.unslashed]
      exact ((walk_leadOf leads.filled inside).mpr leads.walk).append walk

end Acceptance.FileTree
