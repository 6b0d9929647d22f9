import Mathlib.Data.List.Basic
import Acceptance.Selection

namespace Acceptance

variable {cases one other : List Case} {names : List String} {name : String}

-- A text comes before its continuations; otherwise the first code point that differs decides.
def InCodePointOrder (one other : String) : Prop :=
  one.toList <+: other.toList ∨
    ∃ shared c d rest rest', one.toList = shared ++ c :: rest ∧
      other.toList = shared ++ d :: rest' ∧ c.toNat < d.toNat

theorem inCodePointOrder_iff {one other : String} : InCodePointOrder one other ↔ one ≤ other := by
  -- The order of texts is that of their code points, and this is the order of lists it is made of.
  show _ ↔ @LE.le (List Char) List.instLE one.toList other.toList
  unfold InCodePointOrder
  generalize one.toList = left, other.toList = right
  constructor
  · rintro (⟨rest, rfl⟩ | ⟨shared, c, d, rest, rest', rfl, rfl, less⟩)
    · induction left with
      | nil => exact List.nil_le _
      | cons c left ih => exact List.cons_le_cons_iff.mpr (.inr ⟨rfl, ih⟩)
    · induction shared with
      | nil => exact List.cons_le_cons_iff.mpr (.inl less)
      | cons letter shared ih => exact List.cons_le_cons_iff.mpr (.inr ⟨rfl, ih⟩)
  · intro below
    induction left generalizing right with
    | nil => exact .inl List.nil_prefix
    | cons c left ih =>
        cases right with
        | nil => exact absurd below (by simp)
        | cons d right =>
            rcases List.cons_le_cons_iff.mp below with less | ⟨rfl, onward⟩
            · exact .inr ⟨[], c, d, left, right, rfl, rfl, less⟩
            · rcases ih right onward with front | ⟨shared, e, f, rest, rest', rfl, rfl, less⟩
              · exact .inl ((List.prefix_cons_inj c).mpr front)
              · exact .inr ⟨c :: shared, e, f, rest, rest', rfl, rfl, less⟩

def casesNamed (name : String) (cases : List Case) : List Case := cases.filter (·.name == name)

def Rising (cases : List Case) : Prop := cases.Pairwise fun one other => one.name ≤ other.name

theorem casesNamed_cons_self (case : Case) (cases : List Case) :
    casesNamed case.name (case :: cases) = case :: casesNamed case.name cases := by
  simp [casesNamed]

theorem casesNamed_filter (kept : Case → Bool) :
    casesNamed name (cases.filter kept) = (casesNamed name cases).filter kept :=
  List.filter_comm _ _ _

-- A list in the order of names is settled by the cases that it has under each name.
theorem Rising.eq_of_named (rising : Rising one) (rising' : Rising other)
    (same : ∀ name, casesNamed name one = casesNamed name other) : one = other := by
  induction one generalizing other with
  | nil =>
      cases other with
      | nil => rfl
      | cons case other => simpa [casesNamed] using same case.name
  | cons case one ih =>
      obtain ⟨least, later⟩ := List.pairwise_cons.mp rising
      have own : case ∈ casesNamed case.name other := by
        rw [← same, casesNamed_cons_self]
        exact List.mem_cons_self
      cases other with
      | nil => cases own
      | cons case' other =>
          obtain ⟨least', later'⟩ := List.pairwise_cons.mp rising'
          have own' : case' ∈ casesNamed case'.name (case :: one) := by
            rw [same, casesNamed_cons_self]
            exact List.mem_cons_self
          -- Each of the two first cases is somewhere in the other list, so neither is smaller.
          have below : case.name ≤ case'.name := by
            rcases List.mem_cons.mp (List.mem_filter.mp own').1 with rfl | behind
            · exact String.le_refl _
            · exact least _ behind
          have above : case'.name ≤ case.name := by
            rcases List.mem_cons.mp (List.mem_filter.mp own).1 with rfl | behind
            · exact String.le_refl _
            · exact least' _ behind
          have equal : case = case' := by
            have first := same case.name
            rw [casesNamed_cons_self, String.le_antisymm below above, casesNamed_cons_self] at first
            exact (List.cons.inj first).1
          subst equal
          refine congrArg (case :: ·) (ih later later' fun name => ?_)
          have both := same name
          by_cases here : case.name = name
          · subst here
            rw [casesNamed_cons_self, casesNamed_cons_self] at both
            exact (List.cons.inj both).2
          · simpa [casesNamed, here] using both

theorem sortCases_perm_self (cases : List Case) : (sortCases cases).Perm cases :=
  List.mergeSort_perm _ _

theorem name_le_trans (one middle other : Case) (below : decide (one.name ≤ middle.name) = true)
    (above : decide (middle.name ≤ other.name) = true) : decide (one.name ≤ other.name) = true :=
  decide_eq_true (String.le_trans (of_decide_eq_true below) (of_decide_eq_true above))

theorem name_le_total (one other : Case) :
    (decide (one.name ≤ other.name) || decide (other.name ≤ one.name)) = true := by
  simpa using String.le_total one.name other.name

theorem sortCases_rising (cases : List Case) : Rising (sortCases cases) :=
  (List.pairwise_mergeSort name_le_trans name_le_total _).imp fun below => of_decide_eq_true below

theorem casesNamed_sortCases (name : String) (cases : List Case) :
    casesNamed name (sortCases cases) = casesNamed name cases := by
  have level : (casesNamed name cases).Pairwise fun one other =>
      decide (one.name ≤ other.name) = true := by
    refine List.pairwise_iff_forall_sublist.mpr fun {one other} pair => decide_eq_true ?_
    have inside := pair.subset
    have first : one.name = name := by
      simpa using (List.mem_filter.mp (inside (by simp : one ∈ [one, other]))).2
    have second : other.name = name := by
      simpa using (List.mem_filter.mp (inside (by simp : other ∈ [one, other]))).2
    simp only [first, second, String.le_refl]
  have kept : (casesNamed name cases).Sublist (sortCases cases) :=
    List.sublist_mergeSort name_le_trans name_le_total level List.filter_sublist
  have within : (casesNamed name cases).Sublist (casesNamed name (sortCases cases)) := by
    have again := kept.filter (·.name == name)
    simpa only [casesNamed, List.filter_filter, Bool.and_self] using again
  exact (within.eq_of_length ((sortCases_perm_self cases).symm.filter _).length_eq).symm

theorem sortCases_filter (kept : Case → Bool) (cases : List Case) :
    (sortCases cases).filter kept = sortCases (cases.filter kept) := by
  refine Rising.eq_of_named ((sortCases_rising cases).filter kept) (sortCases_rising _) ?_
  intro name
  rw [casesNamed_filter, casesNamed_sortCases, casesNamed_sortCases, casesNamed_filter]

theorem sortCases_idem (cases : List Case) : sortCases (sortCases cases) = sortCases cases :=
  Rising.eq_of_named (sortCases_rising _) (sortCases_rising _) fun _ => casesNamed_sortCases _ _

-- A list is another one in the order of names, where cases of one name keep their order.
structure SortedFrom (cases sorted : List Case) : Prop where
  perm : sorted.Perm cases
  ordered : sorted.Pairwise fun one other => InCodePointOrder one.name other.name
  stable : ∀ name, casesNamed name sorted = casesNamed name cases

theorem sortCases_sortedFrom (cases : List Case) : SortedFrom cases (sortCases cases) :=
  ⟨sortCases_perm_self cases, (sortCases_rising cases).imp inCodePointOrder_iff.mpr,
    fun name => casesNamed_sortCases name cases⟩

theorem Selection.ofNames_some (asked : names ≠ []) (cases : List Case) :
    Selection.ofNames cases names =
      { selected := cases.filter fun case => names.contains case.name
        unknown := names.filter fun name => !cases.any (·.name == name) } := by
  rw [Selection.ofNames, if_neg (by simpa using asked)]

theorem Selection.ofNames_sortCases (cases : List Case) (names : List String) :
    Selection.ofNames (sortCases cases) names =
      { Selection.ofNames cases names with
        selected := sortCases (Selection.ofNames cases names).selected } := by
  have known : ∀ name, (sortCases cases).any (·.name == name) = cases.any (·.name == name) :=
    fun name => (sortCases_perm_self cases).any_eq
  unfold Selection.ofNames
  split
  · rfl
  · simp only [known, sortCases_filter]

structure Chosen (cases : List Case) (names : List String) (selection : Selection) : Prop where
  subsequence : selection.selected.Sublist cases
  duplicates : ∀ name ∈ names, casesNamed name selection.selected = casesNamed name cases
  others : ∀ name ∉ names, casesNamed name selection.selected = []
  -- A name is either one of a chosen case or unknown.
  either : ∀ name ∈ names,
    (∃ case ∈ selection.selected, case.name = name) ↔ name ∉ selection.unknown
  order : selection.unknown.Sublist names
  multiplicity : ∀ name ∈ selection.unknown, selection.unknown.count name = names.count name

theorem Selection.ofNames_chosen (asked : names ≠ []) (cases : List Case) :
    Chosen cases names (Selection.ofNames cases names) := by
  rw [Selection.ofNames_some asked]
  refine ⟨List.filter_sublist, fun name member => ?_, fun name missing => ?_, fun name member => ?_,
    List.filter_sublist, fun name member => List.count_filter (List.mem_filter.mp member).2⟩
  · rw [casesNamed_filter, List.filter_eq_self]
    intro case inside
    have own : case.name = name := by simpa using (List.mem_filter.mp inside).2
    simpa [own] using member
  · rw [casesNamed_filter, List.filter_eq_nil_iff]
    intro case inside
    have own : case.name = name := by simpa using (List.mem_filter.mp inside).2
    simpa [own] using missing
  · constructor
    · rintro ⟨case, inside, rfl⟩ unknown
      have absent := (List.mem_filter.mp unknown).2
      simp only [Bool.not_eq_true', List.any_eq_false, beq_iff_eq] at absent
      exact absent case (List.mem_filter.mp inside).1 rfl
    · intro known
      simp only [List.mem_filter, member, true_and, Bool.not_eq_true', Bool.not_eq_false,
        List.any_eq_true, beq_iff_eq] at known
      obtain ⟨case, inside, rfl⟩ := known
      exact ⟨case, List.mem_filter.mpr ⟨inside, by simpa using member⟩, rfl⟩

-- Only the names that some case has matter, and only whether they are there.
theorem Selection.ofNames_congr {names' : List String} (asked : names ≠ []) (asked' : names' ≠ [])
    (same : ∀ case ∈ cases, case.name ∈ names ↔ case.name ∈ names') :
    (Selection.ofNames cases names).selected = (Selection.ofNames cases names').selected := by
  rw [Selection.ofNames_some asked, Selection.ofNames_some asked']
  refine List.filter_congr fun case member => ?_
  rw [Bool.eq_iff_iff, List.contains_iff_mem, List.contains_iff_mem]
  exact same case member

theorem sorting_and_choosing (cases : List Case) (names : List String) :
    (Selection.ofNames (sortCases cases) names).selected =
        sortCases (Selection.ofNames cases names).selected ∧
      (Selection.ofNames (sortCases cases) names).unknown =
        (Selection.ofNames cases names).unknown ∧
      SortedFrom cases (sortCases cases) ∧
      sortCases (sortCases cases) = sortCases cases ∧
      (names ≠ [] → Chosen cases names (Selection.ofNames cases names) ∧
        ∀ names', names' ≠ [] → (∀ case ∈ cases, case.name ∈ names ↔ case.name ∈ names') →
          (Selection.ofNames cases names').selected =
            (Selection.ofNames cases names).selected) := by
  have commutes := Selection.ofNames_sortCases cases names
  refine ⟨by rw [commutes], by rw [commutes], sortCases_sortedFrom cases, sortCases_idem cases,
    fun asked => ⟨Selection.ofNames_chosen asked cases, fun names' asked' same => ?_⟩⟩
  exact (Selection.ofNames_congr asked asked' same).symm

theorem sorting_and_choosing_repeated :
    let first := Case.ofDirectory "b" "d0" {}
    let second := Case.ofDirectory "b" "d2" {}
    let cases := [first, Case.ofDirectory "a" "d1" {}, second]
    let selection := Selection.ofNames cases ["b", "zz", "b", "zz"]
    selection = { selected := [first, second], unknown := ["zz", "zz"] } ∧
      Chosen cases ["b", "zz", "b", "zz"] selection ∧
      (Selection.ofNames cases ["none", "b"]).selected = selection.selected ∧
      (Selection.ofNames (sortCases cases) ["b", "zz", "b", "zz"]).selected =
        sortCases selection.selected := by
  intro first second cases selection
  obtain ⟨commutes, _, _, _, choice⟩ := sorting_and_choosing cases ["b", "zz", "b", "zz"]
  obtain ⟨chosen, same⟩ := choice (by decide)
  exact ⟨by decide, chosen, same ["none", "b"] (by decide) (by decide), commutes⟩

end Acceptance
