import Acceptance.Locale

namespace Acceptance.Locale

-- Requests for a language and their spelling. Either separator ends the first part of a tag, but
-- a bundled tag is found as a whole only with its own separator.

variable {tag requested : String} {locale : Locale} {c d : Char}

def dash (c : Char) : Char := if c = '_' then '-' else c

def dashed (tag : String) : String := String.ofList (tag.toList.map dash)

theorem dash_eq (plain : d ≠ '-') : dash c = d ↔ c ≠ '_' ∧ c = d := by
  unfold dash
  split <;> simp_all [eq_comm]

theorem dash_mem (under : '_' ∈ tag.toList) : '-' ∈ (dashed tag).toList := by
  rw [dashed, String.toList_ofList]
  exact List.mem_map_of_mem under

theorem dashed_of_plain (plain : '_' ∉ tag.toList) : dashed tag = tag := by
  apply String.toList_inj.mp
  rw [dashed, String.toList_ofList]
  refine (List.map_congr_left fun c member => if_neg ?_).trans (List.map_id _)
  rintro rfl
  exact plain member

theorem mem_bundled (locale : Locale) : locale ∈ bundled := by cases locale <;> decide

theorem ofTag?_tag (locale : Locale) : Locale.ofTag? locale.tag = some locale := by
  cases locale <;> rfl

theorem tag_of_ofTag? (found : Locale.ofTag? tag = some locale) : locale.tag = tag := by
  simpa using List.find?_some found

theorem tag_plain (locale : Locale) : '_' ∉ locale.tag.toList := by cases locale <;> decide

theorem ofTag?_under (under : '_' ∈ tag.toList) : Locale.ofTag? tag = none := by
  cases found : Locale.ofTag? tag with
  | none => rfl
  | some locale => exact absurd (tag_of_ofTag? found ▸ under) (tag_plain locale)

-- The language whose whole tag is the first part of this one.
def spoken? (tag : String) : Option Locale :=
  Locale.ofTag? (String.ofList (languagePart tag.toList))

-- A language that has a separator in its tag is not found by the first part.
theorem spoken_other (parted : '-' ∈ locale.tag.toList) :
    (spoken? locale.tag).getD .english ≠ locale := by
  revert parted
  cases locale <;> decide

theorem spoken?_dashed (tag : String) : spoken? (dashed tag) = spoken? tag := by
  have same : languagePart (dashed tag).toList = languagePart tag.toList := by
    rw [dashed, String.toList_ofList, languagePart, languagePart]
    induction tag.toList with
    | nil => rfl
    | cons c rest ih =>
        by_cases under : c = '_'
        · simp [under, dash]
        · by_cases parts : c = '-' <;> simp_all [dash]
  rw [spoken?, spoken?, same]

theorem resolve_whole (found : Locale.ofTag? requested = some locale) :
    resolve requested = locale := by
  rw [resolve, found]
  rfl

theorem resolve_part (absent : Locale.ofTag? requested = none) :
    resolve requested = (spoken? requested).getD .english := by
  rw [resolve, absent]
  rfl

-- The spellings part ways where one of them is a bundled tag and the other is not.
theorem resolve_dashed_iff : resolve (dashed requested) = resolve requested ↔
    ∀ locale ∈ bundled, dashed requested = locale.tag → requested = locale.tag := by
  by_cases under : '_' ∈ requested.toList
  · have missed := resolve_part (ofTag?_under under)
    constructor
    · intro same locale _ tagged
      rw [missed, ← spoken?_dashed, tagged, resolve_whole (ofTag?_tag locale)] at same
      exact absurd same.symm (spoken_other (tagged ▸ dash_mem under))
    · intro spelled
      cases found : Locale.ofTag? (dashed requested) with
      | none => rw [missed, resolve_part found, spoken?_dashed]
      | some locale =>
          have tagged := (tag_of_ofTag? found).symm
          rw [tagged, spelled locale (mem_bundled locale) tagged]
  · rw [dashed_of_plain under]
    exact iff_of_true rfl fun _ _ tagged => tagged

theorem misspelled_iff : (∀ locale ∈ bundled, dashed requested = locale.tag →
    requested = locale.tag) ↔ requested ≠ "zh_CN" := by
  constructor
  · rintro spelled rfl
    exact absurd (spelled .chinese (by decide) (by decide)) (by decide)
  · intro other locale _ tagged
    have chars : requested.toList.map dash = locale.tag.toList := by
      rw [← tagged, dashed, String.toList_ofList]
    cases locale with
    | english =>
        refine (dashed_of_plain fun under => ?_).symm.trans tagged
        exact absurd (tagged ▸ dash_mem under) (by decide)
    | chinese =>
        change _ = ['z', 'h', '-', 'C', 'N'] at chars
        simp only [List.map_eq_cons_iff, List.map_eq_nil_iff, dash_eq (show 'z' ≠ '-' by decide),
          dash_eq (show 'h' ≠ '-' by decide), dash_eq (show 'C' ≠ '-' by decide),
          dash_eq (show 'N' ≠ '-' by decide)] at chars
        obtain ⟨_, _, text, ⟨_, rfl⟩, _, _, rfl, ⟨_, rfl⟩, c, _, rfl, between, _, _, rfl, ⟨_, rfl⟩,
          _, _, rfl, ⟨_, rfl⟩, rfl⟩ := chars
        unfold dash at between
        split at between
        · subst_vars
          exact absurd (String.toList_inj.mp text) other
        · subst between
          exact String.toList_inj.mp text

-- A request leads to a bundled language, which leads to itself. Its separators make no
-- difference, except in one tag.
theorem resolve_either_separator (requested : String) :
    resolve requested ∈ bundled ∧ resolve (resolve requested).tag = resolve requested ∧
      (resolve (dashed requested) = resolve requested ↔ requested ≠ "zh_CN") :=
  ⟨mem_bundled _, resolve_whole (ofTag?_tag _), resolve_dashed_iff.trans misspelled_iff⟩

-- The language is missed although its tag is one of the bundled ones in the other spelling.
theorem region_needs_own_separator :
    resolve "zh_CN" = .english ∧ dashed "zh_CN" = "zh-CN" ∧ resolve "zh-CN" = .chinese := by
  decide

end Acceptance.Locale
