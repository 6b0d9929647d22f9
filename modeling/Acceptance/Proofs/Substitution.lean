import Acceptance.Placeholder

namespace Acceptance

namespace Text

-- What substitution does to a text. A replacement that finds nothing changes nothing, and a text
-- that is a placeholder and nothing else becomes its value, provided the value cannot be taken
-- for a placeholder itself.

variable {pattern value text : List Char} {c : Char}

theorem replaceFrom_done (pattern value : List Char) (skip : Nat) (done text : List Char) :
    replaceFrom pattern value skip done text =
      done.reverse ++ replaceFrom pattern value skip [] text := by
  induction text generalizing skip done with
  | nil => simp [replaceFrom]
  | cons c rest ih =>
      cases skip with
      | succ skip =>
          rw [replaceFrom, replaceFrom]
          exact ih skip done
      | zero =>
          rw [replaceFrom, replaceFrom]
          split
          · rw [ih, ih _ (value.reverseAux [])]
            simp
          · rw [ih, ih _ [c]]
            simp

theorem replaceFrom_skip (pattern value : List Char) (skip : Nat) (text : List Char) :
    replaceFrom pattern value skip [] text = replaceAll pattern value (text.drop skip) := by
  induction text generalizing skip with
  | nil => cases skip <;> rfl
  | cons c rest ih =>
      cases skip with
      | zero => rfl
      | succ skip => exact ih skip

theorem replaceAll_cons (pattern value : List Char) (c : Char) (rest : List Char) :
    replaceAll pattern value (c :: rest) =
      if pattern <+: c :: rest then
        value ++ replaceAll pattern value (rest.drop (pattern.length - 1))
      else c :: replaceAll pattern value rest := by
  unfold replaceAll
  rw [replaceFrom]
  simp only [List.isPrefixOf_iff_prefix]
  split
  · rw [replaceFrom_done, replaceFrom_skip]
    simp [replaceAll]
  · rw [replaceFrom_done]
    rfl

theorem replaceAll_of_not_infix (value : List Char) (absent : ¬pattern <:+: text) :
    replaceAll pattern value text = text := by
  induction text with
  | nil => rfl
  | cons c rest ih =>
      rw [replaceAll_cons, if_neg fun front => absent front.isInfix,
        ih fun inside => absent (inside.trans (List.suffix_cons c rest).isInfix)]

theorem replaceAll_front (value : List Char) {rest : List Char} (filled : pattern ≠ []) :
    replaceAll pattern value (pattern ++ rest) = value ++ replaceAll pattern value rest := by
  cases pattern with
  | nil => exact (filled rfl).elim
  | cons c inner =>
      rw [List.cons_append, replaceAll_cons, if_pos ⟨rest, rfl⟩]
      simp

theorem replaceAll_self (value : List Char) (filled : pattern ≠ []) :
    replaceAll pattern value pattern = value := by
  calc replaceAll pattern value pattern
      = replaceAll pattern value (pattern ++ []) := by rw [List.append_nil]
    _ = value ++ replaceAll pattern value [] := replaceAll_front value filled
    _ = value := List.append_nil value

end Text

namespace Bindings

theorem apply_cons (binding : List Char × List Char) (bindings : Bindings) (text : List Char) :
    apply (binding :: bindings) text =
      apply bindings (Text.replaceAll binding.1 binding.2 text) := rfl

theorem apply_append (first second : Bindings) (text : List Char) :
    apply (first ++ second) text = apply second (apply first text) := List.foldl_append

theorem apply_of_not_infix {bindings : Bindings} {text : List Char}
    (absent : ∀ binding ∈ bindings, ¬binding.1 <:+: text) : bindings.apply text = text := by
  induction bindings with
  | nil => rfl
  | cons binding bindings ih =>
      rw [apply_cons, Text.replaceAll_of_not_infix _ (absent binding List.mem_cons_self)]
      exact ih fun binding member => absent binding (List.mem_cons_of_mem _ member)

end Bindings

namespace Placeholder

theorem mem_all (placeholder : Placeholder) : placeholder ∈ all := by
  cases placeholder <;> decide

theorem brace_mem_key (placeholder : Placeholder) : '\x7b' ∈ placeholder.key.toList := by
  cases placeholder <;> decide

theorem eq_of_key_infix {one other : Placeholder} (inside : one.key.toList <:+: other.key.toList) :
    one = other := by
  have apart : ∀ one ∈ all, ∀ other ∈ all, one.key.toList <:+: other.key.toList → one = other := by
    decide +kernel
  exact apart one one.mem_all other other.mem_all inside

end Placeholder

def Placeholder.later (placeholder : Placeholder) : List Placeholder :=
  (all.dropWhile (· ≠ placeholder)).tail

theorem Placeholder.all_parts (placeholder : Placeholder) :
    ∃ earlier, all = earlier ++ placeholder :: placeholder.later ∧ placeholder ∉ earlier := by
  refine ⟨all.takeWhile (· ≠ placeholder), ?_, ?_⟩
  · cases placeholder <;> rfl
  · cases placeholder <;> decide

namespace Bindings

def ofPlaceholders (case : Case) (placeholders : List Placeholder) : Bindings :=
  placeholders.map fun placeholder => (placeholder.key.toList, (placeholder.value case).toList)

theorem apply_unbraced (case : Case) (placeholders : List Placeholder) {text : List Char}
    (unbraced : '\x7b' ∉ text) : (ofPlaceholders case placeholders).apply text = text := by
  refine apply_of_not_infix fun binding member inside => unbraced ?_
  obtain ⟨placeholder, _, rfl⟩ := List.mem_map.mp member
  exact inside.subset placeholder.brace_mem_key

-- Those before it leave the placeholder alone, and those behind it find its value only.
theorem substitute_key_later (case : Case) (placeholder : Placeholder) :
    (ofCase case).substitute placeholder.key =
      (ofPlaceholders case placeholder.later).substitute (placeholder.value case) := by
  obtain ⟨earlier, parts, absent⟩ := placeholder.all_parts
  have kept : (ofPlaceholders case earlier).apply placeholder.key.toList =
      placeholder.key.toList := by
    refine apply_of_not_infix fun binding member inside => ?_
    obtain ⟨other, before, rfl⟩ := List.mem_map.mp member
    exact absent (Placeholder.eq_of_key_infix inside ▸ before)
  have filled : placeholder.key.toList ≠ [] := List.ne_nil_of_mem placeholder.brace_mem_key
  unfold ofPlaceholders at kept
  unfold substitute ofCase
  rw [parts, List.map_append, List.map_cons, apply_append, kept, apply_cons,
    Text.replaceAll_self _ filled]
  rfl

theorem substitute_key (case : Case) (placeholder : Placeholder)
    (unbraced : '\x7b' ∉ (placeholder.value case).toList) :
    (ofCase case).substitute placeholder.key = placeholder.value case := by
  rw [substitute_key_later, substitute, apply_unbraced case _ unbraced, String.ofList_toList]

end Bindings

theorem Path.mem_join {base path : String} {c : Char} (member : c ∈ (join base path).toList) :
    c ∈ base.toList ∨ c = '/' ∨ c ∈ path.toList := by
  unfold join at member
  split at member
  · exact .inr (.inr member)
  split at member
  · rcases List.mem_append.mp (String.toList_append ▸ member) with front | back
    · exact .inl front
    · exact .inr (.inr back)
  · simpa [or_assoc] using member

end Acceptance
