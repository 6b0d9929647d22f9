import Acceptance.Text.Utf8

namespace Acceptance.Text

variable {c : Char} {a b : UInt8} {rest bytes others : Bytes} {n : Nat}
  {conditions : List (UInt8 → Bool)}

-- The bytes of a character and the number that they spell.
inductive Spells : UInt8 → Bytes → Nat → Prop
  | one {a : UInt8} {n : Nat} (first : a.toNat = n) (high : n < 0x80) : Spells a [] n
  | two {a b : UInt8} {n : Nat} (first : a.toNat = n / 64 + 0xC0)
      (second : b.toNat = n % 64 + 0x80) (low : 0x80 ≤ n) (high : n < 0x800) : Spells a [b] n
  | three {a b c : UInt8} {n : Nat} (first : a.toNat = n / 4096 + 0xE0)
      (second : b.toNat = n / 64 % 64 + 0x80) (third : c.toNat = n % 64 + 0x80)
      (low : 0x800 ≤ n) (high : n < 0x10000) (plain : n < 0xD800 ∨ 0xDFFF < n) :
      Spells a [b, c] n
  | four {a b c d : UInt8} {n : Nat} (first : a.toNat = n / 262144 + 0xF0)
      (second : b.toNat = n / 4096 % 64 + 0x80) (third : c.toNat = n / 64 % 64 + 0x80)
      (fourth : d.toNat = n % 64 + 0x80) (low : 0x10000 ≤ n) (high : n < 0x110000) :
      Spells a [b, c, d] n

theorem between_iff {low high : UInt8} :
    (decide (low ≤ b) && decide (b ≤ high)) = true ↔
      low.toNat ≤ b.toNat ∧ b.toNat ≤ high.toNat := by
  rw [Bool.and_eq_true, decide_eq_true_eq, decide_eq_true_eq, UInt8.le_iff_toNat_le,
    UInt8.le_iff_toNat_le]

theorem isContinuation_iff : isContinuation b = true ↔ 0x80 ≤ b.toNat ∧ b.toNat ≤ 0xBF :=
  between_iff

theorem continuations_eq (a : UInt8) :
    continuations a =
      if a.toNat < 0x80 then some []
      else if a.toNat < 0xC2 then none
      else if a.toNat < 0xE0 then some [isContinuation]
      else if a.toNat = 0xE0 then some [fun b => 0xA0 ≤ b && b ≤ 0xBF, isContinuation]
      else if a.toNat = 0xED then some [fun b => 0x80 ≤ b && b ≤ 0x9F, isContinuation]
      else if a.toNat < 0xF0 then some [isContinuation, isContinuation]
      else if a.toNat = 0xF0 then
        some [fun b => 0x90 ≤ b && b ≤ 0xBF, isContinuation, isContinuation]
      else if a.toNat < 0xF4 then some [isContinuation, isContinuation, isContinuation]
      else if a.toNat = 0xF4 then
        some [fun b => 0x80 ≤ b && b ≤ 0x8F, isContinuation, isContinuation]
      else none := by
  simp only [continuations, UInt8.lt_iff_toNat_lt, beq_iff_eq, ← UInt8.toNat_inj]
  rfl

theorem continuations_two (low : 0xC2 ≤ a.toNat) (high : a.toNat < 0xE0) :
    continuations a = some [isContinuation] := by
  rw [continuations_eq, if_neg (by omega), if_neg (by omega), if_pos high]

theorem continuations_three (low : 0xE0 ≤ a.toNat) (high : a.toNat < 0xF0) :
    ∃ second : UInt8 → Bool, continuations a = some [second, isContinuation] ∧
      ∀ b, second b = true ↔ 0x80 ≤ b.toNat ∧ b.toNat ≤ 0xBF ∧
        (a.toNat = 0xE0 → 0xA0 ≤ b.toNat) ∧ (a.toNat = 0xED → b.toNat ≤ 0x9F) := by
  rw [continuations_eq, if_neg (by omega), if_neg (by omega), if_neg (by omega), if_pos high]
  split
  · refine ⟨_, rfl, fun b => ?_⟩
    simp only [between_iff, UInt8.reduceToNat]
    omega
  split
  · refine ⟨_, rfl, fun b => ?_⟩
    simp only [between_iff, UInt8.reduceToNat]
    omega
  · refine ⟨_, rfl, fun b => ?_⟩
    rw [isContinuation_iff]
    omega

theorem continuations_four (low : 0xF0 ≤ a.toNat) (high : a.toNat ≤ 0xF4) :
    ∃ second : UInt8 → Bool, continuations a = some [second, isContinuation, isContinuation] ∧
      ∀ b, second b = true ↔ 0x80 ≤ b.toNat ∧ b.toNat ≤ 0xBF ∧
        (a.toNat = 0xF0 → 0x90 ≤ b.toNat) ∧ (a.toNat = 0xF4 → b.toNat ≤ 0x8F) := by
  rw [continuations_eq, if_neg (by omega), if_neg (by omega), if_neg (by omega),
    if_neg (by omega), if_neg (by omega), if_neg (by omega)]
  split
  · refine ⟨_, rfl, fun b => ?_⟩
    simp only [between_iff, UInt8.reduceToNat]
    omega
  split
  · refine ⟨_, rfl, fun b => ?_⟩
    rw [isContinuation_iff]
    omega
  · have last : a.toNat = 0xF4 := by omega
    rw [if_pos last]
    refine ⟨_, rfl, fun b => ?_⟩
    simp only [between_iff, UInt8.reduceToNat]
    omega

theorem Spells.complete (spelled : Spells a others n) :
    ∃ conditions, continuations a = some conditions ∧ conditions.length = others.length ∧
      ∀ rest, satisfied conditions (others ++ rest) = others.length := by
  cases spelled with
  | one first high =>
      refine ⟨[], ?_, rfl, fun rest => by simp [satisfied]⟩
      rw [continuations_eq, if_pos (by omega)]
  | @two b first second low high =>
      refine ⟨_, continuations_two (by omega) (by omega), rfl, fun rest => ?_⟩
      have meets : isContinuation b = true := isContinuation_iff.mpr (by omega)
      simp [satisfied, meets]
  | @three b c first second third low high plain =>
      obtain ⟨condition, known, iff⟩ := continuations_three (a := a) (by omega) (by omega)
      refine ⟨_, known, rfl, fun rest => ?_⟩
      have meets : condition b = true := (iff b).mpr (by omega)
      have meets' : isContinuation c = true := isContinuation_iff.mpr (by omega)
      simp [satisfied, meets, meets']
  | @four b c d first second third fourth low high =>
      obtain ⟨condition, known, iff⟩ := continuations_four (a := a) (by omega) (by omega)
      refine ⟨_, known, rfl, fun rest => ?_⟩
      have meets : condition b = true := (iff b).mpr (by omega)
      have meets' : isContinuation c = true := isContinuation_iff.mpr (by omega)
      have meets'' : isContinuation d = true := isContinuation_iff.mpr (by omega)
      simp [satisfied, meets, meets', meets'']

theorem satisfied_cons_iff {condition : UInt8 → Bool} :
    satisfied (condition :: conditions) rest = conditions.length + 1 ↔
      ∃ b more, rest = b :: more ∧ condition b = true ∧
        satisfied conditions more = conditions.length := by
  cases rest with
  | nil => simp [satisfied]
  | cons b more =>
      rw [satisfied]
      split
      · constructor
        · intro complete
          exact ⟨b, more, rfl, by assumption, by omega⟩
        · rintro ⟨_, _, ⟨⟩, _, complete⟩
          omega
      · simp_all

-- Everything that a first byte can ask of the bytes after it.
theorem continuations_cases (known : continuations a = some conditions) :
    (a.toNat < 0x80 ∧ conditions = []) ∨
    (0xC2 ≤ a.toNat ∧ a.toNat < 0xE0 ∧ conditions = [isContinuation]) ∨
    (0xE0 ≤ a.toNat ∧ a.toNat < 0xF0 ∧ ∃ second, conditions = [second, isContinuation] ∧
      ∀ b, second b = true ↔ 0x80 ≤ b.toNat ∧ b.toNat ≤ 0xBF ∧
        (a.toNat = 0xE0 → 0xA0 ≤ b.toNat) ∧ (a.toNat = 0xED → b.toNat ≤ 0x9F)) ∨
    (0xF0 ≤ a.toNat ∧ a.toNat ≤ 0xF4 ∧
      ∃ second, conditions = [second, isContinuation, isContinuation] ∧
      ∀ b, second b = true ↔ 0x80 ≤ b.toNat ∧ b.toNat ≤ 0xBF ∧
        (a.toNat = 0xF0 → 0x90 ≤ b.toNat) ∧ (a.toNat = 0xF4 → b.toNat ≤ 0x8F)) := by
  by_cases one : a.toNat < 0x80
  · rw [continuations_eq, if_pos one] at known
    cases known
    exact .inl ⟨one, rfl⟩
  by_cases none : a.toNat < 0xC2
  · rw [continuations_eq, if_neg one, if_pos none] at known
    cases known
  by_cases two : a.toNat < 0xE0
  · rw [continuations_two (by omega) two] at known
    cases known
    exact .inr (.inl ⟨by omega, two, rfl⟩)
  by_cases three : a.toNat < 0xF0
  · obtain ⟨second, same, iff⟩ := continuations_three (by omega) three
    rw [same] at known
    cases known
    exact .inr (.inr (.inl ⟨by omega, three, second, rfl, iff⟩))
  by_cases four : a.toNat ≤ 0xF4
  · obtain ⟨second, same, iff⟩ := continuations_four (by omega) four
    rw [same] at known
    cases known
    exact .inr (.inr (.inr ⟨by omega, four, second, rfl, iff⟩))
  · rw [continuations_eq, if_neg one, if_neg none, if_neg two, if_neg (by omega),
      if_neg (by omega), if_neg three, if_neg (by omega), if_neg (by omega),
      if_neg (by omega)] at known
    cases known

theorem spells_of_satisfied (known : continuations a = some conditions)
    (complete : satisfied conditions rest = conditions.length) :
    ∃ n, Spells a (rest.take conditions.length) n := by
  rcases continuations_cases known with ⟨low, rfl⟩ | ⟨low, high, rfl⟩ |
    ⟨low, high, second, rfl, iff⟩ | ⟨low, high, second, rfl, iff⟩
  · exact ⟨_, .one rfl low⟩
  · obtain ⟨b, more, rfl, meets, _⟩ := satisfied_cons_iff.mp complete
    rw [isContinuation_iff] at meets
    exact ⟨a.toNat % 32 * 64 + b.toNat % 64,
      .two (by omega) (by omega) (by omega) (by omega)⟩
  · obtain ⟨b, more, rfl, meets, rest⟩ := satisfied_cons_iff.mp complete
    obtain ⟨c, more, rfl, meets', _⟩ := satisfied_cons_iff.mp rest
    rw [iff] at meets
    rw [isContinuation_iff] at meets'
    exact ⟨a.toNat % 16 * 4096 + b.toNat % 64 * 64 + c.toNat % 64,
      .three (by omega) (by omega) (by omega) (by omega) (by omega) (by omega)⟩
  · obtain ⟨b, more, rfl, meets, rest⟩ := satisfied_cons_iff.mp complete
    obtain ⟨c, more, rfl, meets', rest⟩ := satisfied_cons_iff.mp rest
    obtain ⟨d, more, rfl, meets'', _⟩ := satisfied_cons_iff.mp rest
    rw [iff] at meets
    rw [isContinuation_iff] at meets' meets''
    exact ⟨a.toNat % 8 * 262144 + b.toNat % 64 * 4096 + c.toNat % 64 * 64 + d.toNat % 64,
      .four (by omega) (by omega) (by omega) (by omega) (by omega) (by omega)⟩

theorem spells_encode (c : Char) :
    ∃ first others, String.utf8EncodeChar c = first :: others ∧ Spells first others c.toNat := by
  have bound : c.val.toNat < 0xD800 ∨ 0xDFFF < c.val.toNat ∧ c.val.toNat < 0x110000 := c.valid
  show ∃ first others, _ ∧ Spells first others c.val.toNat
  unfold String.utf8EncodeChar
  generalize c.val.toNat = n at bound
  dsimp only
  split
  · refine ⟨_, _, rfl, .one ?_ (by omega)⟩
    rw [UInt8.toNat_ofNat']
    omega
  split
  · refine ⟨_, _, rfl, .two ?_ ?_ (by omega) (by omega)⟩
    all_goals
      rw [UInt8.toNat_ofNat']
      omega
  split
  · refine ⟨_, _, rfl, .three ?_ ?_ ?_ (by omega) (by omega) (by omega)⟩
    all_goals
      rw [UInt8.toNat_ofNat']
      omega
  · refine ⟨_, _, rfl, .four ?_ ?_ ?_ ?_ (by omega) (by omega)⟩
    all_goals
      rw [UInt8.toNat_ofNat']
      omega

theorem Spells.assemble (spelled : Spells a others n) : assemble a others = Char.ofNat n := by
  cases spelled with
  | one first high => rw [← first]; rfl
  | two | three | four =>
    simp only [Text.assemble, List.length_cons, List.length_nil, List.foldl_cons,
      List.foldl_nil, *]
    congr 1
    omega

theorem Spells.toNat_ofNat (spelled : Spells a others n) : (Char.ofNat n).toNat = n := by
  have valid : n.isValidChar := by
    cases spelled with
    | one first high => exact .inl (by omega)
    | two _ _ low high => exact .inl (by omega)
    | three _ _ _ low high plain => exact plain.imp_right fun above => ⟨above, by omega⟩
    | four => exact .inr ⟨by omega, by omega⟩
  rw [Char.ofNat, dif_pos valid]
  rfl

theorem Spells.low_first (spelled : Spells a others n) (low : n < 0x80) : UInt8.ofNat n = a := by
  cases spelled with
  | one first high => rw [← first, UInt8.ofNat_toNat]
  | two | three | four => omega

theorem Spells.low_others (spelled : Spells a others n) (low : n < 0x80) : others = [] := by
  cases spelled with
  | one => rfl
  | two | three | four => omega

theorem Spells.unique (spelled : Spells a others n) (again : Spells b rest n) :
    a :: others = b :: rest := by
  have same : ∀ {x y : UInt8} {m : Nat}, x.toNat = m → y.toNat = m → x = y :=
    fun left right => UInt8.toNat_inj.mp (left.trans right.symm)
  cases spelled with
  | one first =>
      cases again with
      | one first' => rw [same first first']
      | two | three | four => omega
  | two first second =>
      cases again with
      | two first' second' => rw [same first first', same second second']
      | one | three | four => omega
  | three first second third =>
      cases again with
      | three first' second' third' =>
          rw [same first first', same second second', same third third']
      | one | two | four => omega
  | four first second third fourth =>
      cases again with
      | four first' second' third' fourth' =>
          rw [same first first', same second second', same third third', same fourth fourth']
      | one | two | three => omega

theorem Spells.encode (spelled : Spells a others n) :
    String.utf8EncodeChar (Char.ofNat n) = a :: others := by
  obtain ⟨first, more, form, again⟩ := spells_encode (Char.ofNat n)
  rw [spelled.toNat_ofNat] at again
  rw [form, again.unique spelled]

theorem lossyFrom_skip (front rest : Bytes) :
    lossyFrom front.length (front ++ rest) = lossyFrom 0 rest := by
  induction front with
  | nil => rfl
  | cons b front ih => rw [List.length_cons, List.cons_append, lossyFrom, ih]

-- A whole character is decoded to itself, whatever follows.
theorem lossyFrom_encode (c : Char) (rest : Bytes) :
    lossyFrom 0 (String.utf8EncodeChar c ++ rest) = c :: lossyFrom 0 rest := by
  obtain ⟨first, others, form, spelled⟩ := spells_encode c
  obtain ⟨conditions, known, length, complete⟩ := spelled.complete
  rw [form, List.cons_append, lossyFrom, known]
  simp only [complete, length, if_true, List.take_left, spelled.assemble, Char.ofNat_toNat,
    lossyFrom_skip]

theorem lossy_utf8 (text : String) : lossy (utf8 text) = text := by
  have decoded : lossyFrom 0 (text.toList.flatMap String.utf8EncodeChar) = text.toList := by
    induction text.toList with
    | nil => rfl
    | cons c rest ih => rw [List.flatMap_cons, lossyFrom_encode, ih]
  rw [lossy, utf8, decoded, String.ofList_toList]

theorem satisfied_le (conditions : List (UInt8 → Bool)) (bytes : Bytes) :
    satisfied conditions bytes ≤ bytes.length := by
  fun_induction satisfied conditions bytes <;> simp_all

theorem continuations_high (known : continuations a = some conditions) :
    ∀ condition ∈ conditions, ∀ b, condition b = true → 0x80 ≤ b.toNat := by
  have tail : ∀ b, isContinuation b = true → 0x80 ≤ b.toNat :=
    fun b meets => (isContinuation_iff.mp meets).1
  rcases continuations_cases known with ⟨_, rfl⟩ | ⟨_, _, rfl⟩ |
    ⟨_, _, second, rfl, iff⟩ | ⟨_, _, second, rfl, iff⟩
  · simp
  · simpa using tail
  · simpa using ⟨fun b meets => ((iff b).mp meets).1, tail⟩
  · simpa using ⟨fun b meets => ((iff b).mp meets).1, tail⟩

theorem satisfied_append {front back : Bytes}
    (refused : ∀ condition ∈ conditions, condition b = false) :
    satisfied conditions (front ++ b :: back) = satisfied conditions front := by
  induction conditions generalizing front with
  | nil => simp [satisfied]
  | cons condition conditions ih =>
      cases front with
      | nil => simp [satisfied, refused condition List.mem_cons_self]
      | cons c front =>
          rw [List.cons_append, satisfied, satisfied,
            ih fun condition member => refused condition (List.mem_cons_of_mem _ member)]

-- A byte that is a character by itself ends everything before it.
theorem lossyFrom_append {skip : Nat} {front back : Bytes} (low : b.toNat < 0x80)
    (short : skip ≤ front.length) :
    lossyFrom skip (front ++ b :: back) =
      lossyFrom skip front ++ Char.ofNat b.toNat :: lossyFrom 0 back := by
  fun_induction lossyFrom skip front with
  | case1 skip =>
      have none : skip = 0 := by simpa using short
      rw [none, List.nil_append, lossyFrom, continuations_eq, if_pos low]
      rfl
  | case2 skip first rest ih =>
      rw [List.cons_append, lossyFrom]
      exact ih (by simpa using short)
  | case3 first rest unknown ih =>
      rw [List.cons_append, lossyFrom, unknown]
      exact congrArg (replacement :: ·) (ih (Nat.zero_le _))
  | case4 first rest conditions known count c ih =>
      have fits : count ≤ rest.length := satisfied_le conditions rest
      have ends : satisfied conditions (rest ++ b :: back) = count := by
        refine satisfied_append fun condition member => eq_false_of_ne_true fun meets => ?_
        have high := continuations_high known condition member b meets
        omega
      rw [List.cons_append, lossyFrom, known]
      simp only [ends]
      rw [ih fits, List.take_append_of_le_length fits]
      rfl

theorem mem_of_mem_lossyFrom {skip : Nat} (low : c.toNat < 0x80)
    (member : c ∈ lossyFrom skip bytes) : UInt8.ofNat c.toNat ∈ bytes := by
  fun_induction lossyFrom skip bytes with
  | case1 => cases member
  | case2 skip first rest ih => exact List.mem_cons_of_mem _ (ih member)
  | case3 first rest unknown ih =>
      rcases List.mem_cons.mp member with same | later
      · rw [same] at low
        exact absurd low (by decide)
      · exact List.mem_cons_of_mem _ (ih later)
  | case4 first rest conditions known count d ih =>
      rcases List.mem_cons.mp member with same | later
      · by_cases complete : count = conditions.length
        · obtain ⟨n, spelled⟩ := spells_of_satisfied known complete
          have number : c.toNat = n := by
            rw [same, show d = _ from if_pos complete, complete, spelled.assemble,
              spelled.toNat_ofNat]
          rw [number, spelled.low_first (number ▸ low)]
          exact .head _
        · rw [same, show d = _ from if_neg complete] at low
          exact absurd low (by decide)
      · exact List.mem_cons_of_mem _ (ih later)

theorem lossyFrom_eq_nil : lossyFrom 0 bytes = [] ↔ bytes = [] := by
  cases bytes with
  | nil => simp [lossyFrom]
  | cons first rest =>
      rw [lossyFrom]
      split <;> simp

end Acceptance.Text
