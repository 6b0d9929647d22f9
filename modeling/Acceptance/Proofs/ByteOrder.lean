import Acceptance.Text.Utf8

namespace Acceptance.Text

-- The order of texts. Texts are ordered by their characters, and the bytes that encode them are
-- in the same order: the first byte of a character tells how many follow, and the greater
-- character has more of them or greater ones.

variable {c d : Char} {m n v w : Nat} {one other : Bytes}

theorem cons_lt (small : n < 256) (below : m < n ∨ m = n ∧ one < other) :
    UInt8.ofNat m :: one < UInt8.ofNat n :: other := by
  rw [List.cons_lt_cons_iff]
  rcases below with less | ⟨rfl, less⟩
  · left
    rw [UInt8.lt_iff_toNat_lt, UInt8.toNat_ofNat', UInt8.toNat_ofNat']
    omega
  · exact .inr ⟨rfl, less⟩

theorem oneDigit_lt (less : v % 64 < w % 64) :
    UInt8.ofNat (v % 64 + 0x80) :: one < UInt8.ofNat (w % 64 + 0x80) :: other :=
  cons_lt (by omega) (.inl (by omega))

theorem twoDigits_lt (less : v % 4096 < w % 4096) :
    UInt8.ofNat (v / 64 % 64 + 0x80) :: UInt8.ofNat (v % 64 + 0x80) :: one <
      UInt8.ofNat (w / 64 % 64 + 0x80) :: UInt8.ofNat (w % 64 + 0x80) :: other := by
  refine cons_lt (by omega) ?_
  by_cases same : v / 64 % 64 = w / 64 % 64
  · exact .inr ⟨by rw [same], oneDigit_lt (by omega)⟩
  · exact .inl (by omega)

theorem threeDigits_lt (less : v % 262144 < w % 262144) :
    UInt8.ofNat (v / 4096 % 64 + 0x80) :: UInt8.ofNat (v / 64 % 64 + 0x80) ::
        UInt8.ofNat (v % 64 + 0x80) :: one <
      UInt8.ofNat (w / 4096 % 64 + 0x80) :: UInt8.ofNat (w / 64 % 64 + 0x80) ::
        UInt8.ofNat (w % 64 + 0x80) :: other := by
  refine cons_lt (by omega) ?_
  by_cases same : v / 4096 % 64 = w / 4096 % 64
  · exact .inr ⟨by rw [same], twoDigits_lt (by omega)⟩
  · exact .inl (by omega)

theorem encodeChar_lt (less : c < d) (one other : Bytes) :
    String.utf8EncodeChar c ++ one < String.utf8EncodeChar d ++ other := by
  have smaller : c.val.toNat < d.val.toNat := less
  have bound : d.val.toNat < 0x110000 := by
    rcases d.valid with low | high <;> omega
  unfold String.utf8EncodeChar
  generalize c.val.toNat = v, d.val.toNat = w at smaller bound
  dsimp only
  -- Fewer bytes have a smaller first byte; among as many the digits are compared.
  by_cases single : w ≤ 0x7f
  · rw [if_pos (show v ≤ 0x7f by omega), if_pos single]
    exact cons_lt (by omega) (.inl smaller)
  by_cases double : w ≤ 0x7ff
  · rw [if_neg single, if_pos double]
    split
    · exact cons_lt (by omega) (.inl (by omega))
    rw [if_pos (show v ≤ 0x7ff by omega)]
    refine cons_lt (by omega) ?_
    by_cases same : v / 64 % 32 = w / 64 % 32
    · exact .inr ⟨by rw [same], oneDigit_lt (by omega)⟩
    · exact .inl (by omega)
  by_cases triple : w ≤ 0xffff
  · rw [if_neg single, if_neg double, if_pos triple]
    split
    · exact cons_lt (by omega) (.inl (by omega))
    split
    · exact cons_lt (by omega) (.inl (by omega))
    rw [if_pos (show v ≤ 0xffff by omega)]
    refine cons_lt (by omega) ?_
    by_cases same : v / 4096 % 16 = w / 4096 % 16
    · exact .inr ⟨by rw [same], twoDigits_lt (by omega)⟩
    · exact .inl (by omega)
  rw [if_neg single, if_neg double, if_neg triple]
  split
  · exact cons_lt (by omega) (.inl (by omega))
  split
  · exact cons_lt (by omega) (.inl (by omega))
  split
  · exact cons_lt (by omega) (.inl (by omega))
  refine cons_lt (by omega) ?_
  by_cases same : v / 262144 % 8 = w / 262144 % 8
  · exact .inr ⟨by rw [same], threeDigits_lt (by omega)⟩
  · exact .inl (by omega)

theorem encodeChar_ne_nil (c : Char) : String.utf8EncodeChar c ≠ [] := by
  intro empty
  have size := String.length_utf8EncodeChar c
  rw [empty] at size
  exact absurd size (Nat.ne_of_lt c.utf8Size_pos)

theorem utf8_lt {one other : String} (below : one < other) : utf8 one < utf8 other := by
  have chars : one.toList < other.toList := below
  unfold utf8
  generalize one.toList = left, other.toList = right at chars
  induction chars with
  | @nil c rest =>
      rw [List.flatMap_nil, List.flatMap_cons]
      obtain ⟨byte, more, form⟩ := List.exists_cons_of_ne_nil (encodeChar_ne_nil c)
      rw [form]
      exact .nil
  | @cons c left right less ih =>
      rw [List.flatMap_cons, List.flatMap_cons]
      exact List.append_left_lt ih
  | rel less =>
      rw [List.flatMap_cons, List.flatMap_cons]
      exact encodeChar_lt less _ _

end Acceptance.Text
