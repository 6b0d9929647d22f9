import Acceptance.Path
import Acceptance.Proofs.Utf8Sequences
import Acceptance.Text.Names

namespace Acceptance.Text

-- Names and the texts by which they are told. Every sequence of bytes is a name, a text is told as
-- it is, and the text of a path is put together from the texts of its parts.

variable {name other : String} {c : Char} {b : UInt8}

theorem markOf_toNat (b : UInt8) : (markOf b).toNat = 0x10FF00 + b.toNat := by
  have bound := b.toNat_lt
  have valid : (0x10FF00 + b.toNat).isValidChar := .inr ⟨by omega, by omega⟩
  rw [markOf, Char.ofNat, dif_pos valid]
  rfl

theorem isMark_markOf (high : 0x80 ≤ b.toNat) : isMark (markOf b) = true := by
  rw [isMark, markOf_toNat]
  exact decide_eq_true (by omega)

theorem byteOf_markOf (b : UInt8) : byteOf (markOf b) = b := by
  rw [byteOf, markOf_toNat, ← UInt8.toNat_inj]
  simp

def bytesOf (c : Char) : Bytes := if isMark c then [byteOf c] else String.utf8EncodeChar c

theorem nameBytes_eq (name : String) : nameBytes name = name.toList.flatMap bytesOf := rfl

theorem flatMap_bytesOf {text : List Char} (plain : text.any isMark = false) :
    text.flatMap bytesOf = text.flatMap String.utf8EncodeChar := by
  induction text with
  | nil => rfl
  | cons c rest ih =>
      simp only [List.any_cons, Bool.or_eq_false_iff] at plain
      rw [List.flatMap_cons, List.flatMap_cons, ih plain.2, bytesOf, plain.1]
      rfl

theorem shown_eq (name : String) : shown name = lossy (nameBytes name) := by
  unfold shown
  split
  · rfl
  · rename_i plain
    rw [nameBytes_eq, flatMap_bytesOf (by simpa using plain)]
    exact (lossy_utf8 name).symm

theorem isMark_high (marked : isMark c = true) : 0x10FF80 ≤ c.toNat ∧ c.toNat < 0x110000 := by
  refine ⟨of_decide_eq_true marked, ?_⟩
  rcases c.valid with below | ⟨_, below⟩
  · exact Nat.lt_trans below (by omega)
  · exact below

theorem encode_high (high : 0x80 ≤ c.toNat) :
    ∀ b ∈ String.utf8EncodeChar c, 0x80 ≤ b.toNat := by
  obtain ⟨first, others, form, spelled⟩ := spells_encode c
  rw [form]
  generalize c.toNat = n at spelled high
  cases spelled <;> simp <;> omega

theorem nameBytes_ofText (text : String) : nameBytes (ofText text) = utf8 text := by
  have spelled : ∀ chars : List Char,
      (chars.flatMap fun c => if isMark c then (String.utf8EncodeChar c).map markOf else [c]).flatMap
        bytesOf = chars.flatMap String.utf8EncodeChar := by
    intro chars
    rw [List.flatMap_assoc]
    congr
    funext c
    split
    · rename_i marked
      have high := encode_high (by have := isMark_high marked; omega : 0x80 ≤ c.toNat)
      generalize String.utf8EncodeChar c = bytes at high
      induction bytes with
      | nil => rfl
      | cons b bytes ih =>
          rw [List.map_cons, List.flatMap_cons, bytesOf, isMark_markOf (high b (.head _)),
            ih fun d member => high d (.tail _ member)]
          simp [byteOf_markOf]
    · rename_i plain
      simp [bytesOf, plain]
  unfold ofText
  split
  · rw [nameBytes_eq, String.toList_ofList, spelled]
    rfl
  · rename_i plain
    rw [nameBytes_eq, flatMap_bytesOf (by simpa using plain)]
    rfl

theorem shown_ofText (text : String) : shown (ofText text) = text := by
  rw [shown_eq, nameBytes_ofText, lossy_utf8]

-- What is told of the characters of a name. Characters of one byte divide it.
def tell (chars : List Char) : List Char := lossyFrom 0 (chars.flatMap bytesOf)

theorem toList_shown (name : String) : (shown name).toList = tell name.toList := by
  rw [shown_eq, lossy, String.toList_ofList]
  rfl

theorem bytesOf_low (low : c.toNat < 0x80) : bytesOf c = [UInt8.ofNat c.toNat] := by
  have plain : isMark c = false := decide_eq_false (by omega)
  obtain ⟨first, others, form, spelled⟩ := spells_encode c
  rw [bytesOf, plain, form, spelled.low_others low, spelled.low_first low]
  rfl

theorem bytesOf_high (high : 0x80 ≤ c.toNat) : ∀ b ∈ bytesOf c, 0x80 ≤ b.toNat := by
  unfold bytesOf
  split
  · rename_i marked
    have bounds := isMark_high marked
    simp [byteOf]
    omega
  · exact encode_high high

variable {chars front back : List Char}

theorem tell_append (low : c.toNat < 0x80) :
    tell (front ++ c :: back) = tell front ++ c :: tell back := by
  have small : (UInt8.ofNat c.toNat).toNat = c.toNat := by simp; omega
  rw [tell, List.flatMap_append, List.flatMap_cons, bytesOf_low low, List.singleton_append,
    lossyFrom_append (by omega) (Nat.zero_le _), small, Char.ofNat_toNat]
  rfl

theorem mem_tell (low : c.toNat < 0x80) : c ∈ tell chars ↔ c ∈ chars := by
  constructor
  · intro told
    obtain ⟨d, member, spelled⟩ := List.mem_flatMap.mp (mem_of_mem_lossyFrom low told)
    have small : (UInt8.ofNat c.toNat).toNat = c.toNat := by simp; omega
    by_cases high : 0x80 ≤ d.toNat
    · have above := bytesOf_high high _ spelled
      omega
    · rw [bytesOf_low (by omega), List.mem_singleton, ← UInt8.toNat_inj, small] at spelled
      have same : c = d := Char.toNat_inj.mp (by rw [spelled]; simp; omega)
      rwa [same]
  · intro member
    obtain ⟨front, back, rfl⟩ := List.append_of_mem member
    rw [tell_append low]
    simp

theorem tell_eq_nil : tell chars = [] ↔ chars = [] := by
  rw [tell, lossyFrom_eq_nil]
  cases chars with
  | nil => simp
  | cons c rest =>
      rw [List.flatMap_cons, bytesOf]
      split
      · simp
      · obtain ⟨first, others, form, _⟩ := spells_encode c
        simp [form]

theorem head?_tell (low : c.toNat < 0x80) : (tell chars).head? = some c ↔ chars.head? = some c := by
  have first : ∀ {front back : List Char}, c ∉ front →
      ((front ++ c :: back).head? = some c ↔ front = []) := by
    intro front back absent
    cases front <;> simp_all [eq_comm]
  by_cases member : c ∈ chars
  · obtain ⟨front, back, rfl, absent⟩ := List.eq_append_cons_of_mem member
    rw [tell_append low, first (by rwa [mem_tell low]), first absent, tell_eq_nil]
  · have absent : c ∉ tell chars := by rwa [mem_tell low]
    exact ⟨fun told => absurd (List.mem_of_mem_head? told) absent,
      fun given => absurd (List.mem_of_mem_head? given) member⟩

theorem getLast?_tell (low : c.toNat < 0x80) :
    (tell chars).getLast? = some c ↔ chars.getLast? = some c := by
  have last : ∀ {front back : List Char}, c ∉ back →
      ((front ++ c :: back).getLast? = some c ↔ back = []) := by
    intro front back absent
    cases back with
    | nil => simp
    | cons d back =>
        have other : (d :: back).getLast? ≠ some c := fun same => absent (List.mem_of_getLast? same)
        simpa [List.getLast?_append] using other
  by_cases member : c ∈ chars
  · obtain ⟨back, front, form, absent⟩ := List.eq_append_cons_of_mem (List.mem_reverse.mpr member)
    have divided : chars = front.reverse ++ c :: back.reverse := by
      rw [← chars.reverse_reverse, form]
      simp
    have absent' : c ∉ back.reverse := by simpa using absent
    rw [divided, tell_append low, last (by rwa [mem_tell low]), last absent', tell_eq_nil]
  · have absent : c ∉ tell chars := by rwa [mem_tell low]
    exact ⟨fun told => absurd (List.mem_of_getLast? told) absent,
      fun given => absurd (List.mem_of_getLast? given) member⟩

theorem mem_shown (low : c.toNat < 0x80) : c ∈ (shown name).toList ↔ c ∈ name.toList := by
  rw [toList_shown, mem_tell low]

theorem shown_join (base path : String) :
    shown (Path.join base path) = Path.join (shown base) (shown path) := by
  have slash : '/'.toNat < 0x80 := by decide
  have absolute : (shown path).toList.head? = some '/' ↔ path.toList.head? = some '/' := by
    rw [toList_shown, head?_tell slash]
  have closed : (shown base).toList.getLast? = some '/' ↔ base.toList.getLast? = some '/' := by
    rw [toList_shown, getLast?_tell slash]
  have empty : (shown base).isEmpty = base.isEmpty := by
    rw [Bool.eq_iff_iff, String.isEmpty_iff, String.isEmpty_iff, ← String.toList_eq_nil_iff,
      ← String.toList_eq_nil_iff, toList_shown, tell_eq_nil]
  unfold Path.join
  simp only [absolute, closed, empty]
  split
  · rfl
  split
  · rename_i ends
    obtain ⟨front, form⟩ := List.getLast?_eq_some_iff.mp ends
    apply String.toList_inj.mp
    rw [toList_shown, String.toList_append, String.toList_append, toList_shown, toList_shown, form,
      List.append_assoc, List.singleton_append, tell_append slash, tell_append slash]
    simp [tell_eq_nil.mpr]
  · apply String.toList_inj.mp
    have divided : tell (base.toList ++ '/' :: path.toList) = _ := tell_append slash
    simpa [toList_shown] using divided

theorem isText_iff : isText name = true ↔ ∃ text, name = ofText text := by
  rw [isText, beq_iff_eq]
  constructor
  · intro same
    exact ⟨_, same.symm⟩
  · rintro ⟨text, rfl⟩
    rw [shown_ofText]

theorem nameFrom_bytes (skip : Nat) (bytes : Bytes) :
    (nameFrom skip bytes).flatMap bytesOf = bytes.drop skip := by
  have lone : ∀ {first : UInt8}, 0x80 ≤ first.toNat → bytesOf (markOf first) = [first] := by
    intro first high
    rw [bytesOf, isMark_markOf high, byteOf_markOf]
    rfl
  fun_induction nameFrom skip bytes with
  | case1 => simp
  | case2 skip first rest ih => simpa using ih
  | case3 first rest unknown ih =>
      have high : 0x80 ≤ first.toNat := by
        refine Nat.le_of_not_lt fun low => ?_
        rw [continuations_eq, if_pos low] at unknown
        cases unknown
      rw [List.flatMap_cons, lone high, ih]
      rfl
  | case4 first rest conditions known count c whole ih =>
      simp only [Bool.and_eq_true, decide_eq_true_eq, Bool.not_eq_true'] at whole
      obtain ⟨complete, plain⟩ := whole
      obtain ⟨n, spelled⟩ := spells_of_satisfied known complete
      have form : String.utf8EncodeChar c = first :: rest.take count := by
        show String.utf8EncodeChar (assemble first (rest.take count)) = _
        rw [complete, spelled.assemble, spelled.encode]
      rw [List.flatMap_cons, ih, bytesOf, plain, if_neg (by decide), form]
      simp
  | case5 first rest conditions known count c broken ih =>
      have high : 0x80 ≤ first.toNat := by
        refine Nat.le_of_not_lt fun low => broken ?_
        rw [continuations_eq, if_pos low] at known
        cases known
        have number : c.toNat = first.toNat := (Spells.one rfl low).toNat_ofNat
        have plain : isMark c = false := decide_eq_false (by omega)
        simp [plain, satisfied, count]
      rw [List.flatMap_cons, lone high, ih]
      rfl

-- A letter and a byte, which is part of no character if it is a high one.
def stray (byte : UInt8) : String := nameOfBytes [0x61, byte]

-- Different bytes spell different names.
theorem nameBytes_nameOfBytes (bytes : Bytes) : nameBytes (nameOfBytes bytes) = bytes := by
  rw [nameBytes_eq, nameOfBytes, String.toList_ofList, nameFrom_bytes]
  rfl

end Acceptance.Text
