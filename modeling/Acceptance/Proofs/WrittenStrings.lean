import Acceptance.Toml.Quoted
import Acceptance.Toml.Writer

namespace Acceptance.Toml

-- Strings are read as they were written. The writer chooses among four forms; whichever it takes,
-- the reader finds the text again and stops behind the closing mark.

theorem isPlain_of_allowed {c : Char} (allowed : isForbidden [] c = false) : isPlain c := by
  simp only [isForbidden, isControl, List.contains_nil, Bool.not_false, Bool.and_true,
    Bool.and_eq_false_iff, Bool.or_eq_false_iff, decide_eq_false_iff_not, beq_eq_false_iff_ne,
    bne_eq_false_iff_eq] at allowed
  simp only [isPlain, Bool.or_eq_true, beq_iff_eq, Bool.and_eq_true, decide_eq_true_eq, bne_iff_ne]
  rcases allowed with ⟨above, other⟩ | tab
  · exact .inr ⟨by omega, other⟩
  · exact .inl tab

theorem isPlain_or_newline {c : Char} (allowed : isForbidden ['\n'] c = false) :
    isPlain c ∨ c = '\n' := by
  by_cases newline : c = '\n'
  · exact .inr newline
  · refine .inl (isPlain_of_allowed ?_)
    simpa [isForbidden, newline] using allowed

-- How a character is written between quotation marks: as it is, or as an escape that the reader
-- undoes and does not take for a continued line.
inductive Escaped (c : Char) : List Char → Prop where
  | itself (plain : isPlain c) (quiet : c ≠ '\\' ∧ c ≠ '"') : Escaped c [c]
  | escape {written : List Char} (undone : ∀ rest, escape? (written ++ rest) =
      some (c, written.length)) (inline : ∀ rest, continuation? (written ++ rest) = none) :
      Escaped c ('\\' :: written)

theorem continuation_none {mark : Char} {rest : List Char} (dark : isGap mark = false)
    (inline : mark ≠ '\n' ∧ mark ≠ '\r') : continuation? (mark :: rest) = none := by
  simp only [continuation?, List.dropWhile_cons, dark]
  split <;> simp_all [isLineEnd]

theorem escaped_letter {c mark : Char} (told : letterEscape? mark = some c)
    (short : codeLength? mark = none) (dark : isGap mark = false)
    (inline : mark ≠ '\n' ∧ mark ≠ '\r') : Escaped c ['\\', mark] := by
  refine .escape (fun rest => ?_) fun rest => continuation_none dark inline
  simp [escape?, told, short]

theorem coded_control : ∀ code < 128, isControl (Char.ofNat code) →
    coded? ['0', '0', upperHex (code / 16), upperHex (code % 16)] = some (Char.ofNat code) := by
  decide

theorem escaped_control {c : Char} (control : isControl c) : Escaped c
    ['\\', 'u', '0', '0', upperHex (c.toNat / 16), upperHex (c.toNat % 16)] := by
  have small : c.toNat < 128 := by
    simp only [isControl, Bool.or_eq_true, decide_eq_true_eq, beq_iff_eq] at control
    omega
  have coded := coded_control c.toNat small (by rwa [Char.ofNat_toNat])
  rw [Char.ofNat_toNat] at coded
  refine .escape (fun rest => ?_) fun rest => continuation_none rfl (by decide)
  simp [escape?, codeLength?, coded]

theorem escaped_quote : Escaped '"' ['\\', '"'] := escaped_letter rfl rfl rfl (by decide)

theorem escapeBasic_escaped {c : Char} (other : c ≠ '"') : Escaped c (escapeBasic c) := by
  unfold escapeBasic
  repeat' split
  all_goals simp_all only [beq_iff_eq]
  any_goals exact escaped_letter rfl rfl rfl (by decide)
  · exact escaped_control ‹_›
  · refine .itself (isPlain_of_allowed ?_) ⟨‹_›, other⟩
    simp_all [isForbidden]

theorem quoteBasic_escaped (c : Char) :
    Escaped c (if c == '"' then ['\\', '"'] else escapeBasic c) := by
  by_cases quote : c = '"'
  · simpa [quote] using escaped_quote
  · simpa [quote] using escapeBasic_escaped quote

theorem Escaped.runLength {c : Char} {written : List Char} (escaped : Escaped c written)
    (rest : List Char) : runLength '"' (written ++ rest) = 0 := by
  cases escaped with
  | itself _ quiet => simp [Toml.runLength, quiet.2]
  | escape _ _ => simp [Toml.runLength]

theorem readBasic_skip (written rest : List Char) :
    readBasic written.length (written ++ rest) = readBasic 0 rest := by
  induction written with
  | nil => rfl
  | cons c written ih => exact ih

theorem Escaped.readBasic {c : Char} {piece : List Char} (escaped : Escaped c piece)
    (rest : List Char) :
    Toml.readBasic 0 (piece ++ rest) = Reading.push c (Toml.readBasic 0 rest) := by
  cases escaped with
  | itself plain quiet => simp [Toml.readBasic, plain, quiet.1, quiet.2]
  | escape undone _ =>
      rw [List.cons_append, Toml.readBasic, if_neg (by decide), if_pos rfl, undone]
      simp only [readBasic_skip]

theorem readBasic_body (text rest : List Char) :
    readBasic 0 (basicBody text ++ '"' :: rest) = some (text, rest) := by
  induction text with
  | nil => rfl
  | cons c text ih =>
      rw [basicBody, List.flatMap_cons, List.append_assoc, (quoteBasic_escaped c).readBasic]
      exact congrArg (Reading.push c) ih

theorem readLiteral_text {text : List Char} (rest : List Char)
    (quiet : ∀ c ∈ text, c ≠ '\'' ∧ isPlain c) :
    readLiteral (text ++ '\'' :: rest) = some (text, rest) := by
  induction text with
  | nil => rfl
  | cons c text ih =>
      obtain ⟨other, plain⟩ := quiet c List.mem_cons_self
      have tail := ih fun c member => quiet c (List.mem_cons_of_mem _ member)
      simp [readLiteral, other, plain, tail, Reading.push]

-- The body of a string between three marks and its text. At most two marks stand in a row, those
-- that came before counted by the first index; every other character is written by `piece`, which
-- does not start with a mark.
inductive Lined (mark : Char) (piece : Char → List Char → Prop) :
    Nat → List Char → List Char → Prop where
  | nil {run : Nat} : Lined mark piece run [] []
  | mark {run : Nat} {text body : List Char} (few : run < 2)
      (more : Lined mark piece (run + 1) text body) :
      Lined mark piece run (mark :: text) (mark :: body)
  | piece {run : Nat} {c : Char} {written text body : List Char} (wrote : piece c written)
      (begins : ∀ rest, runLength mark (written ++ rest) = 0)
      (more : Lined mark piece 0 text body) :
      Lined mark piece run (c :: text) (written ++ body)

def closed (mark : Char) (rest : List Char) : List Char := mark :: mark :: mark :: '\n' :: rest

variable {mark : Char} {piece : Char → List Char → Prop} {run : Nat} {text body : List Char}

theorem runLength_cons (rest : List Char) :
    runLength mark (mark :: rest) = runLength mark rest + 1 := by
  simp [runLength]

-- Marks at the start of a body either are too few to close it or reach the closing ones.
theorem Lined.runLength (lined : Lined mark piece run text body) (few : run ≤ 2)
    (rest : List Char) :
    runLength mark (body ++ closed mark rest) ≤ 2 - run ∨
      ∃ extra ≤ 2 - run, text = List.replicate extra mark ∧
        body = List.replicate extra mark := by
  induction lined with
  | nil => exact .inr ⟨0, by omega, rfl, rfl⟩
  | mark fewer more ih =>
      rw [List.cons_append, runLength_cons]
      rcases ih (by omega) with short | ⟨extra, bound, rfl, rfl⟩
      · exact .inl (by omega)
      · exact .inr ⟨extra + 1, by omega, rfl, rfl⟩
  | piece wrote begins more ih =>
      rw [List.append_assoc, begins]
      exact .inl (Nat.zero_le _)

theorem closing_short {rest : List Char} (short : runLength mark rest ≤ 2) :
    closing? mark rest = none := by
  simp only [closing?]
  rw [if_neg]
  omega

theorem closing_extra {extra : Nat} (few : extra ≤ 2) (other : mark ≠ '\n') (rest : List Char) :
    closing? mark (List.replicate extra mark ++ closed mark rest) = some (extra, '\n' :: rest) := by
  have length : runLength mark (List.replicate extra mark ++ closed mark rest) = extra + 3 := by
    simp [runLength, closed, other.symm]
  simp only [closing?, length]
  have run : min (extra + 3) 5 = extra + 3 := by omega
  simp [run, closed, List.drop_append]

-- A reader of such bodies: it ends at three marks, and takes fewer marks and the pieces as they
-- stand.
structure Reads (mark : Char) (piece : Char → List Char → Prop) (read : List Char → Reading) :
    Prop where
  closes : ∀ {text rest extra}, closing? mark text = some (extra, rest) →
    read text = some (List.replicate extra mark, rest)
  keeps : ∀ {rest}, closing? mark (mark :: rest) = none →
    read (mark :: rest) = Reading.push mark (read rest)
  takes : ∀ {c written} rest, piece c written → runLength mark (written ++ rest) = 0 →
    read (written ++ rest) = Reading.push c (read rest)

theorem Reads.lined {read : List Char → Reading} (reads : Reads mark piece read)
    (other : mark ≠ '\n') (lined : Lined mark piece run text body) (few : run ≤ 2)
    (rest : List Char) : read (body ++ closed mark rest) = some (text, '\n' :: rest) := by
  induction lined with
  | nil => exact reads.closes (closing_extra (Nat.zero_le 2) other rest)
  | mark fewer more ih =>
      rcases (Lined.mark fewer more).runLength few rest with
        short | ⟨extra, bound, same, written⟩
      · rw [List.cons_append] at short ⊢
        rw [reads.keeps (closing_short (by omega)), ih (by omega)]
        rfl
      · rw [same, written]
        exact reads.closes (closing_extra (by omega) other rest)
  | piece wrote begins more ih =>
      rw [List.append_assoc, reads.takes _ wrote (begins _), ih (by omega)]
      rfl

theorem closing_of_run {rest : List Char} (none_ : runLength mark rest = 0) :
    closing? mark rest = none := closing_short (by omega)

def LineEscaped (c : Char) (written : List Char) : Prop :=
  Escaped c written ∨ c = '\n' ∧ written = ['\n']

theorem readBasicLines_skip (written rest : List Char) :
    readBasicLines written.length (written ++ rest) = readBasicLines 0 rest := by
  induction written with
  | nil => rfl
  | cons c written ih => exact ih

theorem readBasicLines_reads : Reads '"' LineEscaped (readBasicLines 0) where
  closes := by
    intro text rest extra closes
    cases text with
    | nil => cases closes
    | cons c text => rw [readBasicLines, closes]
  keeps := by
    intro rest opens
    rw [readBasicLines, opens]
    rfl
  takes := by
    intro c written rest wrote begins
    have opens := closing_of_run begins
    rcases wrote with escaped | ⟨rfl, rfl⟩
    · cases escaped with
      | itself plain quiet =>
          rw [List.singleton_append] at opens ⊢
          rw [readBasicLines, opens]
          simp [quiet.1, isLineText, plain]
      | escape undone inline =>
          rw [List.cons_append] at opens ⊢
          rw [readBasicLines, opens]
          simp [undone, inline, readBasicLines_skip]
    · rw [List.singleton_append] at opens ⊢
      rw [readBasicLines, opens]
      rfl

theorem linesBody_lined (few : run ≤ 2) (text : List Char) :
    Lined '"' LineEscaped run text (linesBody run text) := by
  induction text generalizing run with
  | nil => exact .nil
  | cons c text ih =>
      rw [linesBody]
      split
      · rename_i quote
        rw [beq_iff_eq.mp quote]
        split
        · exact .piece (.inl escaped_quote) escaped_quote.runLength (ih (Nat.zero_le 2))
        · exact .mark (by omega) (ih (by omega))
      · rename_i other
        split
        · rename_i newline
          rw [beq_iff_eq.mp newline]
          exact .piece (.inr ⟨rfl, rfl⟩) (fun rest => rfl) (ih (Nat.zero_le 2))
        · have escaped : Escaped c (escapeBasic c) := escapeBasic_escaped (by simpa using other)
          exact .piece (.inl escaped) escaped.runLength (ih (Nat.zero_le 2))

def LineText (c : Char) (written : List Char) : Prop :=
  written = [c] ∧ (isPlain c ∨ c = '\n') ∧ c ≠ '\''

theorem readLiteralLines_reads : Reads '\'' LineText readLiteralLines where
  closes := by
    intro text rest extra closes
    cases text with
    | nil => cases closes
    | cons c text => rw [readLiteralLines, closes]
  keeps := by
    intro rest opens
    rw [readLiteralLines, opens]
    rfl
  takes := by
    rintro c written rest ⟨rfl, plain, -⟩ begins
    have opens := closing_of_run begins
    rw [List.singleton_append] at opens ⊢
    rw [readLiteralLines, opens]
    rcases plain with plain | rfl
    · simp [isLineText, plain]
    · rfl

theorem le_longestRun (mark : Char) (run : Nat) (text : List Char) :
    run ≤ longestRun mark run text := by
  induction text generalizing run with
  | nil => exact Nat.le_refl run
  | cons c text ih =>
      rw [longestRun]
      split
      · exact Nat.le_trans (Nat.le_succ run) (ih _)
      · exact Nat.le_max_left _ _

theorem literal_lined {text : List Char} (plain : ∀ c ∈ text, isPlain c ∨ c = '\n')
    (short : longestRun '\'' run text < 3) : Lined '\'' LineText run text text := by
  induction text generalizing run with
  | nil => exact .nil
  | cons c text ih =>
      have more := fun c member => plain c (List.mem_cons_of_mem _ member)
      rw [longestRun] at short
      split at short
      · rename_i quote
        rw [beq_iff_eq.mp quote]
        have counted := le_longestRun '\'' (run + 1) text
        exact .mark (by omega) (ih more short)
      · rename_i other
        have distinct : c ≠ '\'' := by simpa using other
        have piece : LineText c [c] := ⟨rfl, plain c List.mem_cons_self, distinct⟩
        refine .piece piece (fun rest => ?_) (ih more (by omega))
        simp [runLength, distinct]

theorem readString_basic {tail : List Char} (single : ∀ rest, tail ≠ '"' :: '"' :: rest) :
    readString? ('"' :: tail) = readBasic 0 tail := by
  unfold readString?
  split
  · rename_i same
    exact absurd (List.cons.inj same).2 (single _)
  · rename_i same
    rw [(List.cons.inj same).2]
  all_goals simp_all

theorem readString_literal {tail : List Char} (single : ∀ rest, tail ≠ '\'' :: '\'' :: rest) :
    readString? ('\'' :: tail) = readLiteral tail := by
  unfold readString?
  split
  · simp_all
  · simp_all
  · rename_i same
    exact absurd (List.cons.inj same).2 (single _)
  · rename_i same
    rw [(List.cons.inj same).2]
  · simp_all

theorem head_ne_mark {c : Char} {rest : List Char} (begins : runLength mark (c :: rest) = 0) :
    c ≠ mark := by
  rintro rfl
  rw [runLength_cons] at begins
  cases begins

theorem basicBody_single (text rest after : List Char) :
    basicBody text ++ '"' :: '\n' :: rest ≠ '"' :: '"' :: after := by
  cases text with
  | nil => simp [basicBody]
  | cons c text =>
      intro same
      have begins := (quoteBasic_escaped c).runLength (basicBody text ++ '"' :: '\n' :: rest)
      rw [← List.append_assoc] at begins
      exact head_ne_mark (same ▸ begins) rfl

theorem literal_single {text : List Char} (quiet : ∀ c ∈ text, c ≠ '\'') (rest after : List Char) :
    text ++ '\'' :: '\n' :: rest ≠ '\'' :: '\'' :: after := by
  cases text with
  | nil => simp
  | cons c text => simp [quiet c List.mem_cons_self]

theorem holds_of_ofText {form : StringForm} {text : List Char}
    (chosen : StringForm.ofText text = form) (raw : form = .literal ∨ form = .literalLines) :
    form.holds text := by
  simp only [StringForm.ofText] at chosen
  split at chosen
  · rename_i found
    exact chosen ▸ List.find?_some found
  · split at chosen
    · simp [← chosen] at raw
    · simp [← chosen] at raw

theorem dropFirstLineEnd_cons {c : Char} (inline : c ≠ '\n' ∧ c ≠ '\r') (rest : List Char) :
    dropFirstLineEnd (c :: rest) = c :: rest := by
  unfold dropFirstLineEnd
  split <;> simp_all

-- The writer adds a line end behind the opening marks exactly if the body may start with one.
theorem dropFirstLineEnd_opening (lined : Lined mark piece run text body)
    (distinct : mark ≠ '\n' ∧ mark ≠ '\r')
    (inline : ∀ {c written}, piece c written → c ≠ '\n' →
      ∃ first rest, written = first :: rest ∧ first ≠ '\n' ∧ first ≠ '\r') (rest : List Char) :
    dropFirstLineEnd (openingLine text ++ (body ++ closed mark rest)) =
      body ++ closed mark rest := by
  unfold openingLine
  split
  · rfl
  · rename_i single
    cases lined with
    | nil => exact dropFirstLineEnd_cons distinct _
    | mark _ _ => exact dropFirstLineEnd_cons distinct _
    | piece wrote _ _ =>
        obtain ⟨first, more, rfl, begins⟩ := inline wrote fun newline => by simp [newline] at single
        exact dropFirstLineEnd_cons begins _

theorem plain_inline {c : Char} (plain : isPlain c) : c ≠ '\n' ∧ c ≠ '\r' := by
  constructor <;> rintro rfl <;> cases plain

theorem LineEscaped.inline {c : Char} {written : List Char} (wrote : LineEscaped c written)
    (other : c ≠ '\n') : ∃ first rest, written = first :: rest ∧ first ≠ '\n' ∧ first ≠ '\r' := by
  rcases wrote with escaped | ⟨newline, -⟩
  · cases escaped with
    | itself plain _ => exact ⟨c, [], rfl, plain_inline plain⟩
    | escape _ _ => exact ⟨'\\', _, rfl, by decide⟩
  · exact absurd newline other

theorem LineText.inline {c : Char} {written : List Char} (wrote : LineText c written)
    (other : c ≠ '\n') : ∃ first rest, written = first :: rest ∧ first ≠ '\n' ∧ first ≠ '\r' :=
  ⟨c, [], wrote.1, plain_inline (wrote.2.1.resolve_right other)⟩

theorem readString_write (text rest : List Char) :
    readString? (writeString text ++ '\n' :: rest) = some (text, '\n' :: rest) := by
  unfold writeString
  cases chosen : StringForm.ofText text with
  | basic =>
      simp only [List.cons_append, List.append_assoc, List.nil_append]
      rw [readString_basic (basicBody_single text rest), readBasic_body]
  | literal =>
      have holds := holds_of_ofText chosen (.inl rfl)
      simp only [StringForm.holds, Bool.not_eq_true', List.any_eq_false, Bool.or_eq_true, not_or,
        beq_iff_eq, Bool.not_eq_true] at holds
      simp only [List.cons_append, List.append_assoc, List.nil_append]
      rw [readString_literal (literal_single (fun c member => (holds c member).1) rest)]
      exact readLiteral_text _ fun c member =>
        ⟨(holds c member).1, isPlain_of_allowed (holds c member).2⟩
  | basicLines =>
      have lined := linesBody_lined (Nat.zero_le 2) text
      have opening := dropFirstLineEnd_opening lined (by decide) LineEscaped.inline rest
      have read := readBasicLines_reads.lined (by decide) lined (Nat.zero_le 2) rest
      rw [← opening] at read
      simpa [readString?, closed] using read
  | literalLines =>
      have holds := holds_of_ofText chosen (.inr rfl)
      simp only [StringForm.holds, Bool.and_eq_true, Bool.not_eq_true', List.any_eq_false,
        Bool.not_eq_true, decide_eq_true_eq] at holds
      have lined := literal_lined (fun c member => isPlain_or_newline (holds.1 c member)) holds.2
      have opening := dropFirstLineEnd_opening lined (by decide) LineText.inline rest
      have read := readLiteralLines_reads.lined (by decide) lined (Nat.zero_le 2) rest
      rw [← opening] at read
      simpa [readString?, closed] using read

end Acceptance.Toml
