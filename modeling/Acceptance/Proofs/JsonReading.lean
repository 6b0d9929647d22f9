import Acceptance.Json
import Acceptance.Proofs.WrittenDocuments

namespace Acceptance.Json

-- A reader of JSON texts, and what it makes of the written form of a value. The reader takes the
-- whole grammar, also what is never written here: the literals, negative numbers, every escape.

inductive Datum where
  | null
  | boolean (value : Bool)
  | integer (value : Int)
  -- A number with a fraction or an exponent, as it is written.
  | decimal (written : List Char)
  | text (value : String)
  | array (items : List Datum)
  | object (fields : List (String × Datum))

def isBlank (c : Char) : Bool := c == ' ' || c == '\t' || c == '\n' || c == '\r'

def skip (text : List Char) : List Char := text.dropWhile isBlank

def hexValue? (c : Char) : Option Nat :=
  if c.isDigit then some (c.toNat - 48)
  else if 'a' ≤ c ∧ c ≤ 'f' then some (c.toNat - 87)
  else if 'A' ≤ c ∧ c ≤ 'F' then some (c.toNat - 55)
  else none

def unit? : List Char → Option Nat
  | a :: b :: c :: d :: _ => do
      let high := (← hexValue? a) * 16 + (← hexValue? b)
      let low := (← hexValue? c) * 16 + (← hexValue? d)
      return high * 256 + low
  | _ => none

def isHigh (unit : Nat) : Bool := 0xd800 ≤ unit && unit < 0xdc00

def isLow (unit : Nat) : Bool := 0xdc00 ≤ unit && unit < 0xe000

-- The character of a code unit, or of two that belong together, and the number of digits and
-- marks it takes.
def coded? (text : List Char) : Option (Char × Nat) := do
  let unit ← unit? text
  if isHigh unit then
    match text.drop 4 with
    | '\\' :: 'u' :: rest =>
        let low ← unit? rest
        if isLow low then some (Char.ofNat (0x10000 + (unit - 0xd800) * 0x400 + (low - 0xdc00)), 10)
        else none
    | _ => none
  else if isLow unit then none
  else some (Char.ofNat unit, 4)

def shortEscapes : List (Char × Char) :=
  [('"', '"'), ('\\', '\\'), ('/', '/'), ('b', '\x08'), ('f', '\x0c'), ('n', '\n'), ('r', '\r'),
    ('t', '\t')]

-- The character at the front of the inside of a string, and the length of its written form.
def character? : List Char → Option (Char × Nat)
  | '\\' :: 'u' :: rest => (coded? rest).map fun (c, length) => (c, length + 2)
  | '\\' :: mark :: _ => (shortEscapes.lookup mark).map fun c => (c, 2)
  | c :: _ => if c == '\\' || c.toNat < 0x20 then none else some (c, 1)
  | [] => none

-- The inside of a string up to its closing quote. `skipped` counts what is left of a character.
def readText : Nat → List Char → Option (List Char × List Char)
  | _, [] => none
  | skipped + 1, _ :: rest => readText skipped rest
  | 0, c :: rest =>
      if c == '"' then some ([], rest)
      else do
        let (found, length) ← character? (c :: rest)
        let (chars, rest) ← readText (length - 1) rest
        return (found :: chars, rest)

def isNumeric (c : Char) : Bool := c.isDigit || "+-.eE".toList.contains c

def isWhole (digits : List Char) : Bool :=
  digits == ['0'] || (!digits.isEmpty && digits.head? != some '0')

def isDigits (digits : List Char) : Bool := !digits.isEmpty && digits.all Char.isDigit

def isExponent : List Char → Bool
  | [] => true
  | mark :: '+' :: digits => (mark == 'e' || mark == 'E') && isDigits digits
  | mark :: '-' :: digits => (mark == 'e' || mark == 'E') && isDigits digits
  | mark :: digits => (mark == 'e' || mark == 'E') && isDigits digits

def isFraction : List Char → Bool
  | '.' :: rest =>
      isDigits (rest.takeWhile Char.isDigit) && isExponent (rest.dropWhile Char.isDigit)
  | rest => isExponent rest

def isUnsigned (number : List Char) : Bool :=
  isWhole (number.takeWhile Char.isDigit) && isFraction (number.dropWhile Char.isDigit)

def isNumber : List Char → Bool
  | '-' :: number => isUnsigned number
  | number => isUnsigned number

def integer? : List Char → Option Int
  | '-' :: digits => if isDigits digits then some (-(Nat.ofDigitChars 10 digits 0 : Int)) else none
  | digits => if isDigits digits then some (Nat.ofDigitChars 10 digits 0 : Int) else none

def readNumber? (text : List Char) : Option (Datum × List Char) :=
  let number := text.takeWhile isNumeric
  let datum := ((integer? number).map Datum.integer).getD (.decimal number)
  if isNumber number then some (datum, text.dropWhile isNumeric) else none

def literals : List (String × Datum) :=
  [("null", .null), ("true", .boolean true), ("false", .boolean false)]

def readLiteral? (text : List Char) : Option (Datum × List Char) :=
  (literals.find? fun literal => literal.1.toList.isPrefixOf text).map fun literal =>
    (literal.2, text.drop literal.1.length)

section
variable {α : Type} (read : List Char → Option (α × List Char))

def sequence (close : Char) (bound : Nat) (text : List Char) : Option (List α × List Char) :=
  match bound with
  | 0 => none
  | bound + 1 => do
      let (item, rest) ← read text
      match skip rest with
      | ',' :: rest =>
          let (items, rest) ← sequence close bound rest
          return (item :: items, rest)
      | mark :: rest => if mark == close then some ([item], rest) else none
      | [] => none

def readField (text : List Char) : Option ((String × α) × List Char) :=
  match skip text with
  | '"' :: rest => do
      let (key, rest) ← readText 0 rest
      match skip rest with
      | ':' :: rest =>
          let (value, rest) ← read rest
          return ((String.ofList key, value), rest)
      | _ => none
  | _ => none

end

-- A value and what follows it. `bound` bounds the depth and the number of items; the length of
-- the text always suffices.
def readValue : Nat → List Char → Option (Datum × List Char)
  | 0, _ => none
  | bound + 1, chars =>
      match skip chars with
      | '"' :: rest =>
          (readText 0 rest).map fun (chars, rest) => (.text (String.ofList chars), rest)
      | '[' :: rest =>
          match skip rest with
          | ']' :: rest => some (.array [], rest)
          | _ => (sequence (readValue bound) ']' bound rest).map fun (items, rest) =>
              (.array items, rest)
      | '\x7b' :: rest =>
          match skip rest with
          | '\x7d' :: rest => some (.object [], rest)
          | _ => (sequence (readField (readValue bound)) '\x7d' bound rest).map
              fun (fields, rest) => (.object fields, rest)
      | other => readLiteral? other <|> readNumber? other

def read (text : List Char) : Option Datum :=
  match readValue text.length text with
  | some (datum, rest) => if skip rest = [] then some datum else none
  | none => none

example : (read "[1,]".toList).isNone ∧ (read "\"\\ud83d\"".toList).isNone ∧
    (read "01".toList).isNone ∧ (read "[1] 2".toList).isNone := by decide

theorem hexValue?_hexDigit : ∀ digit < 16, hexValue? (hexDigit digit) = some digit := by decide

theorem escape_cases (c : Char) :
    (∃ mark, mark ≠ 'u' ∧ escape c = ['\\', mark] ∧ shortEscapes.lookup mark = some c) ∨
      (c.toNat < 0x20 ∧
        escape c = ['\\', 'u', '0', '0', hexDigit (c.toNat / 16), hexDigit (c.toNat % 16)]) ∨
      (c ≠ '"' ∧ c ≠ '\\' ∧ 0x20 ≤ c.toNat ∧ escape c = [c]) := by
  by_cases short : c ∈ ['"', '\\', '\x08', '\x0c', '\n', '\r', '\t']
  · have listed : ['"', '\\', '\x08', '\x0c', '\n', '\r', '\t'].all fun c =>
        ['"', '\\', 'b', 'f', 'n', 'r', 't'].any fun mark => decide (mark ≠ 'u' ∧
          escape c = ['\\', mark] ∧ shortEscapes.lookup mark = some c) := by decide
    obtain ⟨mark, _, written⟩ := List.any_eq_true.mp (List.all_eq_true.mp listed c short)
    exact .inl ⟨mark, of_decide_eq_true written⟩
  · simp only [List.mem_cons, List.not_mem_nil, or_false, not_or] at short
    by_cases control : c.toNat < 0x20
    · exact .inr (.inl ⟨control, by simp [escape, short, control]⟩)
    · exact .inr (.inr ⟨short.1, short.2.1, by omega, by simp [escape, short, control]⟩)

theorem coded?_control {c : Char} (control : c.toNat < 0x20) (rest : List Char) :
    coded? ('0' :: '0' :: hexDigit (c.toNat / 16) :: hexDigit (c.toNat % 16) :: rest) =
      some (c, 4) := by
  have zero : hexValue? '0' = some 0 := by decide
  have high := hexValue?_hexDigit (c.toNat / 16) (by omega)
  have low := hexValue?_hexDigit (c.toNat % 16) (by omega)
  have joined : c.toNat / 16 * 16 + c.toNat % 16 = c.toNat := by omega
  have unit : unit? ('0' :: '0' :: hexDigit (c.toNat / 16) :: hexDigit (c.toNat % 16) :: rest) =
      some c.toNat := by
    simp [unit?, zero, high, low, joined]
  have alone : isHigh c.toNat = false ∧ isLow c.toNat = false := by
    simp only [isHigh, isLow, Bool.and_eq_false_iff, decide_eq_false_iff_not]
    omega
  simp [coded?, unit, alone]

theorem character?_escape (c : Char) (rest : List Char) :
    character? (escape c ++ rest) = some (c, (escape c).length) := by
  rcases escape_cases c with ⟨mark, short, written, meant⟩ | ⟨control, written⟩ |
    ⟨_, plain, visible, written⟩
  · simp [written, character?, meant]
  · simp [written, character?, coded?_control control]
  · have above : ¬c.toNat < 0x20 := by omega
    simp [written, character?, plain, above]

theorem readText_skip (skipped : Nat) (text : List Char) :
    readText skipped text = readText 0 (text.drop skipped) := by
  induction text generalizing skipped with
  | nil => cases skipped <;> rfl
  | cons c rest ih =>
      cases skipped with
      | zero => rfl
      | succ skipped => exact ih skipped

theorem readText_escape (c : Char) (rest : List Char) :
    readText 0 (escape c ++ rest) = (readText 0 rest).map fun found => (c :: found.1, found.2) := by
  have found := character?_escape c rest
  obtain ⟨mark, more, written, inside⟩ : ∃ mark more, escape c = mark :: more ∧ mark ≠ '"' := by
    rcases escape_cases c with ⟨mark, _, written, _⟩ | ⟨_, written⟩ | ⟨unquoted, _, _, written⟩
    · exact ⟨_, _, written, by decide⟩
    · exact ⟨_, _, written, by decide⟩
    · exact ⟨_, _, written, unquoted⟩
  rw [written, List.cons_append] at found ⊢
  have passed : readText more.length (more ++ rest) = readText 0 rest := by
    rw [readText_skip, List.drop_left]
  cases behind : readText 0 rest <;> simp [readText, found, inside, passed, behind]

theorem readText_quote (chars rest : List Char) :
    readText 0 (chars.flatMap escape ++ '"' :: rest) = some (chars, rest) := by
  induction chars with
  | nil => rfl
  | cons c chars ih =>
      rw [List.flatMap_cons, List.append_assoc, readText_escape, ih]
      rfl

def Ends (rest : List Char) : Prop := ∀ c ∈ rest.head?, isNumeric c = false

def Reads (value : Json) (datum : Datum) : Prop :=
  ∀ depth bound rest, (write depth value).length ≤ bound → Ends rest →
    readValue bound (write depth value ++ rest) = some (datum, rest)

theorem bound_of_cons {c : Char} {text : List Char} {bound : Nat}
    (enough : (c :: text).length ≤ bound) : ∃ less, bound = less + 1 ∧ text.length ≤ less := by
  rw [List.length_cons] at enough
  exact ⟨bound - 1, by omega, by omega⟩

theorem skip_blank {gap : List Char} (blank : ∀ c ∈ gap, isBlank c) (rest : List Char) :
    skip (gap ++ rest) = skip rest := by
  unfold skip
  rw [List.dropWhile_append_of_pos blank]

theorem skip_visible {c : Char} (visible : isBlank c = false) (rest : List Char) :
    skip (c :: rest) = c :: rest := by
  rw [skip, List.dropWhile_cons_of_neg (by simp [visible])]

theorem newline_blank (depth : Nat) : ∀ c ∈ newline depth, isBlank c := by
  intro c member
  rcases List.mem_cons.mp member with rfl | space
  · decide
  · rw [List.eq_of_mem_replicate space]
    decide

theorem ends_cons {c : Char} (other : isNumeric c = false) (rest : List Char) :
    Ends (c :: rest) := by
  intro d first
  rw [List.head?_cons, Option.mem_some_iff] at first
  exact first ▸ other

theorem run_ends {p : Char → Bool} {run rest : List Char} (inside : ∀ c ∈ run, p c)
    (ends : ∀ c ∈ rest.head?, p c = false) :
    (run ++ rest).takeWhile p = run ∧ (run ++ rest).dropWhile p = rest := by
  rw [List.takeWhile_append_of_pos inside, List.dropWhile_append_of_pos inside]
  cases rest with
  | nil => simp
  | cons c rest =>
      have stops : ¬p c := by simp [ends c rfl]
      rw [List.takeWhile_cons_of_neg stops, List.dropWhile_cons_of_neg stops, List.append_nil]
      exact ⟨rfl, rfl⟩

theorem readValue_numeric {c : Char} (numeric : isNumeric c) (bound : Nat) (text : List Char) :
    readValue (bound + 1) (c :: text) = readNumber? (c :: text) := by
  have unlike : ∀ mark, isNumeric mark = false → c ≠ mark := by
    rintro mark other rfl
    simp [other] at numeric
  have visible : isBlank c = false := by
    simp [isBlank, unlike ' ' (by decide), unlike '\t' (by decide), unlike '\n' (by decide),
      unlike '\r' (by decide)]
  have named : readLiteral? (c :: text) = none := by
    simp [readLiteral?, literals, (unlike 'n' (by decide)).symm, (unlike 't' (by decide)).symm,
      (unlike 'f' (by decide)).symm]
  rw [readValue, skip_visible visible]
  split
  · rename_i same
    exact absurd (List.cons.inj same).1 (unlike '"' (by decide))
  · rename_i same
    exact absurd (List.cons.inj same).1 (unlike '[' (by decide))
  · rename_i same
    exact absurd (List.cons.inj same).1 (unlike '\x7b' (by decide))
  · rw [named]
    rfl

theorem readValue_number {number rest : List Char} {datum : Datum} (proper : isNumber number)
    (numeric : ∀ c ∈ number, isNumeric c) (ends : Ends rest)
    (means : ((integer? number).map Datum.integer).getD (.decimal number) = datum) (bound : Nat)
    (enough : number.length ≤ bound) : readValue bound (number ++ rest) = some (datum, rest) := by
  obtain ⟨taken, left⟩ := run_ends numeric ends
  cases number with
  | nil => simp [isNumber, isUnsigned, isWhole] at proper
  | cons c number =>
      obtain ⟨bound, rfl, _⟩ := bound_of_cons enough
      rw [List.cons_append, readValue_numeric (numeric c List.mem_cons_self), readNumber?]
      rw [List.cons_append] at taken left
      simp [taken, left, proper, means]

theorem digit_numeric {c : Char} (digit : c.isDigit) : isNumeric c := by simp [isNumeric, digit]

theorem isNumber_digit {c : Char} (digit : c.isDigit) (text : List Char) :
    isNumber (c :: text) = isUnsigned (c :: text) := by
  rw [isNumber]
  rintro number same
  cases same
  cases digit

theorem integer?_digit {c : Char} (digit : c.isDigit) (text : List Char) :
    integer? (c :: text) =
      if isDigits (c :: text) then some (Nat.ofDigitChars 10 (c :: text) 0 : Int) else none := by
  rw [integer?]
  rintro digits same
  cases same
  cases digit

theorem isNumber_whole {whole tail : List Char} (digits : ∀ c ∈ whole, c.isDigit)
    (proper : isWhole whole) (ends : ∀ c ∈ tail.head?, c.isDigit = false) :
    isNumber (whole ++ tail) = isFraction tail := by
  obtain ⟨taken, left⟩ := run_ends digits ends
  cases whole with
  | nil => simp [isWhole] at proper
  | cons c whole =>
      rw [List.cons_append, isNumber_digit (digits c List.mem_cons_self), ← List.cons_append,
        isUnsigned, taken, left, proper, Bool.true_and]

theorem isFraction_point {fraction tail : List Char} (digits : ∀ c ∈ fraction, c.isDigit)
    (filled : fraction ≠ []) (ends : ∀ c ∈ tail.head?, c.isDigit = false) :
    isFraction ('.' :: (fraction ++ tail)) = isExponent tail := by
  obtain ⟨taken, left⟩ := run_ends digits ends
  have proper : isDigits fraction := by simpa [isDigits, filled] using digits
  rw [isFraction, taken, left, proper, Bool.true_and]

theorem isWhole_toDigits (n : Nat) : isWhole (Nat.toDigits 10 n) := by
  rcases Nat.eq_zero_or_pos n with rfl | positive
  · decide
  · simp [isWhole, Nat.toDigits_ne_nil, Toml.toDigits_head positive]

theorem reads_natural (value : Nat) : Reads (.natural value) (.integer value) := by
  intro depth bound rest enough ends
  have digits := Toml.toDigits_digit (n := value)
  have back := Nat.ofDigitChars_toDigits (b := 10) (n := value) (by decide) (by decide)
  have whole := isWhole_toDigits value
  rw [write] at enough ⊢
  obtain ⟨c, more, form⟩ := List.exists_cons_of_ne_nil (Nat.toDigits_ne_nil (n := value) (b := 10))
  rw [form] at digits back whole enough ⊢
  refine readValue_number ?_ (fun c member => digit_numeric (digits c member)) ends ?_ bound enough
  · rw [← List.append_nil (c :: more), isNumber_whole digits whole (by simp)]
    rfl
  · have all : isDigits (c :: more) := by
      simpa [isDigits] using digits
    rw [integer?_digit (digits c List.mem_cons_self), if_pos all, back]
    rfl

structure IsDecimal (written : List Char) : Prop where
  number : isNumber written
  numeric : ∀ c ∈ written, isNumeric c
  broken : integer? written = none

theorem reads_decimal {written : List Char} (decimal : IsDecimal written) :
    Reads (.decimal written) (.decimal written) := by
  intro depth bound rest enough ends
  rw [write] at enough ⊢
  exact readValue_number decimal.number decimal.numeric ends (by rw [decimal.broken]; rfl) bound
    enough

theorem reads_text (value : String) : Reads (.text value) (.text value) := by
  intro depth bound rest enough _
  rw [write, quote] at enough ⊢
  obtain ⟨bound, rfl, _⟩ := bound_of_cons enough
  rw [List.cons_append, readValue, skip_visible (by decide), List.append_assoc,
    List.singleton_append]
  simp [readText_quote]

section
variable {α β : Type} {read : List Char → Option (β × List Char)} {close : Char} {bound : Nat}
  {chars behind rest : List Char} {item : β}

theorem sequence_none (missing : read chars = none) : sequence read close bound chars = none := by
  cases bound with
  | zero => rfl
  | succ bound => simp [sequence, missing]

theorem sequence_last (found : read chars = some (item, behind))
    (closed : skip behind = close :: rest) (other : close ≠ ',') :
    sequence read close (bound + 1) chars = some ([item], rest) := by
  simp [sequence, found, closed]

theorem sequence_more (close : Char) (bound : Nat) (found : read chars = some (item, behind))
    (comma : skip behind = ',' :: rest) :
    sequence read close (bound + 1) chars =
      (sequence read close bound rest).map fun found => (item :: found.1, found.2) := by
  cases more : sequence read close bound rest <;> simp [sequence, found, comma, more]

theorem ends_blank {gap : List Char} (blank : ∀ c ∈ gap, isBlank c)
    (other : isNumeric close = false) (rest : List Char) : Ends (gap ++ close :: rest) := by
  cases gap with
  | nil => exact ends_cons other rest
  | cons c gap =>
      have blank : isBlank c := blank c List.mem_cons_self
      simp only [isBlank, Bool.or_eq_true, beq_iff_eq] at blank
      refine ends_cons ?_ _
      rcases blank with ((rfl | rfl) | rfl) | rfl <;> decide

theorem readField_brace (closed : skip chars = '\x7d' :: rest) : readField read chars = none := by
  rw [readField, closed]
  rfl

theorem readField_spelled {gap : List Char} (blank : ∀ c ∈ gap, isBlank c) (key : String)
    (found : read (' ' :: chars) = some (item, rest)) :
    readField read (gap ++ (quote key.toList ++ [':', ' '] ++ chars)) =
      some ((key, item), rest) := by
  simp [readField, skip_blank blank, quote, skip_visible (show isBlank '"' = false by decide),
    skip_visible (show isBlank ':' = false by decide), readText_quote, found]

theorem sequence_spelled {spell : α → List Char} {mean : α → β} {gap before : List Char}
    {first : α} {items : List α}
    (reads : ∀ item ∈ first :: items, ∀ rest, Ends rest →
      read (gap ++ spell item ++ rest) = some (mean item, rest))
    (blank : ∀ c ∈ before, isBlank c) (closing : close = ']' ∨ close = '\x7d')
    (enough : items.length < bound) (rest : List Char) :
    sequence read close bound (gap ++ spell first ++
      (items.flatMap (fun item => ',' :: (gap ++ spell item)) ++ (before ++ close :: rest))) =
      some ((first :: items).map mean, rest) := by
  have mark : isNumeric close = false ∧ isBlank close = false ∧ close ≠ ',' := by
    rcases closing with rfl | rfl <;> decide
  induction items generalizing first bound with
  | nil =>
      obtain ⟨bound, rfl⟩ : ∃ less, bound = less + 1 := ⟨bound - 1, by omega⟩
      have closed : skip (before ++ close :: rest) = close :: rest := by
        rw [skip_blank blank, skip_visible mark.2.1]
      exact sequence_last (reads first List.mem_cons_self _ (ends_blank blank mark.1 rest)) closed
        mark.2.2
  | cons second items ih =>
      obtain ⟨bound, rfl⟩ : ∃ less, bound = less + 1 := ⟨bound - 1, by omega⟩
      have found := reads first List.mem_cons_self
        (',' :: (gap ++ spell second ++ (items.flatMap (fun item => ',' :: (gap ++ spell item)) ++
          (before ++ close :: rest)))) (ends_cons (by decide) _)
      have later := ih (fun item member => reads item (List.mem_cons_of_mem _ member))
        (Nat.lt_of_succ_lt_succ enough)
      have both := sequence_more close bound found (skip_visible (by decide) _)
      rw [later, Option.map_some] at both
      simpa only [List.flatMap_cons, List.cons_append, List.append_assoc, List.map_cons] using both

end

section
variable {α : Type} {value : α → Json} {datum : α → Datum} {items : List α}

theorem writeItems_map (depth : Nat) (items : List α) :
    writeItems depth (items.map value) =
      items.flatMap fun item => ',' :: (newline depth ++ write depth (value item)) := by
  induction items with
  | nil => rfl
  | cons item items ih =>
      rw [List.map_cons, writeItems, ih, List.flatMap_cons]
      rfl

theorem writeFields_map (key : α → String) (depth : Nat) (items : List α) :
    writeFields depth (items.map fun item => (key item, value item)) =
      items.flatMap fun item => ',' :: (newline depth ++ (quote (key item).toList ++ [':', ' '] ++
        write depth (value item))) := by
  induction items with
  | nil => rfl
  | cons item items ih =>
      rw [List.map_cons, writeFields, ih, List.flatMap_cons]
      simp

theorem readValue_blank {gap : List Char} (blank : ∀ c ∈ gap, isBlank c) (bound : Nat)
    (chars : List Char) : readValue bound (gap ++ chars) = readValue bound chars := by
  cases bound with
  | zero => rfl
  | succ bound => rw [readValue, readValue, skip_blank blank]

theorem readValue_bracket {chars rest : List Char} (closed : skip chars = ']' :: rest)
    (bound : Nat) : readValue bound chars = none := by
  cases bound with
  | zero => rfl
  | succ bound =>
      rw [readValue, closed]
      rfl

theorem readValue_array {chars : List Char} (filled : ∀ rest, skip chars ≠ ']' :: rest)
    (bound : Nat) : readValue (bound + 1) ('[' :: chars) =
      (sequence (readValue bound) ']' bound chars).map fun found => (.array found.1, found.2) := by
  rw [readValue, skip_visible (by decide)]
  simp only

theorem readValue_object {chars : List Char} (filled : ∀ rest, skip chars ≠ '\x7d' :: rest)
    (bound : Nat) : readValue (bound + 1) ('\x7b' :: chars) =
      (sequence (readField (readValue bound)) '\x7d' bound chars).map fun found =>
        (.object found.1, found.2) := by
  rw [readValue, skip_visible (by decide)]
  simp only

theorem bound_of_items (spell : α → List Char) {gap before : List Char} {first : α} {bound : Nat}
    {mark : Char} (enough : (gap ++ spell first ++
      items.flatMap (fun item => ',' :: (gap ++ spell item)) ++ before ++ [mark]).length ≤ bound) :
    (∀ item ∈ first :: items, (spell item).length ≤ bound) ∧ items.length < bound := by
  have parts : ∀ items : List α, (∀ item ∈ items, (spell item).length ≤
      (items.flatMap fun item => ',' :: (gap ++ spell item)).length) ∧
      items.length ≤ (items.flatMap fun item => ',' :: (gap ++ spell item)).length := by
    intro items
    induction items with
    | nil => simp
    | cons item items ih =>
        obtain ⟨room, few⟩ := ih
        simp only [List.flatMap_cons, List.length_append, List.length_cons, List.forall_mem_cons]
        refine ⟨⟨by omega, fun other member => ?_⟩, by omega⟩
        have := room other member
        omega
  obtain ⟨room, few⟩ := parts items
  simp only [List.length_append, List.length_singleton] at enough
  rw [List.forall_mem_cons]
  refine ⟨⟨by omega, fun item member => ?_⟩, by omega⟩
  have := room item member
  omega

theorem reads_array (each : ∀ item ∈ items, Reads (value item) (datum item)) :
    Reads (.array (items.map value)) (.array (items.map datum)) := by
  intro depth bound rest enough ends
  cases items with
  | nil =>
      rw [List.map_nil, write] at enough ⊢
      obtain ⟨bound, rfl, _⟩ := bound_of_cons enough
      rfl
  | cons first items =>
      rw [List.map_cons, write, writeItems_map] at enough ⊢
      obtain ⟨bound, rfl, inner⟩ := bound_of_cons enough
      obtain ⟨room, few⟩ := bound_of_items (fun item => write (depth + 1) (value item)) inner
      have reads : ∀ item ∈ first :: items, ∀ rest, Ends rest →
          readValue bound (newline (depth + 1) ++ write (depth + 1) (value item) ++ rest) =
            some (datum item, rest) := by
        intro item member rest ends
        rw [List.append_assoc, readValue_blank (newline_blank _)]
        exact each item member _ _ _ (room item member) ends
      have whole := sequence_spelled reads (newline_blank depth) (.inl rfl) few rest
      simp only [List.cons_append, List.append_assoc, List.nil_append] at whole ⊢
      rw [readValue_array, whole]
      · rfl
      · intro tail closed
        rw [sequence_none (readValue_bracket closed bound)] at whole
        cases whole

end

theorem reads_object {fields : List (String × Json × Datum)}
    (each : ∀ field ∈ fields, Reads field.2.1 field.2.2) :
    Reads (.object (fields.map fun field => (field.1, field.2.1)))
      (.object (fields.map fun field => (field.1, field.2.2))) := by
  intro depth bound rest enough ends
  cases fields with
  | nil =>
      rw [List.map_nil, write] at enough ⊢
      obtain ⟨bound, rfl, _⟩ := bound_of_cons enough
      rfl
  | cons first fields =>
      rw [List.map_cons, write, writeFields_map] at enough ⊢
      obtain ⟨bound, rfl, inner⟩ := bound_of_cons enough
      rw [List.append_assoc (newline (depth + 1)), List.append_assoc (newline (depth + 1))] at inner
      obtain ⟨room, few⟩ := bound_of_items (fun field : String × Json × Datum =>
        quote field.1.toList ++ [':', ' '] ++ write (depth + 1) field.2.1) inner
      have reads : ∀ field ∈ first :: fields, ∀ rest, Ends rest →
          readField (readValue bound) (newline (depth + 1) ++ (quote field.1.toList ++
            [':', ' '] ++ write (depth + 1) field.2.1) ++ rest) =
              some ((field.1, field.2.2), rest) := by
        intro field member rest ends
        have space : readValue bound (' ' :: (write (depth + 1) field.2.1 ++ rest)) =
            some (field.2.2, rest) := by
          rw [← List.singleton_append, readValue_blank (List.forall_mem_singleton.mpr rfl)]
          refine each field member _ _ _ (Nat.le_trans ?_ (room field member)) ends
          simp only [List.length_append]
          omega
        have spelled := readField_spelled (newline_blank (depth + 1)) field.1 space
        simpa only [List.append_assoc] using spelled
      have whole := sequence_spelled reads (newline_blank depth) (.inr rfl) few rest
      simp only [List.cons_append, List.append_assoc, List.nil_append] at whole ⊢
      rw [readValue_object, whole]
      · rfl
      · intro tail closed
        rw [sequence_none (readField_brace closed)] at whole
        cases whole

theorem read_render {value : Json} {datum : Datum} (reads : Reads value datum) :
    read value.render.toList = some datum := by
  have whole := reads 0 (write 0 value).length [] (Nat.le_refl _) (by simp [Ends])
  rw [List.append_nil] at whole
  rw [render, String.toList_ofList, read, whole]
  rfl

end Acceptance.Json
