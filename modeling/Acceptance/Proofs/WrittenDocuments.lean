import Acceptance.Proofs.WrittenStrings
import Acceptance.Toml.Reader

namespace Acceptance.Toml

-- Documents made of one line for each statement. A line is read as its statement whatever stands
-- below it, so the lines of a document are read one after the other.

theorem skipGap_cons {c : Char} (dark : isGap c = false) (rest : List Char) :
    skipGap (c :: rest) = c :: rest := by
  simp [skipGap, dark]

structure Written (value : Value) (written : List Char) : Prop where
  begins : ∀ rest, skipGap (written ++ rest) = written ++ rest
  read : ∀ rest, readValue (written ++ '\n' :: rest) = some (value, '\n' :: rest)

theorem writeString_begins (text : List Char) : ∃ mark rest, (mark = '"' ∨ mark = '\'') ∧
    writeString text = mark :: rest := by
  unfold writeString
  split
  · exact ⟨_, _, .inl rfl, rfl⟩
  · exact ⟨_, _, .inr rfl, rfl⟩
  · exact ⟨_, _, .inl rfl, rfl⟩
  · exact ⟨_, _, .inr rfl, rfl⟩

theorem readValue_string {mark : Char} (quoted : mark = '"' ∨ mark = '\'') (text : List Char) :
    readValue (mark :: text) = (readString? (mark :: text)).map fun read =>
      (.text (String.ofList read.1), read.2) := by
  rcases quoted with rfl | rfl <;> rfl

theorem written_text (content : String) : Written (.text content) (writeString content.toList) := by
  obtain ⟨mark, rest, quoted, form⟩ := writeString_begins content.toList
  constructor
  · intro after
    rw [form]
    rcases quoted with rfl | rfl <;> rfl
  · intro after
    have read := readString_write content.toList after
    rw [form, List.cons_append] at read ⊢
    rw [readValue_string quoted, read]
    simp

theorem written_boolean (value : Bool) :
    Written (.boolean value) (if value then "true" else "false").toList := by
  cases value with
  | true => exact ⟨fun rest => rfl, fun rest => rfl⟩
  | false => exact ⟨fun rest => rfl, fun rest => rfl⟩

theorem readValue_scalar {c : Char} (digit : c.isDigit) (text : List Char) :
    readValue (c :: text) = readScalar? (c :: text) := by
  show readValue? (79 + 1) (c :: text) = _
  rw [readValue?]
  all_goals
    rintro tail same
    cases same
    cases digit

theorem toDigits_digit {n : Nat} : ∀ c ∈ Nat.toDigits 10 n, c.isDigit := by
  intro c member
  exact Nat.isDigit_of_mem_toDigits (by decide) (by decide) member

theorem digitValue_digitChar : ∀ digit < 10, digitValue (Nat.digitChar digit) = digit := by decide

theorem natural_toDigits (n : Nat) : natural 10 (Nat.toDigits 10 n) = n := by
  induction n using Nat.strongRecOn with
  | ind n ih =>
      rw [Nat.toDigits_eq_if (by decide)]
      split
      · rename_i small
        simp [natural, digitValue_digitChar n small]
      · rename_i large
        have shorter := ih (n / 10) (by omega)
        unfold natural at shorter ⊢
        rw [List.foldl_append, shorter]
        simp only [List.foldl_cons, List.foldl_nil,
          digitValue_digitChar (n % 10) (Nat.mod_lt n (by decide))]
        omega

theorem digitChar_positive : ∀ digit < 10, 0 < digit → Nat.digitChar digit ≠ '0' := by decide

-- No numeral but that of zero starts with a zero.
theorem toDigits_head {n : Nat} (positive : 0 < n) : (Nat.toDigits 10 n).head? ≠ some '0' := by
  induction n using Nat.strongRecOn with
  | ind n ih =>
      rw [Nat.toDigits_eq_if (by decide)]
      split
      · rename_i small
        simpa using digitChar_positive n small positive
      · have shorter := ih (n / 10) (by omega) (by omega)
        simpa [List.head?_append, List.head?_eq_some_head Nat.toDigits_ne_nil] using shorter

theorem ungroup_toDigits (n : Nat) :
    ungroup? Char.isDigit (Nat.toDigits 10 n) = some (Nat.toDigits 10 n) := by
  have one : (Nat.toDigits 10 n).splitOn '_' = [Nat.toDigits 10 n] :=
    List.splitOn_eq_singleton Nat.underscore_not_in_toDigits
  have digits : (Nat.toDigits 10 n).all Char.isDigit := List.all_eq_true.mpr toDigits_digit
  simp [ungroup?, one, digits, Nat.toDigits_ne_nil]

theorem decimal_toDigits (n : Nat) : decimal? (Nat.toDigits 10 n) = some (Nat.toDigits 10 n) := by
  unfold decimal?
  rw [ungroup_toDigits]
  split
  · rename_i zero
    rcases Nat.eq_zero_or_pos n with rfl | positive
    · cases zero
    · exact absurd (congrArg List.head? (Option.some.inj zero)) (toDigits_head positive)
  · rfl

theorem isMoment_digits {text : List Char} (digits : ∀ c ∈ text, c.isDigit) :
    isMoment text = false := by
  have undated : afterDate? text = none := by
    unfold afterDate?
    split
    · have dash := digits '-' (by simp)
      cases dash
    · rfl
  have untimed : afterMinutes? text = none := by
    unfold afterMinutes?
    split
    · have colon := digits ':' (by simp)
      cases colon
    · rfl
  simp [isMoment, afterTime?, undated, untimed]

theorem unsigned_digits {text : List Char} (digits : ∀ c ∈ text, c.isDigit) :
    unsigned text = (false, text) := by
  unfold unsigned
  split
  · cases digits '-' List.mem_cons_self
  · cases digits '+' List.mem_cons_self
  · rfl

theorem integer_toDigits (n : Nat) : integer? (Nat.toDigits 10 n) = some (n : Int) := by
  have digits := toDigits_digit (n := n)
  unfold integer?
  split
  · rename_i same
    cases digits 'x' (by simp [same])
  · rename_i same
    cases digits 'o' (by simp [same])
  · rename_i same
    cases digits 'b' (by simp [same])
  · simp [unsigned_digits digits, decimal_toDigits, natural_toDigits]

theorem scalarToken_digits {text : List Char} (digits : ∀ c ∈ text, c.isDigit) (rest : List Char) :
    scalarToken (text ++ '\n' :: rest) = (text, '\n' :: rest) := by
  have scalar : ∀ c ∈ text, isScalarChar c := by
    intro c member
    simp [isScalarChar, Char.isAlphanum, digits c member]
  unfold scalarToken
  rw [List.takeWhile_append_of_pos scalar, List.dropWhile_append_of_pos scalar]
  simp [isScalarChar]

theorem scalar_toDigits (n : Nat) : scalar? (Nat.toDigits 10 n) = some (.integer n) := by
  have digits := toDigits_digit (n := n)
  unfold scalar?
  rw [if_neg, if_neg, isMoment_digits digits, integer_toDigits]
  · rfl
  · intro same
    cases digits 'f' (by simp [same])
  · intro same
    cases digits 't' (by simp [same])

theorem written_natural (n : Nat) : Written (.integer n) (Nat.toDigits 10 n) := by
  have digits := toDigits_digit (n := n)
  obtain ⟨first, more, form⟩ := List.exists_cons_of_ne_nil (Nat.toDigits_ne_nil (n := n) (b := 10))
  have digit := digits first (by simp [form])
  constructor
  · intro rest
    have dark : isGap first = false := by
      rw [← Bool.not_eq_true]
      intro gap
      rcases (by simpa [isGap] using gap) with rfl | rfl <;> cases digit
    rw [form, List.cons_append, skipGap_cons dark]
  · intro rest
    have token := scalarToken_digits digits rest
    have value := scalar_toDigits n
    rw [form, List.cons_append, readValue_scalar digit]
    rw [form, List.cons_append] at token
    rw [form] at value
    simp [readScalar?, scalarText, token, value]

section Keys

variable {key : List Char} (named : key ≠ []) (bare : ∀ c ∈ key, isBare c)

include named bare

theorem bare_begins : ∃ c rest, key = c :: rest ∧ isBare c := by
  obtain ⟨c, rest, rfl⟩ := List.exists_cons_of_ne_nil named
  exact ⟨c, rest, rfl, bare c List.mem_cons_self⟩

theorem readKeyPart_bare {rest : List Char} (ends : ∀ c ∈ rest.head?, isBare c = false) :
    readKeyPart? (key ++ rest) = some (key, rest) := by
  have taken : (key ++ rest).takeWhile isBare = key ∧ (key ++ rest).dropWhile isBare = rest := by
    rw [List.takeWhile_append_of_pos bare, List.dropWhile_append_of_pos bare]
    cases rest with
    | nil => simp
    | cons c rest => simp [ends c rfl]
  obtain ⟨c, more, rfl, letter⟩ := bare_begins named bare
  unfold readKeyPart?
  split
  · rename_i same
    cases same
    cases letter
  · rename_i same
    cases same
    cases letter
  · rw [taken.1, taken.2]

theorem readKey_bare {rest after : List Char} (ends : ∀ c ∈ rest.head?, isBare c = false)
    (gap : skipGap rest = after) (single : ∀ more, after ≠ '.' :: more) :
    readKey (key ++ rest) = some (⟨[], String.ofList key⟩, after) := by
  have begins : skipGap (key ++ rest) = key ++ rest := by
    obtain ⟨c, more, rfl, letter⟩ := bare_begins named bare
    refine skipGap_cons ?_ _
    rw [← Bool.not_eq_true]
    intro blank
    rcases (by simpa [isGap] using blank) with rfl | rfl <;> cases letter
  show readKey? (79 + 1) (key ++ rest) = _
  rw [readKey?, begins, readKeyPart_bare named bare ends]
  simp only [gap]

end Keys

structure Line (statement : Statement) (line : List Char) : Prop where
  begins : ∃ c rest, line = c :: rest ∧ (isBare c ∨ c = '[')
  read : ∀ below, ∃ rest, readStatement? (line ++ below) = some (statement, rest) ∧
    endLine? rest = skipTrivia false below

theorem readStatement_entry {c : Char} {text rest : List Char} {key : Key} {value : Value}
    (letter : isBare c)
    (entry : readEntry? (fun text => some (skipGap text)) readValue (c :: text) =
      some (key, value, rest)) :
    readStatement? (c :: text) = some (.entry key value, rest) := by
  rw [readStatement?]
  · simp [entry]
  all_goals
    rintro tail same
    cases same
    cases letter

theorem Line.entry {key written : List Char} {value : Value} (named : key ≠ [])
    (bare : ∀ c ∈ key, isBare c) (wrote : Written value written) :
    Line (.entry ⟨[], String.ofList key⟩ value)
      (key ++ [' ', '=', ' '] ++ written ++ ['\n']) := by
  obtain ⟨c, more, rfl, letter⟩ := bare_begins named bare
  constructor
  · exact ⟨c, _, rfl, .inl letter⟩
  · intro below
    refine ⟨'\n' :: below, ?_, rfl⟩
    have read : readKey (c :: more ++ ' ' :: '=' :: ' ' :: (written ++ '\n' :: below)) =
        some (_, '=' :: ' ' :: (written ++ '\n' :: below)) :=
      readKey_bare named bare (by simp [isBare]) rfl (by simp)
    have text : c :: more ++ [' ', '=', ' '] ++ written ++ ['\n'] ++ below =
        c :: (more ++ ' ' :: '=' :: ' ' :: (written ++ '\n' :: below)) := by simp
    rw [text]
    refine readStatement_entry letter ?_
    have begins : skipGap (' ' :: (written ++ '\n' :: below)) = written ++ '\n' :: below :=
      wrote.begins _
    unfold readEntry?
    rw [List.cons_append] at read
    simp only [read, skipGap_cons (c := '=') rfl, begins, wrote.read, Option.bind_eq_bind,
      Option.bind_some]
    rfl

theorem Line.header {key : List Char} (named : key ≠ []) (bare : ∀ c ∈ key, isBare c) :
    Line (.header ⟨[], String.ofList key⟩) ('[' :: key ++ [']', '\n']) := by
  constructor
  · exact ⟨_, _, rfl, .inr rfl⟩
  · intro below
    refine ⟨'\n' :: below, ?_, rfl⟩
    have read : readKey (key ++ ']' :: '\n' :: below) = some (_, ']' :: '\n' :: below) :=
      readKey_bare named bare (by simp [isBare]) rfl (by simp)
    have text : '[' :: key ++ [']', '\n'] ++ below = '[' :: (key ++ ']' :: '\n' :: below) := by simp
    rw [text, readStatement?]
    · simp [read]
    · intro tail same
      obtain ⟨c, more, rfl, letter⟩ := bare_begins named bare
      cases same
      cases letter

theorem Line.blank {statement : Statement} {line : List Char} (read : Line statement line) :
    Line statement (line ++ ['\n']) := by
  obtain ⟨⟨c, more, rfl, begins⟩, read⟩ := read
  constructor
  · exact ⟨c, _, rfl, begins⟩
  · intro below
    rw [List.append_assoc]
    exact read ('\n' :: below)

inductive Lines : List Statement → List Char → Prop where
  | nil : Lines [] []
  | cons {statement : Statement} {statements : List Statement} {line text : List Char}
      (first : Line statement line) (more : Lines statements text) :
      Lines (statement :: statements) (line ++ text)

theorem Lines.single {statement : Statement} {line : List Char} (first : Line statement line) :
    Lines [statement] line := by
  have lines := Lines.cons first .nil
  rwa [List.append_nil] at lines

theorem Lines.append {first second : List Statement} {above below : List Char}
    (upper : Lines first above) (lower : Lines second below) :
    Lines (first ++ second) (above ++ below) := by
  induction upper with
  | nil => exact lower
  | cons line more ih =>
      rw [List.append_assoc]
      exact .cons line ih

variable {statements : List Statement} {text : List Char}

theorem Lines.begins (lines : Lines statements text) :
    text = [] ∨ ∃ c rest, text = c :: rest ∧ (isBare c ∨ c = '[') := by
  cases lines with
  | nil => exact .inl rfl
  | cons line more =>
      obtain ⟨c, rest, rfl, begins⟩ := line.begins
      exact .inr ⟨c, _, rfl, begins⟩

theorem skipTrivia_begins {c : Char} (begins : isBare c ∨ c = '[') (rest : List Char) :
    skipTrivia false (c :: rest) = some (c :: rest) := by
  have other : c ≠ '\n' ∧ c ≠ '\r' ∧ c ≠ '#' ∧ isGap c = false := by
    refine ⟨?_, ?_, ?_, ?_⟩
    · rintro rfl
      simp [isBare] at begins
    · rintro rfl
      simp [isBare] at begins
    · rintro rfl
      simp [isBare] at begins
    · rw [← Bool.not_eq_true]
      intro gap
      rcases (by simpa [isGap] using gap) with rfl | rfl <;> simp [isBare] at begins
  rw [skipTrivia]
  · simp [other]
  · simp [other]
  · simp [other]

theorem Lines.skipTrivia (lines : Lines statements text) :
    Toml.skipTrivia false text = some text := by
  rcases lines.begins with rfl | ⟨c, rest, rfl, begins⟩
  · rfl
  · exact skipTrivia_begins begins rest

theorem Lines.read (lines : Lines statements text) (fuel : Nat) (enough : text.length ≤ fuel) :
    readStatements? fuel text = some statements := by
  induction lines generalizing fuel with
  | nil => cases fuel <;> rfl
  | @cons statement statements line text first more ih =>
      obtain ⟨c, tail, begins, _⟩ := first.begins
      have longer : text.length < (line ++ text).length := by
        simp only [begins, List.length_append, List.length_cons]
        omega
      obtain ⟨fuel, rfl⟩ : ∃ less, fuel = less + 1 := ⟨fuel - 1, by omega⟩
      obtain ⟨rest, read, ended⟩ := first.read text
      rw [readStatements?]
      · simp [read, ended, more.skipTrivia, ih fuel (by omega)]
      · simp [begins]

namespace Entries

theorem put_fresh {entries : Entries} {key : String} (node : Node)
    (fresh : key ∉ entries.map Prod.fst) : entries.put key node = entries ++ [(key, node)] := by
  induction entries with
  | nil => rfl
  | cons entry entries ih =>
      simp only [List.map_cons, List.mem_cons, not_or] at fresh
      rw [put, if_neg (Ne.symm fresh.1), ih fresh.2, List.cons_append]

theorem find_fresh {entries : Entries} {key : String} (fresh : key ∉ entries.map Prod.fst) :
    entries.find? key = none := by
  unfold find?
  rw [List.lookup_eq_none_iff]
  intro entry member
  rw [bne_iff_ne]
  rintro rfl
  exact fresh (List.mem_map_of_mem member)

theorem find_last {entries : Entries} {key : String} (node : Node)
    (fresh : key ∉ entries.map Prod.fst) : (entries ++ [(key, node)]).find? key = some node := by
  unfold find?
  rw [List.lookup_append, show entries.lookup key = none from find_fresh fresh]
  simp

theorem put_last {entries : Entries} {key : String} (old new : Node)
    (fresh : key ∉ entries.map Prod.fst) :
    (entries ++ [(key, old)]).put key new = entries ++ [(key, new)] := by
  induction entries with
  | nil => simp [put]
  | cons entry entries ih =>
      simp only [List.map_cons, List.mem_cons, not_or] at fresh
      rw [List.cons_append, put, if_neg (Ne.symm fresh.1), ih fresh.2, List.cons_append]

theorem insert_fresh {entries : Entries} {key : String} (value : Value)
    (fresh : key ∉ entries.map Prod.fst) :
    insert [] key value .header entries = some (entries ++ [(key, .leaf value)]) := by
  unfold insert edit
  rw [find_fresh fresh, put_fresh _ fresh]
  rfl

end Entries

def leaves (entries : List (String × Value)) : Entries :=
  entries.map fun entry => (entry.1, .leaf entry.2)

def entryStatements (entries : List (String × Value)) : List Statement :=
  entries.map fun entry => .entry ⟨[], entry.1⟩ entry.2

theorem leaves_keys (entries : List (String × Value)) :
    (leaves entries).map Prod.fst = entries.map Prod.fst := by
  simp [leaves]

theorem entryValues_leaves (entries : List (String × Value)) :
    entryValues (leaves entries) = entries := by
  induction entries with
  | nil => rfl
  | cons entry entries ih => simpa [leaves, entryValues, Node.value] using ih

theorem entryValues_append (front back : Entries) :
    entryValues (front ++ back) = entryValues front ++ entryValues back := by
  induction front with
  | nil => rfl
  | cons entry front ih => simp [entryValues, ih]

theorem steps_entries (front : Entries) (entries : List (String × Value))
    (distinct : (front.map Prod.fst ++ entries.map Prod.fst).Nodup) :
    (entryStatements entries).foldlM Draft.step { entries := front } =
      some { entries := front ++ leaves entries } := by
  induction entries generalizing front with
  | nil => simp [entryStatements, leaves]
  | cons entry entries ih =>
      have fresh : entry.1 ∉ front.map Prod.fst := by
        intro member
        exact (List.nodup_append.mp distinct).2.2 _ member _ List.mem_cons_self rfl
      have step : Draft.step { entries := front } (.entry ⟨[], entry.1⟩ entry.2) =
          some { entries := front ++ [(entry.1, .leaf entry.2)] } := by
        simp [Draft.step, Entries.edit, Entries.insert_fresh _ fresh]
      have rest := ih (front ++ [(entry.1, .leaf entry.2)]) (by simpa using distinct)
      simpa [entryStatements, step, leaves] using rest

theorem steps_below {front : Entries} {name : String} (fresh : name ∉ front.map Prod.fst)
    (inner : Entries) (entries : List (String × Value))
    (distinct : (inner.map Prod.fst ++ entries.map Prod.fst).Nodup) :
    (entryStatements entries).foldlM Draft.step
        { entries := front ++ [(name, .table .header inner)], current := [name] } =
      some { entries := front ++ [(name, .table .header (inner ++ leaves entries))],
             current := [name] } := by
  induction entries generalizing inner with
  | nil => simp [entryStatements, leaves]
  | cons entry entries ih =>
      have new : entry.1 ∉ inner.map Prod.fst := by
        intro member
        exact (List.nodup_append.mp distinct).2.2 _ member _ List.mem_cons_self rfl
      have step : Draft.step
          { entries := front ++ [(name, .table .header inner)], current := [name] }
          (.entry ⟨[], entry.1⟩ entry.2) =
            some { entries := front ++ [(name, .table .header (inner ++
              [(entry.1, .leaf entry.2)]))], current := [name] } := by
        simp [Draft.step, Entries.edit, Entries.find_last _ fresh, Entries.put_last _ _ fresh,
          Entries.insert_fresh _ new]
      have rest := ih (inner ++ [(entry.1, .leaf entry.2)]) (by simpa using distinct)
      simpa [entryStatements, step, leaves] using rest

theorem parse_lines {full : List Char} {above below : List (String × Value)} {name : String}
    (start : skipTrivia false (dropOrderMark full) = some text)
    (lines : Lines (entryStatements above ++ .header ⟨[], name⟩ :: entryStatements below) text)
    (distinct : (above.map Prod.fst ++ [name]).Nodup) (inside : (below.map Prod.fst).Nodup) :
    parse? full = some (above ++ [(name, .table below)]) := by
  have fresh : name ∉ (leaves above).map Prod.fst := by
    rw [leaves_keys]
    intro member
    exact (List.nodup_append.mp distinct).2.2 _ member _ List.mem_cons_self rfl
  have upper := steps_entries [] above (List.nodup_append.mp distinct).1
  have header : Draft.step { entries := leaves above } (.header ⟨[], name⟩) =
      some { entries := leaves above ++ [(name, .table .header [])], current := [name] } := by
    simp [Draft.step, Entries.openTable, Entries.edit, Entries.find_fresh fresh,
      Entries.put_fresh _ fresh]
  have lower := steps_below fresh [] below inside
  unfold parse?
  simp only [start, lines.read _ (Nat.le_refl _), Option.bind_eq_bind, Option.bind_some]
  rw [List.foldlM_append, upper]
  simp [header, lower, entryValues_append, entryValues_leaves, entryValues, Node.value]

end Acceptance.Toml
