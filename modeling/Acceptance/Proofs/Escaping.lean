import Acceptance.Proofs.Substitution
import Acceptance.Report.Page

namespace Acceptance

-- Escaping of text for markup. The five replacements, one after the other, do what one pass over
-- the characters would do.

theorem Text.replaceAll_single (c : Char) (value text : List Char) :
    replaceAll [c] value text = text.flatMap fun d => if d = c then value else [d] := by
  induction text with
  | nil => rfl
  | cons d rest ih =>
      rw [replaceAll_cons, List.flatMap_cons]
      by_cases same : d = c
      · simp [same, ih]
      · simp [same, Ne.symm same, ih]

namespace Report

def entityOf (c : Char) : List Char := ((entities.lookup c).map String.toList).getD [c]

theorem entityOf_other {c : Char} (plain : ∀ entity ∈ entities, c ≠ entity.1) :
    entityOf c = [c] := by
  have absent : entities.lookup c = none := by
    rw [List.lookup_eq_none_iff]
    exact fun entity member => by simpa using plain entity member
  rw [entityOf, absent]
  rfl

theorem entityOf_cases (c : Char) :
    (∃ entity ∈ entities, c = entity.1 ∧ entityOf c = entity.2.toList) ∨
      (∀ entity ∈ entities, c ≠ entity.1) ∧ entityOf c = [c] := by
  by_cases special : ∃ entity ∈ entities, c = entity.1
  · obtain ⟨entity, member, rfl⟩ := special
    have written : ∀ entity ∈ entities, entityOf entity.1 = entity.2.toList := by decide
    exact .inl ⟨entity, member, rfl, written entity member⟩
  · have plain : ∀ entity ∈ entities, c ≠ entity.1 := fun entity member same =>
      special ⟨entity, member, same⟩
    exact .inr ⟨plain, entityOf_other plain⟩

theorem escape_eq (text : List Char) : escape text = text.flatMap entityOf := by
  simp only [escape, entities, List.foldl_cons, List.foldl_nil, Text.replaceAll_single,
    List.flatMap_assoc]
  refine congrArg (fun write => text.flatMap write) (funext fun c => ?_)
  rcases entityOf_cases c with ⟨entity, member, rfl, spelled⟩ | ⟨plain, spelled⟩
  · rw [spelled]
    simp only [entities, List.mem_cons, List.not_mem_nil, or_false] at member
    rcases member with rfl | rfl | rfl | rfl | rfl <;> rfl
  · obtain ⟨and, less, greater, quote, mark⟩ :
        c ≠ '&' ∧ c ≠ '<' ∧ c ≠ '>' ∧ c ≠ '"' ∧ c ≠ '\'' := by simpa [entities] using plain
    simp only [spelled, if_neg and, if_neg less, if_neg greater, if_neg quote, if_neg mark,
      List.flatMap_cons, List.flatMap_nil, List.append_nil]

theorem escape_cons (c : Char) (rest : List Char) :
    escape (c :: rest) = entityOf c ++ escape rest := by
  rw [escape_eq, escape_eq, List.flatMap_cons]

-- The ampersand is the only one of the special characters that a written text can hold.
theorem not_mem_escape {mark : Char} (special : mark ∈ ['<', '>', '"', '\'']) (text : List Char) :
    mark ∉ escape text := by
  intro inside
  rw [escape_eq, List.mem_flatMap] at inside
  obtain ⟨c, _, written⟩ := inside
  rcases entityOf_cases c with ⟨entity, member, _, spelled⟩ | ⟨plain, spelled⟩
  · have clean : ∀ entity ∈ entities,
        ['<', '>', '"', '\''].all fun mark => !entity.2.toList.contains mark := by decide
    have absent := List.all_eq_true.mp (clean entity member) mark special
    rw [spelled] at written
    simp [written] at absent
  · rw [spelled, List.mem_singleton] at written
    have listed : ['<', '>', '"', '\''].all fun mark => entities.any (mark == ·.1) := by decide
    obtain ⟨entity, member, same⟩ :=
      List.any_eq_true.mp (List.all_eq_true.mp listed mark special)
    exact plain entity member (written ▸ beq_iff_eq.mp same)

def entityAt? (text : List Char) : Option (Char × Nat) :=
  (entities.find? fun entity => entity.2.toList.isPrefixOf text).map fun entity =>
    (entity.1, entity.2.length)

-- One pass from left to right. `skip` counts what is left of an entity that has been read.
def unescapeFrom : Nat → List Char → List Char
  | _, [] => []
  | skip + 1, _ :: rest => unescapeFrom skip rest
  | 0, c :: rest =>
      match entityAt? (c :: rest) with
      | some (found, length) => found :: unescapeFrom (length - 1) rest
      | none => c :: unescapeFrom 0 rest

def unescape (text : List Char) : List Char := unescapeFrom 0 text

theorem unescape_entity {entity : Char × String} (member : entity ∈ entities) (rest : List Char) :
    unescape (entity.2.toList ++ rest) = entity.1 :: unescape rest := by
  simp only [entities, List.mem_cons, List.not_mem_nil, or_false] at member
  rcases member with rfl | rfl | rfl | rfl | rfl <;> rfl

theorem entityAt?_plain {c : Char} (plain : ∀ entity ∈ entities, c ≠ entity.1)
    (rest : List Char) : entityAt? (c :: rest) = none := by
  have unlike : '&' ≠ c := (plain ('&', "&amp;") (by decide)).symm
  simp [entityAt?, entities, unlike]

theorem unescape_entityOf (c : Char) (rest : List Char) :
    unescape (entityOf c ++ rest) = c :: unescape rest := by
  rcases entityOf_cases c with ⟨entity, member, rfl, spelled⟩ | ⟨plain, spelled⟩
  · rw [spelled, unescape_entity member]
  · rw [spelled, unescape, List.singleton_append, unescapeFrom, entityAt?_plain plain]
    rfl

theorem unescape_escape (text : List Char) : unescape (escape text) = text := by
  induction text with
  | nil => rfl
  | cons c rest ih => rw [escape_cons, unescape_entityOf, ih]

def spelling : Char → String
  | '&' => "&amp;"
  | '<' => "&lt;"
  | '>' => "&gt;"
  | '"' => "&quot;"
  | '\'' => "&#39;"
  | c => String.singleton c

theorem entityOf_eq_spelling (c : Char) : entityOf c = (spelling c).toList := by
  rcases entityOf_cases c with ⟨entity, member, rfl, spelled⟩ | ⟨plain, spelled⟩
  · rw [spelled]
    have table : ∀ entity ∈ entities, entity.2 = spelling entity.1 := by decide
    rw [table entity member]
  · obtain ⟨and, less, greater, quote, mark⟩ :
        c ≠ '&' ∧ c ≠ '<' ∧ c ≠ '>' ∧ c ≠ '"' ∧ c ≠ '\'' := by simpa [entities] using plain
    rw [spelled]
    unfold spelling
    split <;> first | contradiction | simp

theorem escape_append (text more : List Char) :
    escape (text ++ more) = escape text ++ escape more := by
  rw [escape_eq, escape_eq, escape_eq, List.flatMap_append]

theorem entityOf_front (c : Char) : ∃ first rest, entityOf c = first :: rest ∧ '&' ∉ rest ∧
    (first = '&' → ∃ entity ∈ entities, entity.2.toList = entityOf c) := by
  rcases entityOf_cases c with ⟨entity, member, _, spelled⟩ | ⟨plain, spelled⟩
  · have shape : ∀ entity ∈ entities,
        entity.2.toList = '&' :: entity.2.toList.tail ∧ '&' ∉ entity.2.toList.tail := by decide
    exact ⟨'&', _, spelled.trans (shape entity member).1, (shape entity member).2,
      fun _ => ⟨entity, member, spelled.symm⟩⟩
  · refine ⟨c, [], spelled, List.not_mem_nil, fun same => ?_⟩
    exact absurd same (plain ('&', "&amp;") (by decide))

theorem ampersand_starts_entity {text front rest : List Char}
    (split : escape text = front ++ '&' :: rest) :
    ∃ entity ∈ entities, entity.2.toList <+: '&' :: rest := by
  induction text generalizing front with
  | nil => simp [escape_eq] at split
  | cons c text ih =>
      obtain ⟨first, tail, shape, quiet, entity⟩ := entityOf_front c
      rw [escape_cons] at split
      cases front with
      | nil =>
          -- The entity stands right here.
          rw [List.nil_append] at split
          have same : first = '&' := by
            rw [shape] at split
            exact (List.cons.inj split).1
          obtain ⟨entity, member, spelled⟩ := entity same
          rw [← spelled] at split
          exact ⟨entity, member, split ▸ List.prefix_append _ _⟩
      | cons d front =>
          -- The rest of what stands for the character holds none, so it comes later.
          rw [shape, List.cons_append, List.cons_append] at split
          rcases List.append_eq_append_iff.mp (List.cons.inj split).2 with
            ⟨between, _, later⟩ | ⟨between, within, later⟩
          · exact ih later
          · cases between with
            | nil =>
                have here : escape text = [] ++ '&' :: rest := later.symm
                exact ih here
            | cons e between =>
                rw [List.cons_append] at later
                obtain ⟨rfl, _⟩ := List.cons.inj later
                exact absurd (within ▸ List.mem_append_right _ List.mem_cons_self) quiet

-- Escaping is a spelling of the single characters: it hides every mark that could end a text, and
-- it can be undone, so that no two texts are shown alike.
theorem escaped_lossless (text : String) :
    (escaped text).toList = text.toList.flatMap (fun c => (spelling c).toList) ∧
      (∀ mark ∈ ['<', '>', '"', '\''], mark ∉ (escaped text).toList) ∧
      (∀ front rest, (escaped text).toList = front ++ '&' :: rest →
        ∃ entity ∈ ["&amp;", "&lt;", "&gt;", "&quot;", "&#39;"], entity.toList <+: '&' :: rest) ∧
      String.ofList (unescape (escaped text).toList) = text ∧
      Function.Injective escaped ∧
      ∀ more, escaped (text ++ more) = escaped text ++ escaped more := by
  have undone : ∀ text, String.ofList (unescape (escaped text).toList) = text := by
    intro text
    rw [escaped, String.toList_ofList, unescape_escape, String.ofList_toList]
  refine ⟨?_, ?_, ?_, undone text, ?_, ?_⟩
  · rw [escaped, String.toList_ofList, escape_eq]
    exact congrArg (fun write => text.toList.flatMap write) (funext entityOf_eq_spelling)
  · intro mark special
    rw [escaped, String.toList_ofList]
    exact not_mem_escape special text.toList
  · intro front rest split
    rw [escaped, String.toList_ofList] at split
    obtain ⟨entity, member, starts⟩ := ampersand_starts_entity split
    exact ⟨entity.2, List.mem_map_of_mem (f := Prod.snd) member, starts⟩
  · intro text other same
    rw [← undone text, same, undone other]
  · intro more
    rw [escaped, String.toList_append, escape_append, String.ofList_append]
    rfl

end Report
end Acceptance
