import Acceptance.Proofs.Escaping

namespace Acceptance.Report

-- Markup as a sequence of tags and of the texts between them. A tag runs from a `<` to the next
-- `>`.

inductive Piece where
  | tag (text : String)
  | text (content : String)
  deriving DecidableEq

def textPieces (content : List Char) : List Piece :=
  if content = [] then [] else [.text (String.ofList content)]

-- `part` is what has been read of the current piece, backwards. A tag that is never closed is text.
def scan : Bool → List Char → List Char → List Piece
  | _, part, [] => textPieces part.reverse
  | false, part, c :: rest =>
      if c = '<' then textPieces part.reverse ++ scan true ['<'] rest
      else scan false (c :: part) rest
  | true, part, c :: rest =>
      if c = '>' then .tag (String.ofList (part.reverse ++ ['>'])) :: scan false [] rest
      else scan true (c :: part) rest

def pieces (page : String) : List Piece := scan false [] page.toList

def Piece.tag? : Piece → Option String
  | .tag spelled => some spelled
  | .text _ => none

def tagsOf (content : List Piece) : List String := content.filterMap Piece.tag?

def tags (page : String) : List String := tagsOf (pieces page)

@[simp] theorem tagsOf_nil : tagsOf [] = [] := rfl

@[simp] theorem tagsOf_tag (spelled : String) (rest : List Piece) :
    tagsOf (.tag spelled :: rest) = spelled :: tagsOf rest := rfl

theorem tagsOf_append (left right : List Piece) :
    tagsOf (left ++ right) = tagsOf left ++ tagsOf right := List.filterMap_append

@[simp] theorem tagsOf_textPieces (content : List Char) : tagsOf (textPieces content) = [] := by
  unfold textPieces
  split <;> rfl

def Piece.written : Piece → List Char
  | .tag spelled => spelled.toList
  | .text content => content.toList

def written (content : List Piece) : List Char := content.flatMap Piece.written

@[simp] theorem written_nil : written [] = [] := rfl

theorem written_tag (spelled : String) (rest : List Piece) :
    written (.tag spelled :: rest) = spelled.toList ++ written rest := rfl

theorem written_cons (piece : Piece) (rest : List Piece) :
    written (piece :: rest) = piece.written ++ written rest := List.flatMap_cons

theorem written_append (left right : List Piece) :
    written (left ++ right) = written left ++ written right := List.flatMap_append

@[simp] theorem written_textPieces (content : List Char) :
    written (textPieces content) = content := by
  unfold textPieces
  split
  · simp_all [written]
  · simp [written, Piece.written]

def IsTag (spelled : String) : Prop :=
  let chars := spelled.toList
  chars.head? = some '<' ∧ chars.getLast? = some '>' ∧ '>' ∉ chars.dropLast

instance (spelled : String) : Decidable (IsTag spelled) := inferInstanceAs (Decidable (_ ∧ _ ∧ _))

theorem IsTag.inner {spelled : String} (closed : IsTag spelled) :
    ∃ inner, '>' ∉ inner ∧ spelled.toList = '<' :: inner ++ ['>'] := by
  obtain ⟨first, last, once⟩ := closed
  obtain ⟨front, split⟩ := List.getLast?_eq_some_iff.mp last
  rw [split, List.dropLast_concat] at once
  cases front with
  | nil => simp [split] at first
  | cons c inner =>
      obtain rfl : c = '<' := by simpa [split] using first
      exact ⟨inner, fun member => once (List.mem_cons_of_mem _ member), split⟩

-- Pieces that can be told apart again: texts hold no `<`, and a tag follows each of them.
inductive Proper : List Piece → Prop
  | nil : Proper []
  | tag {text : String} {rest : List Piece} :
      IsTag text → Proper rest → Proper (.tag text :: rest)
  | text {content : List Char} {closing : String} {rest : List Piece} :
      '<' ∉ content → IsTag closing → Proper rest →
        Proper (textPieces content ++ .tag closing :: rest)

theorem Proper.append {left right : List Piece} (first : Proper left) (second : Proper right) :
    Proper (left ++ right) := by
  induction first with
  | nil => exact second
  | tag closed _ ih => exact .tag closed ih
  | text quiet closed _ ih =>
      rw [List.append_assoc]
      exact .text quiet closed ih

theorem Proper.flatMap {α : Type} {list : List α} {spell : α → List Piece}
    (each : ∀ item ∈ list, Proper (spell item)) : Proper (list.flatMap spell) := by
  induction list with
  | nil => exact .nil
  | cons item list ih =>
      rw [List.forall_mem_cons] at each
      exact each.1.append (ih each.2)

theorem scan_text {content : List Char} (quiet : '<' ∉ content) (part rest : List Char) :
    scan false part (content ++ rest) = scan false (content.reverse ++ part) rest := by
  induction content generalizing part with
  | nil => rfl
  | cons c content ih =>
      rw [List.mem_cons, not_or] at quiet
      rw [List.cons_append, scan, if_neg (Ne.symm quiet.1), ih quiet.2]
      simp

theorem scan_inside {inner : List Char} (unclosed : '>' ∉ inner) (part rest : List Char) :
    scan true part (inner ++ '>' :: rest) =
      .tag (String.ofList (part.reverse ++ inner ++ ['>'])) :: scan false [] rest := by
  induction inner generalizing part with
  | nil => simp [scan]
  | cons c inner ih =>
      rw [List.mem_cons, not_or] at unclosed
      rw [List.cons_append, scan, if_neg (Ne.symm unclosed.1), ih unclosed.2]
      simp

theorem scan_tag {text : String} (closed : IsTag text) (part rest : List Char) :
    scan false part (text.toList ++ rest) =
      textPieces part.reverse ++ .tag text :: scan false [] rest := by
  obtain ⟨inner, unclosed, spelled⟩ := closed.inner
  have whole : String.ofList ('<' :: inner ++ ['>']) = text := by
    rw [← spelled, String.ofList_toList]
  rw [spelled, List.cons_append, List.cons_append, scan, if_pos rfl, List.append_assoc,
    List.singleton_append, scan_inside unclosed]
  simp [← whole]

theorem pieces_written {content : List Piece} (proper : Proper content) :
    pieces (String.ofList (written content)) = content := by
  unfold pieces
  rw [String.toList_ofList]
  induction proper with
  | nil => rfl
  | tag closed _ ih =>
      rw [written_cons, Piece.written, scan_tag closed, ih]
      rfl
  | text quiet closed _ ih =>
      rw [written_append, written_textPieces, scan_text quiet, written_cons, Piece.written,
        scan_tag closed, ih, List.append_nil, List.reverse_reverse]

-- An element: the tag that opens it, and what stands in front of the tag that closes it.
structure Element where
  opening : String
  content : List Piece

def opens (name : String) (tag : String) : Bool :=
  tag = "<" ++ name ++ ">" || ("<" ++ name ++ " ").toList.isPrefixOf tag.toList

def closingTag (name : String) : String := "</" ++ name ++ ">"

def elementsFrom (name : String) : Option Element → List Piece → List Element
  | _, [] => []
  | none, piece :: rest =>
      elementsFrom name ((piece.tag?.filter (opens name)).map fun opening => ⟨opening, []⟩) rest
  | some element, piece :: rest =>
      if piece.tag? = some (closingTag name) then element :: elementsFrom name none rest
      else elementsFrom name (some { element with content := element.content ++ [piece] }) rest

-- The elements of a name, each up to the next tag that closes one.
def elements (name : String) (content : List Piece) : List Element := elementsFrom name none content

namespace Element

def pieces (name : String) (element : Element) : List Piece :=
  .tag element.opening :: element.content ++ [.tag (closingTag name)]

-- The text of an element that holds no tag, as a reader sees it.
def text? (element : Element) : Option String :=
  match element.content with
  | [] => some ""
  | [.text content] => some (String.ofList (unescape content.toList))
  | _ => none

def ofText (opening : String) (content : List Char) : Element := ⟨opening, textPieces content⟩

theorem text?_ofText_escape (opening : String) (content : String) :
    (ofText opening (escape content.toList)).text? = some content := by
  have back := unescape_escape content.toList
  by_cases empty : escape content.toList = []
  · rw [empty] at back
    have none : content = "" := String.toList_inj.mp back.symm
    rw [ofText, empty, none]
    rfl
  · simp [ofText, textPieces, empty, text?, back]

theorem tagsOf_pieces (name : String) (element : Element) :
    tagsOf (element.pieces name) =
      element.opening :: tagsOf element.content ++ [closingTag name] := by
  rw [pieces, tagsOf_append]
  rfl

theorem tagsOf_ofText (opening name : String) (content : List Char) :
    tagsOf ((ofText opening content).pieces name) = [opening, closingTag name] := by
  rw [tagsOf_pieces, ofText, tagsOf_textPieces]
  rfl

theorem written_pieces (name : String) (element : Element) :
    written (element.pieces name) =
      element.opening.toList ++ written element.content ++ (closingTag name).toList := by
  simp [pieces, written_append, written_tag]

theorem proper_ofText {opening : String} (name : String) {content : List Char}
    (opened : IsTag opening) (closed : IsTag (closingTag name)) (quiet : '<' ∉ content) :
    Proper ((ofText opening content).pieces name) :=
  .tag opened (.text quiet closed .nil)

theorem proper_pieces {element : Element} (name : String) (opened : IsTag element.opening)
    (closed : IsTag (closingTag name)) (proper : Proper element.content) :
    Proper (element.pieces name) :=
  .append (.tag opened proper) (.tag closed .nil)

end Element

theorem elements_skip {name : String} {before : List Piece}
    (unopened : ∀ tag ∈ tagsOf before, opens name tag = false) (rest : List Piece) :
    elements name (before ++ rest) = elements name rest := by
  unfold elements
  induction before with
  | nil => rfl
  | cons piece before ih =>
      have skipped : piece.tag?.filter (opens name) = none := by
        rw [Option.filter_eq_none_iff]
        intro tag here
        rw [unopened tag (List.mem_filterMap.mpr ⟨piece, List.mem_cons_self, here⟩)]
        decide
      rw [List.cons_append, elementsFrom, skipped]
      exact ih fun tag member => unopened tag (by
        obtain ⟨other, inside, here⟩ := List.mem_filterMap.mp member
        exact List.mem_filterMap.mpr ⟨other, List.mem_cons_of_mem _ inside, here⟩)

theorem elementsFrom_open {name : String} {content : List Piece}
    (unclosed : closingTag name ∉ tagsOf content) (element : Element) (rest : List Piece) :
    elementsFrom name (some element) (content ++ .tag (closingTag name) :: rest) =
      { element with content := element.content ++ content } :: elements name rest := by
  induction content generalizing element with
  | nil => simp [elementsFrom, Piece.tag?, elements]
  | cons piece content ih =>
      have inside : piece.tag? ≠ some (closingTag name) := fun here =>
        unclosed (List.mem_filterMap.mpr ⟨piece, List.mem_cons_self, here⟩)
      have later : closingTag name ∉ tagsOf content := fun member =>
        unclosed (tagsOf_append [piece] content ▸ List.mem_append_right _ member)
      rw [List.cons_append, elementsFrom, if_neg inside, ih later]
      simp

theorem elements_pieces {name : String} {element : Element}
    (opened : opens name element.opening) (unclosed : closingTag name ∉ tagsOf element.content)
    (rest : List Piece) :
    elements name (element.pieces name ++ rest) = element :: elements name rest := by
  unfold Element.pieces elements
  rw [List.cons_append, List.cons_append, elementsFrom, List.append_assoc, List.singleton_append]
  have found : ((Piece.tag element.opening).tag?.filter (opens name)) = some element.opening := by
    simp [Piece.tag?, opened]
  rw [found]
  exact elementsFrom_open unclosed ⟨element.opening, []⟩ rest

theorem elements_flatMap {name : String} {list : List Element}
    (opened : ∀ element ∈ list, opens name element.opening)
    (unclosed : ∀ element ∈ list, closingTag name ∉ tagsOf element.content) :
    elements name (list.flatMap (Element.pieces name)) = list := by
  induction list with
  | nil => rfl
  | cons element list ih =>
      rw [List.forall_mem_cons] at opened unclosed
      rw [List.flatMap_cons, elements_pieces opened.1 unclosed.1, ih opened.2 unclosed.2]

end Acceptance.Report
