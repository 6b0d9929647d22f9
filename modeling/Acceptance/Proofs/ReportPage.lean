import Acceptance.Proofs.Markup
import Mathlib.Data.List.Forall2

namespace Acceptance.Report

-- The page of the report, read as markup. Its tags depend on the outcomes of the records alone,
-- its table has one row per record, and a row shows the record it was made of: what a text holds
-- reaches the reader, and never the markup.

def counterPieces (cssClass : String) (count : Nat) (label : String) : List Piece :=
  .tag "<div class='summary-item'>" ::
    (Element.ofText ("<span class='count " ++ cssClass ++ "'>") (toString count).toList).pieces
      "span" ++
    (Element.ofText "<span class='label'>" (escape label.toList)).pieces "span" ++
    [.tag "</div>"]

def counterList (locale : Locale) (summary : Summary) : List (String × Nat × String) :=
  let phrases := locale.phrases
  [("", summary.total, phrases.totalLabel),
    (Outcome.cssClass .passed, summary.passed, phrases.label .passed),
    (Outcome.cssClass .compileFailed, summary.compileFailed.length, phrases.label .compileFailed),
    (Outcome.cssClass .runtimeMismatch, summary.runtimeMismatch.length,
      phrases.label .runtimeMismatch)]

def headPieces (locale : Locale) : List Piece :=
  [.tag "<!DOCTYPE html>", .tag "<html>", .tag "<head>", .tag "<meta charset='utf-8'>"] ++
    (Element.ofText "<title>" (escape locale.phrases.reportTitle.toList)).pieces "title" ++
    (Element.ofText "<style>" (String.join styleRules).toList).pieces "style" ++
    [.tag "</head>", .tag "<body>"] ++
    (Element.ofText "<h1>" (escape locale.phrases.reportHeading.toList)).pieces "h1"

def counterListPieces (locale : Locale) (summary : Summary) : List Piece :=
  .tag "<div class='summary-container'>" ::
    (counterList locale summary).flatMap (fun (cssClass, count, label) =>
      counterPieces cssClass count label) ++ [.tag "</div>"]

def headingPieces (heading : String) : List Piece :=
  (Element.ofText "<th>" (escape heading.toList)).pieces "th"

def leadingPieces (locale : Locale) (summary : Summary) : List Piece :=
  headPieces locale ++ counterListPieces locale summary ++
    [.tag "<table>", .tag "<thead>", .tag "<tr>"] ++ (headings locale).flatMap headingPieces ++
    [.tag "</tr>", .tag "</thead>"]

def hintPieces (hint : Hint) (record : Record) : List Piece :=
  if record.outcome = .passed then []
  else (Element.ofText "<code>" (escape (hint.command record.name).toList)).pieces "code"

def statusOpening (outcome : Outcome) : String := "<td class='" ++ outcome.cssClass ++ "'>"

def cells (locale : Locale) (hint : Hint) (record : Record) : List Element :=
  [.ofText "<td>" (escape record.name.toList),
    .ofText (statusOpening record.outcome) (escape (locale.phrases.label record.outcome).toList),
    .ofText "<td class='duration-cell'>" (record.duration.hundredths ++ ['s']),
    ⟨"<td>", hintPieces hint record⟩]

def rowElement (locale : Locale) (hint : Hint) (record : Record) : Element :=
  ⟨"<tr>", (cells locale hint record).flatMap (Element.pieces "td")⟩

def tableBody (locale : Locale) (hint : Hint) (summary : Summary) : Element :=
  ⟨"<tbody>",
    (summary.records.map (rowElement locale hint)).flatMap (Element.pieces "tr")⟩

def trailingPieces : List Piece := [.tag "</table>", .tag "</body>", .tag "</html>"]

def pagePieces (locale : Locale) (hint : Hint) (summary : Summary) : List Piece :=
  leadingPieces locale summary ++ (tableBody locale hint summary).pieces "tbody" ++ trailingPieces

-- The fixed texts are cut at their tags first; the simplifier would spell them out.
theorem pageHead_toList (locale : Locale) :
    (pageHead locale).toList = written (headPieces locale) := by
  have title : "<!DOCTYPE html><html><head><meta charset='utf-8'><title>".toList =
      "<!DOCTYPE html>".toList ++ "<html>".toList ++ "<head>".toList ++
        "<meta charset='utf-8'>".toList ++ "<title>".toList := by decide +kernel
  have style : "</title><style>".toList = (closingTag "title").toList ++ "<style>".toList := by
    decide +kernel
  have body : "</style></head><body><h1>".toList =
      (closingTag "style").toList ++ "</head>".toList ++ "<body>".toList ++ "<h1>".toList := by
    decide +kernel
  have heading : "</h1>" = closingTag "h1" := by decide +kernel
  delta pageHead headPieces
  simp only [String.toList_append, written_append, written_tag, Element.written_pieces,
    Element.ofText, escaped, String.toList_ofList, written_textPieces, written_nil, title, style,
    body, heading, List.append_assoc, List.append_nil]

theorem counter_toList (cssClass : String) (count : Nat) (label : String) :
    (counter cssClass count label).toList = written (counterPieces cssClass count label) := by
  delta counter
  simp [counterPieces, written_append, written_tag, Element.written_pieces, Element.ofText,
    escaped, closingTag]

theorem counters_toList (locale : Locale) (summary : Summary) :
    (counters locale summary).toList = written (counterListPieces locale summary) := by
  delta counters
  simp [counterListPieces, counterList, outcomeCounter, counter_toList, written_append,
    written_tag]

theorem heading_toList (heading : String) :
    ("<th>" ++ escaped heading ++ "</th>").toList = written (headingPieces heading) := by
  simp [headingPieces, Element.written_pieces, Element.ofText, escaped, closingTag]

theorem row_toList (locale : Locale) (hint : Hint) (record : Record) :
    (row locale hint record).toList = written ((rowElement locale hint record).pieces "tr") := by
  unfold row hintCell rowElement cells hintPieces
  split <;>
    simp [written_append, Element.written_pieces, Element.ofText, escaped, closingTag,
      statusOpening]

theorem html_toList (locale : Locale) (hint : Hint) (summary : Summary) :
    (html locale hint summary).toList = written (pagePieces locale hint summary) := by
  have rows : (String.join (summary.records.map (row locale hint))).toList =
      written (tableBody locale hint summary).content := by
    simp [List.flatMap_map, row_toList, tableBody, written, List.flatMap_assoc]
  have head : (String.join ((headings locale).map fun heading =>
      "<th>" ++ escaped heading ++ "</th>")).toList =
        written ((headings locale).flatMap headingPieces) := by
    rw [String.toList_join, List.flatMap_map, written, List.flatMap_assoc]
    exact congrArg (fun write => (headings locale).flatMap write) (funext heading_toList)
  simp only [html, String.toList_append, pageHead_toList, counters_toList, rows, head, pagePieces,
    leadingPieces, written_append, Element.written_pieces, written_tag]
  simp [tableBody, closingTag, trailingPieces, written_tag]

def counterTags (cssClass : String) : List String :=
  ["<div class='summary-item'>", "<span class='count " ++ cssClass ++ "'>", "</span>",
    "<span class='label'>", "</span>", "</div>"]

def leadingTags : List String :=
  ["<!DOCTYPE html>", "<html>", "<head>", "<meta charset='utf-8'>", "<title>", "</title>",
      "<style>", "</style>", "</head>", "<body>", "<h1>", "</h1>",
      "<div class='summary-container'>"] ++
    ["", "status-passed", "status-compile-failed", "status-runtime-mismatch"].flatMap counterTags ++
    ["</div>", "<table>", "<thead>", "<tr>", "<th>", "</th>", "<th>", "</th>", "<th>", "</th>",
      "<th>", "</th>", "</tr>", "</thead>"]

def cellTags (outcome : Outcome) : List String :=
  ["<td>", "</td>", statusOpening outcome, "</td>", "<td class='duration-cell'>", "</td>",
      "<td>"] ++
    (if outcome = .passed then [] else ["<code>", "</code>"]) ++ ["</td>"]

def rowTags (outcome : Outcome) : List String := "<tr>" :: cellTags outcome ++ ["</tr>"]

def pageTags (outcomes : List Outcome) : List String :=
  leadingTags ++ "<tbody>" :: outcomes.flatMap rowTags ++
    ["</tbody>", "</table>", "</body>", "</html>"]

theorem tagsOf_counter (cssClass : String) (count : Nat) (label : String) :
    tagsOf (counterPieces cssClass count label) = counterTags cssClass := by
  simp [counterPieces, counterTags, tagsOf_append, Element.tagsOf_ofText, closingTag]

theorem tagsOf_leading (locale : Locale) (summary : Summary) :
    tagsOf (leadingPieces locale summary) = leadingTags := by
  simp [leadingPieces, headPieces, counterListPieces, counterList, tagsOf_counter, headings,
    headingPieces, tagsOf_append, Element.tagsOf_ofText, closingTag, leadingTags, Outcome.cssClass]

theorem tagsOf_cells (locale : Locale) (hint : Hint) (record : Record) :
    tagsOf (rowElement locale hint record).content = cellTags record.outcome := by
  unfold rowElement cells hintPieces cellTags
  split <;>
    simp [Element.tagsOf_pieces, Element.ofText, tagsOf_append, closingTag]

theorem tagsOf_row (locale : Locale) (hint : Hint) (record : Record) :
    tagsOf ((rowElement locale hint record).pieces "tr") = rowTags record.outcome := by
  rw [Element.tagsOf_pieces, tagsOf_cells]
  rfl

theorem tagsOf_tableBody (locale : Locale) (hint : Hint) (summary : Summary) :
    tagsOf (tableBody locale hint summary).content =
      (summary.records.map (·.outcome)).flatMap rowTags := by
  unfold tableBody tagsOf
  rw [List.flatMap_map, List.filterMap_flatMap, List.flatMap_map]
  exact congrArg (fun tags => summary.records.flatMap tags) (funext (tagsOf_row locale hint))

theorem tagsOf_page (locale : Locale) (hint : Hint) (summary : Summary) :
    tagsOf (pagePieces locale hint summary) = pageTags (summary.records.map (·.outcome)) := by
  rw [pagePieces, tagsOf_append, tagsOf_append, tagsOf_leading, Element.tagsOf_pieces,
    tagsOf_tableBody, pageTags, List.append_assoc, List.append_assoc]
  rfl

theorem escape_quiet (text : List Char) : '<' ∉ escape text := not_mem_escape (by decide) text

theorem toDigits_quiet (n : Nat) : '<' ∉ Nat.toDigits 10 n := fun member =>
  absurd (Nat.isDigit_of_mem_toDigits (by decide) (by decide) member) (by decide)

theorem count_quiet (count : Nat) : '<' ∉ (toString count).toList := by
  rw [Nat.toString_eq_ofList_toDigits, String.toList_ofList]
  exact toDigits_quiet count

theorem hundredths_quiet (duration : Duration) : '<' ∉ duration.hundredths ++ ['s'] := by
  intro member
  simp only [Duration.hundredths, Decimal.Binary64.fixed, List.mem_append, List.mem_cons,
    List.not_mem_nil, or_false] at member
  rcases member with (front | point | back) | unit
  · rcases List.mem_append.mp (List.mem_of_mem_take front) with zero | digit
    · exact absurd (List.eq_of_mem_replicate zero) (by decide)
    · exact toDigits_quiet _ digit
  · exact absurd point (by decide)
  · rcases List.mem_append.mp (List.mem_of_mem_drop back) with zero | digit
    · exact absurd (List.eq_of_mem_replicate zero) (by decide)
    · exact toDigits_quiet _ digit
  · exact absurd unit (by decide)

-- Read off the characters a literal is made of: decoding a whole rule would be slow to check.
theorem ofList_quiet {chars : List Char} (quiet : chars.contains '<' = false) :
    '<' ∉ (String.ofList chars).toList := by
  rw [String.toList_ofList]
  simpa using quiet

theorem styleRules_quiet : ∀ rule ∈ styleRules, '<' ∉ rule.toList := by
  rw [styleRules]
  repeat' first
    | exact List.forall_mem_nil _
    | refine List.forall_mem_cons.mpr ⟨ofList_quiet rfl, ?_⟩

theorem style_quiet : '<' ∉ (String.join styleRules).toList := by
  rw [String.toList_join]
  intro member
  obtain ⟨rule, listed, inside⟩ := List.mem_flatMap.mp member
  exact styleRules_quiet rule listed inside

-- An element around a text that cannot hold a tag.
theorem escaped_proper (opening name text : String) (opened : IsTag opening)
    (closed : IsTag (closingTag name)) :
    Proper ((Element.ofText opening (escape text.toList)).pieces name) :=
  Element.proper_ofText name opened closed (escape_quiet text.toList)

theorem head_proper (locale : Locale) : Proper (headPieces locale) := by
  have title := escaped_proper "<title>" "title" locale.phrases.reportTitle (by decide) (by decide)
  have sheet : Proper ((Element.ofText "<style>" (String.join styleRules).toList).pieces "style") :=
    Element.proper_ofText _ (by decide) (by decide) style_quiet
  have heading := escaped_proper "<h1>" "h1" locale.phrases.reportHeading (by decide) (by decide)
  have opening : Proper [.tag "<!DOCTYPE html>", .tag "<html>", .tag "<head>",
      .tag "<meta charset='utf-8'>"] :=
    .tag (by decide) (.tag (by decide) (.tag (by decide) (.tag (by decide) .nil)))
  have between : Proper [.tag "</head>", .tag "<body>"] := .tag (by decide) (.tag (by decide) .nil)
  exact (((opening.append title).append sheet).append between).append heading

theorem counter_proper {cssClass : String}
    (tagged : IsTag ("<span class='count " ++ cssClass ++ "'>")) (count : Nat) (label : String) :
    Proper (counterPieces cssClass count label) := by
  have number := Element.proper_ofText "span" tagged (by decide) (count_quiet count)
  have caption := escaped_proper "<span class='label'>" "span" label (by decide) (by decide)
  exact .tag (by decide) ((number.append caption).append (.tag (by decide) .nil))

theorem counterList_proper (locale : Locale) (summary : Summary) :
    Proper (counterListPieces locale summary) := by
  have tagged : ∀ cssClass ∈ (counterList locale summary).map (·.1),
      IsTag ("<span class='count " ++ cssClass ++ "'>") := by
    have listed : (counterList locale summary).map (·.1) =
      ["", "status-passed", "status-compile-failed", "status-runtime-mismatch"] := rfl
    rw [listed]
    decide
  refine .tag (by decide) (.append (.flatMap fun counter member => ?_) (.tag (by decide) .nil))
  exact counter_proper (tagged counter.1 (List.mem_map_of_mem member)) _ _

theorem leading_proper (locale : Locale) (summary : Summary) :
    Proper (leadingPieces locale summary) := by
  have opening : Proper [.tag "<table>", .tag "<thead>", .tag "<tr>"] :=
    .tag (by decide) (.tag (by decide) (.tag (by decide) .nil))
  have columns : Proper ((headings locale).flatMap headingPieces) :=
    .flatMap fun heading _ => escaped_proper "<th>" "th" heading (by decide) (by decide)
  have closing : Proper [.tag "</tr>", .tag "</thead>"] := .tag (by decide) (.tag (by decide) .nil)
  exact ((((head_proper locale).append (counterList_proper locale summary)).append opening).append
    columns).append closing

theorem hint_proper (hint : Hint) (record : Record) : Proper (hintPieces hint record) := by
  unfold hintPieces
  split
  · exact .nil
  · exact escaped_proper "<code>" "code" _ (by decide) (by decide)

theorem statusOpening_tag (outcome : Outcome) : IsTag (statusOpening outcome) := by
  cases outcome <;> decide

theorem cells_proper (locale : Locale) (hint : Hint) (record : Record) :
    ∀ cell ∈ cells locale hint record, Proper (cell.pieces "td") := by
  have closed : IsTag (closingTag "td") := by decide
  have name := escaped_proper "<td>" "td" record.name (by decide) closed
  have status := escaped_proper (statusOpening record.outcome) "td"
    (locale.phrases.label record.outcome) (statusOpening_tag _) closed
  have duration : Proper ((Element.ofText "<td class='duration-cell'>"
      (record.duration.hundredths ++ ['s'])).pieces "td") :=
    Element.proper_ofText _ (by decide) closed (hundredths_quiet _)
  have advice : Proper ((Element.mk "<td>" (hintPieces hint record)).pieces "td") :=
    Element.proper_pieces _ (show IsTag "<td>" by decide) closed (hint_proper hint record)
  simp only [cells, List.forall_mem_cons, List.not_mem_nil, false_implies, implies_true, and_true]
  exact ⟨name, status, duration, advice⟩

theorem row_proper (locale : Locale) (hint : Hint) (record : Record) :
    Proper ((rowElement locale hint record).pieces "tr") :=
  Element.proper_pieces "tr" (show IsTag "<tr>" by decide) (by decide)
    (.flatMap (cells_proper locale hint record))

theorem page_proper (locale : Locale) (hint : Hint) (summary : Summary) :
    Proper (pagePieces locale hint summary) := by
  have body : Proper ((tableBody locale hint summary).pieces "tbody") := by
    refine Element.proper_pieces "tbody" (show IsTag "<tbody>" by decide) (by decide)
      (.flatMap fun element member => ?_)
    obtain ⟨record, _, rfl⟩ := List.mem_map.mp member
    exact row_proper locale hint record
  have trailing : Proper trailingPieces :=
    .tag (by decide) (.tag (by decide) (.tag (by decide) .nil))
  exact ((leading_proper locale summary).append body).append trailing

theorem pieces_html (locale : Locale) (hint : Hint) (summary : Summary) :
    pieces (html locale hint summary) = pagePieces locale hint summary := by
  rw [← pieces_written (page_proper locale hint summary), ← html_toList, String.ofList_toList]

structure Shows (locale : Locale) (hint : Hint) (record : Record) (row : Element) : Prop where
  cells : ∃ name status duration advice : Element,
    elements "td" row.content = [name, status, duration, advice] ∧
      row.content = [name, status, duration, advice].flatMap (Element.pieces "td") ∧
      name.text? = some record.name ∧
      status.opening = "<td class='" ++ record.outcome.cssClass ++ "'>" ∧
      status.text? = some (locale.phrases.label record.outcome) ∧
      (record.outcome = .passed → advice.content = []) ∧
      (record.outcome ≠ .passed → ∃ code : Element, advice.content = code.pieces "code" ∧
        code.opening = "<code>" ∧ code.text? = some (hint.command record.name))

theorem cells_opened (locale : Locale) (hint : Hint) (record : Record) :
    ∀ cell ∈ cells locale hint record, opens "td" cell.opening := by
  have status : ∀ outcome, opens "td" (statusOpening outcome) := by
    intro outcome
    cases outcome <;> decide
  simp only [cells, List.forall_mem_cons, List.not_mem_nil, false_implies, implies_true, and_true]
  have plain : opens "td" "<td>" := by decide
  have duration : opens "td" "<td class='duration-cell'>" := by decide
  exact ⟨plain, status record.outcome, duration, plain⟩

theorem cells_unclosed (locale : Locale) (hint : Hint) (record : Record) :
    ∀ cell ∈ cells locale hint record, closingTag "td" ∉ tagsOf cell.content := by
  have advice : closingTag "td" ∉ tagsOf (hintPieces hint record) := by
    unfold hintPieces
    split
    · decide
    · rw [Element.tagsOf_ofText]
      decide
  simp only [cells, Element.ofText, List.forall_mem_cons, List.not_mem_nil, false_implies,
    implies_true, and_true, tagsOf_textPieces, not_false_eq_true, true_and]
  exact advice

theorem row_shows (locale : Locale) (hint : Hint) (record : Record) :
    Shows locale hint record (rowElement locale hint record) where
  cells := by
    refine ⟨_, _, _, _, elements_flatMap (cells_opened locale hint record)
      (cells_unclosed locale hint record), rfl, Element.text?_ofText_escape _ _, rfl,
      Element.text?_ofText_escape _ _, fun passed => ?_, fun failed => ?_⟩
    · exact if_pos passed
    · exact ⟨_, if_neg failed, rfl, Element.text?_ofText_escape _ _⟩

theorem elements_tableBody (locale : Locale) (hint : Hint) (summary : Summary) :
    elements "tr" (tableBody locale hint summary).content =
      summary.records.map (rowElement locale hint) := by
  have opened : opens "tr" "<tr>" := by decide
  have unclosed : ∀ outcome, closingTag "tr" ∉ cellTags outcome := by
    intro outcome
    cases outcome <;> decide
  refine elements_flatMap (fun element member => ?_) fun element member => ?_
  · obtain ⟨record, _, rfl⟩ := List.mem_map.mp member
    exact opened
  · obtain ⟨record, _, rfl⟩ := List.mem_map.mp member
    rw [tagsOf_cells]
    exact unclosed record.outcome

theorem elements_page (locale : Locale) (hint : Hint) (summary : Summary) :
    elements "tbody" (pagePieces locale hint summary) = [tableBody locale hint summary] := by
  have leading : ∀ tag ∈ tagsOf (leadingPieces locale summary), opens "tbody" tag = false := by
    rw [tagsOf_leading]
    decide
  have opened : opens "tbody" "<tbody>" := by decide
  have rows : ∀ outcome, closingTag "tbody" ∉ rowTags outcome := by
    intro outcome
    cases outcome <;> decide
  have unclosed : closingTag "tbody" ∉ tagsOf (tableBody locale hint summary).content := by
    rw [tagsOf_tableBody]
    intro inside
    obtain ⟨outcome, _, member⟩ := List.mem_flatMap.mp inside
    exact rows outcome member
  have trailing : elements "tbody" trailingPieces = [] := by
    rw [← List.append_nil trailingPieces, elements_skip (by decide)]
    rfl
  rw [pagePieces, List.append_assoc, elements_skip leading, elements_pieces opened unclosed,
    trailing]

-- A report brings no text into its markup, and every row shows its record.
theorem html_tags_and_rows (locale : Locale) (hint : Hint) (summary : Summary) :
    tags (html locale hint summary) = pageTags (summary.records.map (·.outcome)) ∧
      ∃ (body : Element) (rows : List Element),
        elements "tbody" (pieces (html locale hint summary)) = [body] ∧
        elements "tr" body.content = rows ∧
        body.content = rows.flatMap (Element.pieces "tr") ∧
        List.Forall₂ (Shows locale hint) summary.records rows := by
  rw [tags, pieces_html, tagsOf_page, elements_page]
  refine ⟨rfl, _, _, rfl, elements_tableBody locale hint summary, rfl, ?_⟩
  rw [List.forall₂_map_right_iff]
  exact List.forall₂_same.mpr fun record _ => row_shows locale hint record

end Acceptance.Report
