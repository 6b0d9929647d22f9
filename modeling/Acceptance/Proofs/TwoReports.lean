import Acceptance.Proofs.ReportPage
import Acceptance.Report.Lines

namespace Acceptance.Report

-- The two reports of one run. One of them goes through the records and the other through the
-- names of the cases by outcome.

def classOf (tag : String) : String :=
  String.ofList ((tag.toList.dropWhile (· != '\'')).tail.takeWhile (· != '\''))

structure ReadRow where
  name : String
  status : String
  commands : List String

def ReadRow.ofElement? (row : Element) : Option ReadRow :=
  match elements "td" row.content with
  | [name, status, _, advice] => name.text?.map fun name =>
      { name, status := classOf status.opening,
        commands := (elements "code" advice.content).filterMap Element.text? }
  | _ => none

def readRows (page : String) : List ReadRow :=
  ((elements "tbody" (pieces page)).flatMap fun body => elements "tr" body.content).filterMap
    ReadRow.ofElement?

def rowsTelling (outcome : Outcome) (page : String) : List ReadRow :=
  (readRows page).filter (·.status == outcome.cssClass)

-- What the console has to say about a row.
def ReadRow.entries (heading : String → String) (row : ReadRow) : List String :=
  row.commands.map fun command => heading row.name ++ "\n" ++ command

def isCount (span : Element) : Bool := "count ".toList.isPrefixOf (classOf span.opening).toList

def countsIn (content : List Piece) : List String :=
  ((elements "span" content).filter isCount).filterMap Element.text?

def readCounts (page : String) : List String := countsIn (pieces page)

def rowOf (hint : Hint) (record : Record) : ReadRow where
  name := record.name
  status := record.outcome.cssClass
  commands := if record.outcome = .passed then [] else [hint.command record.name]

theorem elements_single {name : String} {element : Element} (opened : opens name element.opening)
    (unclosed : closingTag name ∉ tagsOf element.content) :
    elements name (element.pieces name) = [element] := by
  rw [← List.append_nil (element.pieces name), elements_pieces opened unclosed]
  rfl

theorem read_hint (hint : Hint) (record : Record) :
    (elements "code" (hintPieces hint record)).filterMap Element.text? =
      (rowOf hint record).commands := by
  have opened : opens "code" "<code>" := by decide
  unfold hintPieces rowOf
  split
  · rfl
  · rw [elements_single opened (by rw [Element.ofText, tagsOf_textPieces]; decide),
      List.filterMap_cons_some (Element.text?_ofText_escape _ _)]
    rfl

theorem ofElement?_row (locale : Locale) (hint : Hint) (record : Record) :
    ReadRow.ofElement? (rowElement locale hint record) = some (rowOf hint record) := by
  have split : elements "td" (rowElement locale hint record).content = cells locale hint record :=
    elements_flatMap (cells_opened locale hint record) (cells_unclosed locale hint record)
  have status : ∀ outcome, classOf (statusOpening outcome) = outcome.cssClass := by
    intro outcome
    cases outcome <;> decide
  rw [ReadRow.ofElement?, split]
  simp only [cells, Element.text?_ofText_escape, read_hint, Option.map_some]
  rw [Element.ofText, status]
  rfl

theorem readRows_html (locale : Locale) (hint : Hint) (summary : Summary) :
    readRows (html locale hint summary) = summary.records.map (rowOf hint) := by
  rw [readRows, pieces_html, elements_page, List.flatMap_singleton, elements_tableBody,
    List.filterMap_map, ← List.filterMap_eq_map]
  refine List.filterMap_congr fun record _ => ?_
  rw [Function.comp_apply, ofElement?_row]
  rfl

theorem text?_ofText_count (opening : String) (count : Nat) :
    (Element.ofText opening (toString count).toList).text? = some (toString count) := by
  have plain : escape (toString count).toList = (toString count).toList := by
    have unspecial : ∀ c : Char, c.isDigit → ∀ entity ∈ entities, c ≠ entity.1 := by
      intro c digit entity member same
      have none : ∀ entity ∈ entities, entity.1.isDigit = false := by decide
      rw [same, none entity member] at digit
      cases digit
    have digit : ∀ c ∈ (toString count).toList, c.isDigit := by
      rw [Nat.toString_eq_ofList_toDigits, String.toList_ofList]
      exact fun c member => Nat.isDigit_of_mem_toDigits (by decide) (by decide) member
    rw [escape_eq, List.flatMap_congr fun c member => entityOf_other (unspecial c (digit c member)),
      List.flatMap_singleton']
  rw [← plain, Element.text?_ofText_escape]

theorem countsIn_skip {before : List Piece}
    (unopened : ∀ tag ∈ tagsOf before, opens "span" tag = false) (rest : List Piece) :
    countsIn (before ++ rest) = countsIn rest := by
  rw [countsIn, elements_skip unopened, countsIn]

def Counted (cssClass : String) : Prop :=
  let opening := "<span class='count " ++ cssClass ++ "'>"
  opens "span" opening ∧ "count ".toList.isPrefixOf (classOf opening).toList

instance : DecidablePred Counted := fun _ => inferInstanceAs (Decidable (_ ∧ _))

theorem countsIn_counter {cssClass : String} (counted : Counted cssClass) (count : Nat)
    (label : String) (rest : List Piece) :
    countsIn (counterPieces cssClass count label ++ rest) = toString count :: countsIn rest := by
  have captioned : opens "span" "<span class='label'>" := by decide
  have caption : ¬isCount (.ofText "<span class='label'>" (escape label.toList)) := by
    show ¬"count ".toList.isPrefixOf (classOf "<span class='label'>").toList
    decide
  have unclosed : ∀ opening content, closingTag "span" ∉
      tagsOf (Element.ofText opening content).content := by simp [Element.ofText]
  have form : counterPieces cssClass count label ++ rest = [.tag "<div class='summary-item'>"] ++
      ((Element.ofText ("<span class='count " ++ cssClass ++ "'>") (toString count).toList).pieces
        "span" ++ ((Element.ofText "<span class='label'>" (escape label.toList)).pieces "span" ++
          ([.tag "</div>"] ++ rest))) := by
    simp only [counterPieces, List.append_assoc, List.cons_append, List.nil_append]
  have number : isCount (.ofText ("<span class='count " ++ cssClass ++ "'>")
    (toString count).toList) := counted.2
  rw [form, countsIn_skip (by decide), countsIn, elements_pieces counted.1 (unclosed _ _),
    elements_pieces captioned (unclosed _ _), elements_skip (by decide),
    List.filter_cons_of_pos number, List.filter_cons_of_neg caption,
    List.filterMap_cons_some (text?_ofText_count _ _), countsIn]

theorem countsIn_counters {list : List (String × Nat × String)}
    (counted : ∀ item ∈ list, Counted item.1) (rest : List Piece) :
    countsIn (list.flatMap (fun (cssClass, count, label) => counterPieces cssClass count label) ++
      rest) = list.map (toString ·.2.1) ++ countsIn rest := by
  induction list with
  | nil => rfl
  | cons item list ih =>
      rw [List.forall_mem_cons] at counted
      rw [List.flatMap_cons, List.append_assoc, countsIn_counter counted.1, ih counted.2]
      rfl

theorem readCounts_html (locale : Locale) (hint : Hint) (summary : Summary) :
    readCounts (html locale hint summary) =
      [summary.total, summary.passed, summary.compileFailed.length,
        summary.runtimeMismatch.length].map toString := by
  have head : ∀ tag ∈ tagsOf (headPieces locale ++ [.tag "<div class='summary-container'>"]),
      opens "span" tag = false := by
    simp only [headPieces, tagsOf_append, Element.tagsOf_ofText, tagsOf_tag, tagsOf_nil]
    decide +kernel
  have counted : ∀ item ∈ counterList locale summary, Counted item.1 := by
    have listed : ∀ cssClass ∈ ["", Outcome.cssClass .passed, Outcome.cssClass .compileFailed,
      Outcome.cssClass .runtimeMismatch], Counted cssClass := by decide +kernel
    exact fun item member => listed _ (List.mem_map_of_mem (f := Prod.fst) member)
  have heads : ∀ tag ∈ tagsOf ((headings locale).flatMap headingPieces),
      opens "span" tag = false := by
    simp only [headings, headingPieces, List.flatMap_cons, List.flatMap_nil, tagsOf_append,
      Element.tagsOf_ofText, tagsOf_nil]
    decide +kernel
  have rows : ∀ tag ∈ tagsOf (tableBody locale hint summary).content,
      opens "span" tag = false := by
    have each : ∀ outcome, ∀ tag ∈ rowTags outcome, opens "span" tag = false := by
      intro outcome
      cases outcome <;> decide +kernel
    rw [tagsOf_tableBody]
    intro tag member
    obtain ⟨outcome, _, inside⟩ := List.mem_flatMap.mp member
    exact each outcome tag inside
  have form : pagePieces locale hint summary =
      (headPieces locale ++ [.tag "<div class='summary-container'>"]) ++
        ((counterList locale summary).flatMap (fun (cssClass, count, label) =>
          counterPieces cssClass count label) ++
          (([.tag "</div>", .tag "<table>", .tag "<thead>", .tag "<tr>"] ++
            (headings locale).flatMap headingPieces ++ [.tag "</tr>", .tag "</thead>"] ++
            (tableBody locale hint summary).pieces "tbody" ++ trailingPieces) ++ [])) := by
    simp only [pagePieces, leadingPieces, counterListPieces, List.append_assoc, List.cons_append,
      List.nil_append, List.append_nil]
  rw [readCounts, pieces_html, form, countsIn_skip head, countsIn_counters counted, countsIn_skip]
  · rfl
  · simp only [tagsOf_append, List.forall_mem_append, Element.tagsOf_pieces, List.forall_mem_cons]
    have body : opens "span" "<tbody>" = false := by decide +kernel
    exact ⟨⟨⟨⟨by decide +kernel, heads⟩, by decide +kernel⟩, ⟨body, rows⟩, by decide +kernel⟩,
      by decide +kernel⟩

theorem rowsTelling_html (locale : Locale) (hint : Hint) (total : Nat) (records : List Record)
    (outcome : Outcome) :
    rowsTelling outcome (html locale hint (.ofRecords total records)) =
      (records.filter (·.outcome == outcome)).map (rowOf hint) := by
  have apart : ∀ one other : Outcome, (one.cssClass == other.cssClass) = (one == other) := by
    intro one other
    cases one <;> cases other <;> decide
  rw [rowsTelling, readRows_html, List.filter_map]
  exact congrArg _ (List.filter_congr fun record _ => apart record.outcome outcome)

variable {outcome : Outcome}

-- A case that did not pass has one command, whatever is made of it.
theorem told_commands (failed : outcome ≠ .passed) (locale : Locale) (hint : Hint) (total : Nat)
    (records : List Record) (told : String → String → String) :
    (rowsTelling outcome (html locale hint (.ofRecords total records))).flatMap
        (fun row => row.commands.map (told row.name)) =
      (Summary.namesOf outcome records).map fun name => told name (hint.command name) := by
  rw [rowsTelling_html, List.flatMap_map, Summary.namesOf, List.map_map, ← List.flatMap_pure_eq_map]
  refine List.flatMap_congr fun record member => ?_
  have same : record.outcome = outcome := by simpa using (List.mem_filter.mp member).2
  simp [rowOf, same, failed]

theorem entries_html (failed : outcome ≠ .passed) (locale : Locale) (hint : Hint) (total : Nat)
    (records : List Record) (heading : String → String) :
    (rowsTelling outcome (html locale hint (.ofRecords total records))).flatMap
        (·.entries heading) =
      (Summary.namesOf outcome records).map fun name =>
        heading name ++ "\n" ++ hint.command name :=
  told_commands failed locale hint total records fun name command => heading name ++ "\n" ++ command

theorem commands_html (failed : outcome ≠ .passed) (locale : Locale) (hint : Hint) (total : Nat)
    (records : List Record) :
    (rowsTelling outcome (html locale hint (.ofRecords total records))).flatMap (·.commands) =
      (Summary.namesOf outcome records).map hint.command := by
  simpa using told_commands failed locale hint total records fun _ command => command

theorem commands_perm (hint : Hint) (records : List Record) :
    ((records.map (rowOf hint)).flatMap (·.commands)).Perm
      ((Summary.namesOf .compileFailed records ++ Summary.namesOf .runtimeMismatch records).map
        hint.command) := by
  induction records with
  | nil => exact .nil
  | cons record records ih =>
      rw [List.map_cons, List.flatMap_cons]
      cases outcome : record.outcome with
      | passed => simpa [rowOf, Summary.namesOf, outcome] using ih
      | compileFailed => simpa [rowOf, Summary.namesOf, outcome] using ih
      | runtimeMismatch =>
          -- The command moves behind those of the cases that were not compiled.
          rw [List.map_append] at ih
          have moved := (ih.cons (hint.command record.name)).trans List.perm_middle.symm
          simpa [rowOf, Summary.namesOf, outcome] using moved

theorem console_agrees_with_page (locale : Locale) (hint : Hint) (total : Nat)
    (records : List Record) :
    let summary := Summary.ofRecords total records
    let page := html locale hint summary
    let errored := rowsTelling .compileFailed page
    let differed := rowsTelling .runtimeMismatch page
    let passed := (rowsTelling .passed page).length
    summaryLines locale hint summary = "" :: locale.phrases.passedTotal passed total ::
        (errored.flatMap (·.entries locale.phrases.compileErrored) ++
          differed.flatMap (·.entries locale.phrases.runtimeWrong)) ∧
      errored.flatMap (·.commands) ++ differed.flatMap (·.commands) =
        (summary.compileFailed ++ summary.runtimeMismatch).map hint.command ∧
      ((readRows page).flatMap (·.commands)).Perm
        (errored.flatMap (·.commands) ++ differed.flatMap (·.commands)) ∧
      readCounts page = [total, passed,
        (errored.flatMap (·.entries locale.phrases.compileErrored)).length,
        (differed.flatMap (·.entries locale.phrases.runtimeWrong)).length].map toString := by
  intro summary page errored differed passed
  have errored_ne : Outcome.compileFailed ≠ .passed := by decide
  have differed_ne : Outcome.runtimeMismatch ≠ .passed := by decide
  have tally : passed = (Summary.namesOf .passed records).length := by
    rw [Summary.namesOf, List.length_map, ← List.length_map (rowOf hint), ← rowsTelling_html]
  have commands : errored.flatMap (·.commands) ++ differed.flatMap (·.commands) =
      (summary.compileFailed ++ summary.runtimeMismatch).map hint.command := by
    rw [commands_html errored_ne, commands_html differed_ne, ← List.map_append]
    rfl
  rw [entries_html errored_ne, entries_html differed_ne, commands, tally]
  refine ⟨?_, rfl, ?_, ?_⟩
  · rw [← List.filterMap_eq_map, ← List.filterMap_eq_map]
    rfl
  · rw [readRows_html]
    exact commands_perm hint records
  · rw [readCounts_html, List.length_map, List.length_map]
    rfl

end Acceptance.Report
