import Acceptance.Hint
import Acceptance.Report.Seconds
import Acceptance.Summary
import Acceptance.Text.Replace

namespace Acceptance.Report

-- The report as one HTML page: counters, then a table with one row per record.

-- The characters with a meaning in markup, and what is written for them. The ampersand comes
-- first because the entities themselves hold one.
def entities : List (Char × String) :=
  [('&', "&amp;"), ('<', "&lt;"), ('>', "&gt;"), ('"', "&quot;"), ('\'', "&#39;")]

def escape (text : List Char) : List Char :=
  entities.foldl (fun text (c, entity) => Text.replaceAll [c] entity.toList text) text

def escaped (text : String) : String := String.ofList (escape text.toList)

def styleRules : List String := [
  "body\x7bfont-family:sans-serif;margin:2em;color:#222\x7d",
  "table\x7bborder-collapse:collapse;width:100%\x7d",
  "th,td\x7bborder:1px solid #ddd;padding:6px 10px;text-align:left\x7d",
  "th\x7bbackground:#f4f4f4\x7d",
  ".summary-container\x7bdisplay:flex;gap:2em;margin-bottom:1.5em\x7d",
  ".summary-item\x7bdisplay:flex;flex-direction:column\x7d",
  ".count\x7bfont-size:1.8em;font-weight:bold\x7d",
  ".status-passed\x7bcolor:#1a7f37\x7d",
  ".status-compile-failed\x7bcolor:#cf222e\x7d",
  ".status-runtime-mismatch\x7bcolor:#bf8700\x7d",
  ".duration-cell\x7btext-align:right\x7d",
  "code\x7bbackground:#f6f8fa;padding:2px 4px\x7d"
]

def pageHead (locale : Locale) : String :=
  "<!DOCTYPE html><html><head><meta charset='utf-8'><title>" ++
    escaped locale.phrases.reportTitle ++ "</title><style>" ++ String.join styleRules ++
    "</style></head><body><h1>" ++ escaped locale.phrases.reportHeading ++ "</h1>"

def counter (cssClass : String) (count : Nat) (label : String) : String :=
  "<div class='summary-item'><span class='count " ++ cssClass ++ "'>" ++ toString count ++
    "</span><span class='label'>" ++ escaped label ++ "</span></div>"

def outcomeCounter (locale : Locale) (outcome : Outcome) (count : Nat) : String :=
  counter outcome.cssClass count (locale.phrases.label outcome)

def counters (locale : Locale) (summary : Summary) : String :=
  "<div class='summary-container'>" ++ counter "" summary.total locale.phrases.totalLabel ++
    outcomeCounter locale .passed summary.passed ++
    outcomeCounter locale .compileFailed summary.compileFailed.length ++
    outcomeCounter locale .runtimeMismatch summary.runtimeMismatch.length ++ "</div>"

def headings (locale : Locale) : List String :=
  let phrases := locale.phrases
  [phrases.nameHeading, phrases.statusHeading, phrases.durationHeading, phrases.hintHeading]

def hintCell (hint : Hint) (record : Record) : String :=
  if record.outcome = .passed then ""
  else "<code>" ++ escaped (hint.command record.name) ++ "</code>"

def row (locale : Locale) (hint : Hint) (record : Record) : String :=
  "<tr><td>" ++ escaped record.name ++ "</td><td class='" ++ record.outcome.cssClass ++ "'>" ++
    escaped (locale.phrases.label record.outcome) ++ "</td><td class='duration-cell'>" ++
    String.ofList record.duration.hundredths ++ "s</td><td>" ++ hintCell hint record ++
    "</td></tr>"

def html (locale : Locale) (hint : Hint) (summary : Summary) : String :=
  pageHead locale ++ counters locale summary ++ "<table><thead><tr>" ++
    String.join ((headings locale).map fun heading => "<th>" ++ escaped heading ++ "</th>") ++
    "</tr></thead><tbody>" ++ String.join (summary.records.map (row locale hint)) ++
    "</tbody></table></body></html>"

end Acceptance.Report
