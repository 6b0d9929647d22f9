import Acceptance.Hint
import Acceptance.Style
import Acceptance.Summary

namespace Acceptance.Report

-- The lines printed while a run goes on and when it ends.

-- The lines of the final summary: an empty one, the count, one entry per failing case.
def summaryLines (locale : Locale) (hint : Hint) (summary : Summary) : List String :=
  "" :: locale.phrases.passedTotal summary.passed summary.total ::
    (summary.compileFailed.filterMap (hint.line? locale .compileFailed) ++
      summary.runtimeMismatch.filterMap (hint.line? locale .runtimeMismatch))

def shownSummary (shown : Presentation) (hint : Hint) (summary : Summary) : List String :=
  let count := if summary.allPassed then Style.boldGreen else Style.boldYellow
  match summaryLines shown.locale hint summary with
  | first :: passed :: entries =>
      first :: shown.paint count passed :: entries.map (shown.paint .red)
  | lines => lines

def discoveryLine (shown : Presentation) (count : Nat) (root : String) : String :=
  shown.paint .cyan (shown.locale.phrases.discovered count root)

def bannerLine (shown : Presentation) (name : String) : String :=
  shown.paint .blue (shown.locale.phrases.caseBanner name)

def outcomeLine (shown : Presentation) (record : Record) : String :=
  let phrases := shown.locale.phrases
  match record.outcome with
  | .passed => shown.paint .green phrases.casePassed
  | .compileFailed => shown.paint .red phrases.caseCompileFailed
  | .runtimeMismatch => shown.paint .red (phrases.caseMismatch record.name)

end Acceptance.Report
