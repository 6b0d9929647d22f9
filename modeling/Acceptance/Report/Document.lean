import Acceptance.Json
import Acceptance.Report.Seconds
import Acceptance.Summary

namespace Acceptance.Report

-- The machine-readable report: the summary as a JSON document.

def recordJson (record : Record) : Json :=
  .object [("name", .text record.name), ("outcome", .text record.outcome.name),
    ("duration", .decimal record.duration.shortest)]

def summaryJson (summary : Summary) : Json :=
  .object [("total", .natural summary.total), ("passed", .natural summary.passed),
    ("compile_failed", .array (summary.compileFailed.map .text)),
    ("runtime_mismatch", .array (summary.runtimeMismatch.map .text)),
    ("records", .array (summary.records.map recordJson))]

def json (summary : Summary) : String := (summaryJson summary).render

end Acceptance.Report
