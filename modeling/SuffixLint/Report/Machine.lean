import SuffixLint.Batch
import SuffixLint.Json

namespace SuffixLint

namespace Issue

/-- An issue as JSON. A missing echo and an empty list of details are left out. -/
def toJson (issue : Issue) : Json :=
  .ofMembers ([
    ("line", .number issue.line),
    ("rule", .string issue.code),
    ("severity", .string issue.severity.word),
    ("message", .string issue.message)] ++
    issue.echo.toList.map (fun echo => ("text", .string echo)) ++
    if issue.details.isEmpty then [] else [("details", .array (issue.details.map .string))])

end Issue

namespace Summary

def toJson (summary : Summary) : Json :=
  .ofMembers [
    ("errors", .number summary.errors),
    ("warnings", .number summary.warnings),
    ("rules", .number summary.rules),
    ("lines", .number summary.lines)]

end Summary

namespace LintReport

def toJson (report : LintReport) : Json :=
  .ofMembers [
    ("file", .string report.file),
    ("issues", .array (report.issues.map (·.toJson))),
    ("summary", report.summary.toJson)]

end LintReport

namespace Batch

def summaryJson (batch : Batch) : Json :=
  .ofMembers [
    ("errors", .number batch.errors),
    ("warnings", .number batch.warnings),
    ("files", .number batch.reports.length),
    ("failed", .number batch.failures.length)]

def toJson (batch : Batch) : Json :=
  .ofMembers [
    ("results", .array (batch.reports.map (·.toJson))),
    ("failures", .array (batch.failures.map fun error => .string error.message)),
    ("summary", batch.summaryJson)]

end Batch

namespace Inversion

def toJson (pair : Inversion) : Json :=
  .ofMembers [
    ("line", .number pair.line),
    ("before", .string pair.before),
    ("after", .string pair.after)]

end Inversion

namespace Submission

def toJson (submission : Submission) : Json :=
  .ofMembers [
    ("title", .string submission.title),
    ("line", .number submission.line),
    ("rules", .number submission.rules),
    ("misordered", .array (submission.inversions.map (·.toJson)))]

end Submission

namespace SubmissionReview

def toJson (report : SubmissionReview) : Json :=
  .ofMembers [
    ("file", .string report.file),
    ("misordered_titles", .array (report.titleInversions.map (·.toJson))),
    ("submissions", .array (report.submissions.map (·.toJson)))]

end SubmissionReview
end SuffixLint
