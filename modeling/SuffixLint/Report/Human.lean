import SuffixLint.Submission

namespace SuffixLint

inductive Style where
  | bold
  | red
  | yellow
deriving DecidableEq, Repr

namespace Style

def sequence (parameter : String) : Text := '\x1B' :: '[' :: parameter.toList ++ ['m']

/-- A text in a style; colours give way to the default colour afterwards, bold to plain. -/
def apply (style : Style) (text : Text) : Text :=
  match style with
  | .bold => sequence "1" ++ text ++ sequence "0"
  | .red => sequence "31" ++ text ++ sequence "39"
  | .yellow => sequence "33" ++ text ++ sequence "39"

end Style

namespace Severity

def render (colored : Bool) (severity : Severity) : Text :=
  if colored then
    match severity with
    | .error => Style.bold.apply (Style.red.apply severity.word)
    | .warning => Style.bold.apply (Style.yellow.apply severity.word)
  else severity.word

end Severity

def partSeparator : Text := ": ".toList

namespace Issue

def render (colored : Bool) (issue : Issue) : Text :=
  Text.ofNat issue.line ++ partSeparator ++ issue.severity.render colored ++ partSeparator ++
    issue.message ++
    match issue.echo with
    | none => []
    | some echo => partSeparator ++ "'".toList ++ echo ++ "'".toList

end Issue

namespace Summary

def render (summary : Summary) : Text :=
  "errors=".toList ++ Text.ofNat summary.errors ++ " warnings=".toList ++
    Text.ofNat summary.warnings ++ " rules=".toList ++ Text.ofNat summary.rules ++
    " lines=".toList ++ Text.ofNat summary.lines

end Summary

namespace LintReport

def render (colored : Bool) (report : LintReport) : List Text :=
  report.issues.flatMap (fun issue => issue.render colored :: issue.details) ++
    [if colored then Style.bold.apply report.summary.render else report.summary.render]

end LintReport

namespace Inversion

def render (pair : Inversion) : Text :=
  '\t' :: Text.ofNat pair.line ++ ": '".toList ++ pair.before ++ "' before '".toList ++
    pair.after ++ "'".toList

end Inversion

namespace Submission

def heading (submission : Submission) : Text :=
  "The submission for ".toList ++ submission.title ++ " (line ".toList ++
    Text.ofNat submission.line ++ ") contains domains in an improper order, which are:".toList

def render (submission : Submission) : List Text :=
  if submission.inversions.isEmpty then []
  else submission.heading :: submission.inversions.map (·.render)

end Submission

namespace SubmissionReview

def titlesHeading : Text :=
  "The following submissions were entered in the wrong order:".toList

def totals (report : SubmissionReview) : Text :=
  "submissions=".toList ++ Text.ofNat report.submissions.length ++
    " misordered_titles=".toList ++ Text.ofNat report.titleInversions.length ++
    " misordered_domains=".toList ++ Text.ofNat report.inversionCount

def render (report : SubmissionReview) : List Text :=
  (if report.titleInversions.isEmpty then []
    else titlesHeading :: report.titleInversions.map (·.render)) ++
  report.submissions.flatMap (·.render) ++ [report.totals]

end SubmissionReview
end SuffixLint
