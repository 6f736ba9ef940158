import SuffixLint.Command.Arguments
import SuffixLint.Report.Human
import SuffixLint.Report.Machine

namespace SuffixLint

/-- What a command leaves behind: its exit status and the lines it writes. -/
structure Outcome where
  exitCode : Nat := 0
  output : List Text := []
  errors : List Text := []
deriving DecidableEq, Repr

namespace Outcome

def failure (errors : List Text) : Outcome := { exitCode := 2, errors }

def written (lines : List Text) : Text := lines.flatMap (· ++ ['\n'])

end Outcome

def programVersion : Text := "0.1.0".toList

def errorLabel : Text := "error: ".toList

def noteLabel : Text := "note: ".toList

/-- The form of output for machines; every other choice gives the form for people. -/
def machineOutput : Text := "json".toList

/-- An error with its reason given once more after it, as the innermost cause. -/
def withCause (message reason : Text) : Text := message ++ partSeparator ++ reason

namespace ConfigError

def report (error : ConfigError) : Text :=
  let message := "resolving configuration: ".toList ++ error.message
  errorLabel ++
    match error with
    | .invalid _ _ => message
    | .badPattern _ _ => withCause message error.reason

end ConfigError

namespace Settings

def complaints (disk : Disk) (settings : Settings) : List Text :=
  if !settings.namesFiles then
    (if Config.isPresent disk settings.root then []
      else [noteLabel ++ "No pslint.toml found; using defaults.".toList]) ++
    [errorLabel ++
      "No registry file given. Pass a path (or '-') or set `files` in pslint.toml.".toList]
  else if settings.files.isEmpty then
    [errorLabel ++ "The `files` patterns in pslint.toml matched nothing under ".toList ++
      settings.root.text ++ ".".toList]
  else []

end Settings

namespace Batch

/-- The lines for people. With more than one registry, each report has the name above it. -/
def render (batch : Batch) : List Text :=
  let named := 1 < batch.reports.length + batch.failures.length
  batch.reports.flatMap fun report =>
    (if named then [report.file] else []) ++ report.render false

def complaints (batch : Batch) : List Text :=
  batch.failures.map fun error => errorLabel ++ error.message

def outcome (batch : Batch) (form : Text) : Outcome :=
  if form = machineOutput then
    { exitCode := batch.exitCode, output := [batch.toJson.pretty] }
  else { exitCode := batch.exitCode, output := batch.render, errors := batch.complaints }

end Batch

namespace SubmissionReview

/-- The outcome of checking submissions, in the chosen form. What is out of order counts only if the
check is wanted. -/
def outcome (report : SubmissionReview) (form : Text) (check : Bool) : Outcome :=
  { exitCode := if check && !report.isOrdered then 1 else 0
    output := if form = machineOutput then [report.toJson.pretty] else report.render }

end SubmissionReview

namespace Environment

def lint (environment : Environment) (choices : Choices) : Outcome :=
  match Settings.resolve environment.disk choices with
  | .error error => .failure [error.report]
  | .ok settings =>
    match settings.complaints environment.disk with
    | [] =>
      let checks : Checks := { order := settings.orderCheck }
      (Batch.ofOutcomes (environment.lintFiles settings.root checks settings.files)).outcome
        settings.output
    | complaints => .failure complaints

def review (environment : Environment) (choices : Choices) : Outcome :=
  match Settings.resolve environment.disk choices with
  | .error error => .failure [error.report]
  | .ok settings =>
    match settings.files, settings.complaints environment.disk with
    | target :: _, [] =>
      let name := environment.reportName settings.root target
      match environment.reviewFile target name with
      | .error error =>
        .failure [errorLabel ++
          withCause ("analyzing ".toList ++ name ++ partSeparator ++ error.message) error.reason]
      | .ok report => report.outcome settings.output settings.submissionCheck
    | _, complaints => .failure complaints

def run (environment : Environment) : Request → Outcome
  | .version => { output := [programVersion] }
  | .lint choices => environment.lint choices
  | .submissions choices => environment.review choices

end Environment

def usageLines : List Text :=
  ["Usage:",
   "  pslint version",
   "  pslint lint [--repo-root DIR] [--output human|json] [--check-order] [PATH]...",
   "  pslint submissions [--repo-root DIR] [--output human|json] [--check] [PATH]",
   "",
   "A registry file '-' is standard input. Without a path, the `files` of pslint.toml are taken."
  ].map (·.toList)

namespace UsageError

def message : UsageError → Text
  | .displayHelp | .displayVersion => []
  | .missingCommand => "no command given".toList
  | .unknownArgument => "unexpected argument".toList
  | .unknownCommand => "unrecognized command".toList
  | .missingValue => "an option lacks its value".toList
  | .unexpectedValue => "an option takes no value".toList
  | .repeatedOption => "an option is given twice".toList

def outcome (error : UsageError) : Outcome :=
  match error with
  | .displayHelp => { exitCode := error.exitCode, output := usageLines }
  | .displayVersion =>
    { exitCode := error.exitCode, output := ["pslint ".toList ++ programVersion] }
  | error =>
    { exitCode := error.exitCode, errors := (errorLabel ++ error.message) :: [] :: usageLines }

end UsageError

end SuffixLint
