import SuffixLint.FileSystem.Disk
import SuffixLint.Submission

namespace SuffixLint

inductive FileError where
  | unopened (path : Path) (error : SystemError)
  | brokenOff (failure : ReadFailure)
deriving DecidableEq, Repr

namespace ReadFailure

def subject (failure : ReadFailure) : Text :=
  "read failed in ".toList ++ failure.file ++ " after line ".toList ++ Text.ofNat failure.line

end ReadFailure

namespace FileError

def subject : FileError → Text
  | .unopened path _ => "cannot open ".toList ++ path.text
  | .brokenOff failure => failure.subject

def reason : FileError → Text
  | .unopened _ error => error.message
  | .brokenOff failure => failure.reason

def message (error : FileError) : Text := error.subject ++ ": ".toList ++ error.reason

end FileError

structure Environment where
  disk : Disk
  input : Bytes := []

namespace Environment

/-- Opens what a path denotes. The name of standard input denotes that. -/
def openPath (environment : Environment) (path : Path) : Except FileError Stream :=
  if path.text = standardInput then .ok (Stream.ofBytes environment.input)
  else
    match environment.disk.openFile path with
    | .error error => .error (.unopened path error)
    | .ok stream => .ok stream

/-- What is left after a path has been read; standard input can be read once. -/
def after (environment : Environment) (path : Path) : Environment :=
  if path.text = standardInput then { environment with input := [] } else environment

/-- The name of a file in reports: relative to the root of the repository if it is below that, and
as given otherwise. The current directory is always known here: a system that cannot name it, where
relative paths would be compared as they are, is left out. -/
def reportName (environment : Environment) (root path : Path) : Text :=
  if path.text = standardInput then standardInput
  else
    match (environment.disk.absolute path).relative? (environment.disk.absolute root) with
    | some components =>
      if components.head? = some .parent then path.text else (Path.ofComponents components).text
    | none => path.text

def lintFile (environment : Environment) (root : Path) (checks : Checks) (path : Path) :
    Except FileError LintReport :=
  match environment.openPath path with
  | .error error => .error error
  | .ok stream =>
    match LintReport.ofStream? stream (environment.reportName root path) checks with
    | .error failure => .error (.brokenOff failure)
    | .ok report => .ok report

def lintFiles (environment : Environment) (root : Path) (checks : Checks) :
    List Path → List (Except FileError LintReport)
  | [] => []
  | path :: rest =>
    environment.lintFile root checks path ::
      (environment.after path).lintFiles root checks rest

def reviewFile (environment : Environment) (path : Path) (name : Text) :
    Except FileError SubmissionReview :=
  match environment.openPath path with
  | .error error => .error error
  | .ok stream =>
    match SubmissionReview.ofStream? stream name with
    | .error failure => .error (.brokenOff failure)
    | .ok report => .ok report

end Environment

structure Batch where
  reports : List LintReport
  failures : List FileError
deriving DecidableEq, Repr

namespace Batch

def ofOutcomes : List (Except FileError LintReport) → Batch
  | [] => ⟨[], []⟩
  | .ok report :: rest =>
    let batch := ofOutcomes rest
    { batch with reports := report :: batch.reports }
  | .error error :: rest =>
    let batch := ofOutcomes rest
    { batch with failures := error :: batch.failures }

def errors (batch : Batch) : Nat := (batch.reports.map (·.summary.errors)).foldl (· + ·) 0

def warnings (batch : Batch) : Nat := (batch.reports.map (·.summary.warnings)).foldl (· + ·) 0

def fails (batch : Batch) : Bool := batch.reports.any (·.fails)

/-- The exit status of a run: failures to read come before errors found. -/
def exitCode (batch : Batch) : Nat :=
  if !batch.failures.isEmpty then 2 else if batch.fails then 1 else 0

end Batch
end SuffixLint
