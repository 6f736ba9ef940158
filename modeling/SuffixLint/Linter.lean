import SuffixLint.Group
import SuffixLint.Line.Reader
import SuffixLint.Rule.Check
import SuffixLint.Section.History

namespace SuffixLint

structure Checks where
  order : Bool := false
deriving DecidableEq, Repr

structure LintReport where
  file : Text
  issues : List Issue
  summary : Summary
deriving DecidableEq, Repr

namespace LintReport

def fails (report : LintReport) : Bool := 0 < report.summary.errors

def findings (report : LintReport) : List Finding := report.issues.map (·.finding)

def issuesOn (report : LintReport) (line : Nat) : List Issue :=
  report.issues.filter (·.line == line)

end LintReport

structure Linter where
  checks : Checks
  sections : SectionHistory := {}
  registry : Registry := .empty
  group : Group := {}
  log : IssueLog := {}
  lines : Nat := 0
  rules : Nat := 0

namespace Linter

def start (checks : Checks) : Linter := { checks }

def note (linter : Linter) (issue : Issue) : Linter :=
  { linter with log := linter.log.add issue }

def noteAll (linter : Linter) (issues : List Issue) : Linter :=
  { linter with log := linter.log.addAll issues }

def endGroup (linter : Linter) (line : Nat) (echo : Option Text) : Linter :=
  if linter.checks.order then
    { linter with
      group := {}
      log := linter.group.conclude linter.log line echo }
  else linter

def noteOuterSpace (linter : Linter) (line : Line) : Linter :=
  let linter := { linter with lines := line.number }
  if line.hasOuterSpace then linter.note (line.issue .outerSpace) else linter

def takeComment (linter : Linter) (line : Line) : Linter :=
  let linter := linter.endGroup line.number (some line.shown)
  let (sections, finding) := linter.sections.takeComment line.text
  { linter with sections }.noteAll (finding.toList.map line.issue)

def takeRule (linter : Linter) (line : Line) : Linter :=
  let region := linter.sections.current
  let outside : List Finding := if region = .outside then [.ruleOutsideSection] else []
  let verdict := Rule.check linter.registry region line
  { linter with
    rules := linter.rules + 1
    group := linter.group.push line.text
    registry := verdict.registry }.noteAll ((outside ++ verdict.findings).map line.issue)

def step (linter : Linter) (line : Line) : Linter :=
  let linter := linter.noteOuterSpace line
  match line.kind with
  | .blank => linter.endGroup line.number none
  | .comment => linter.takeComment line
  | .rule => linter.takeRule line

def run (linter : Linter) (lines : List Line) : Linter := lines.foldl step linter

/-- After the last line: the last group ends there, and then the sections are tallied. -/
def toReport (linter : Linter) (file : Text) : LintReport :=
  let linter := linter.endGroup linter.lines none
  let closing := linter.sections.closingFindings.map fun finding =>
    ({ line := linter.lines, finding, echo := none } : Issue)
  let linter := linter.noteAll closing
  { file
    issues := linter.log.issues.toList
    summary := linter.log.summary linter.rules linter.lines }

@[simp] theorem run_nil (linter : Linter) : linter.run [] = linter := rfl

@[simp] theorem run_cons (linter : Linter) (line : Line) (rest : List Line) :
    linter.run (line :: rest) = (linter.step line).run rest := rfl

theorem run_append (linter : Linter) (a b : List Line) :
    linter.run (a ++ b) = (linter.run a).run b := by
  simp [run]

end Linter

def LintReport.ofLines (lines : List Line) (file : Text) (checks : Checks) : LintReport :=
  ((Linter.start checks).run lines).toReport file

def standardInput : Text := "-".toList

def LintReport.ofBytes (data : Bytes) (file : Text) (checks : Checks) : LintReport :=
  LintReport.ofLines (Line.ofData data) file checks

def LintReport.ofText (text : Text) (checks : Checks) : LintReport :=
  LintReport.ofBytes (Utf8.encode text) standardInput checks

structure ReadFailure where
  file : Text
  line : Nat
  reason : Text
deriving DecidableEq, Repr

/-- The report on a registry that is read from a stream; there is none if reading breaks off. -/
def LintReport.ofStream? (stream : Stream) (file : Text) (checks : Checks) :
    Except ReadFailure LintReport :=
  match stream.failure with
  | some reason => .error { file, line := stream.lines.length, reason }
  | none => .ok (LintReport.ofLines stream.lines file checks)

end SuffixLint
