import SuffixLint.Finding

namespace SuffixLint

structure Summary where
  errors : Nat
  warnings : Nat
  rules : Nat
  lines : Nat
deriving DecidableEq, Repr

structure IssueLog where
  issues : Array Issue := #[]
  errors : Nat := 0
  warnings : Nat := 0
  tainted : Bool := false
deriving DecidableEq, Repr

namespace IssueLog

/-- Adds an issue. An error taints the group of rules under way, since a rule that is wrong in
itself has no place to be sorted to. -/
def add (log : IssueLog) (issue : Issue) : IssueLog :=
  let issues := log.issues.push issue
  match issue.severity with
  | .warning => { log with issues, warnings := log.warnings + 1 }
  | .error => { log with issues, errors := log.errors + 1, tainted := true }

def addAll (log : IssueLog) (issues : List Issue) : IssueLog := issues.foldl add log

def clearTaint (log : IssueLog) : IssueLog := { log with tainted := false }

def summary (log : IssueLog) (rules lines : Nat) : Summary :=
  { errors := log.errors, warnings := log.warnings, rules, lines }

@[simp] theorem issues_add (log : IssueLog) (issue : Issue) :
    (log.add issue).issues.toList = log.issues.toList ++ [issue] := by
  unfold add
  split <;> simp

@[simp] theorem issues_addAll (log : IssueLog) (issues : List Issue) :
    (log.addAll issues).issues.toList = log.issues.toList ++ issues := by
  induction issues generalizing log with
  | nil => simp [addAll]
  | cons issue rest ih => simpa [addAll] using ih (log.add issue)

@[simp] theorem addAll_nil (log : IssueLog) : log.addAll [] = log := rfl

@[simp] theorem issues_clearTaint (log : IssueLog) : log.clearTaint.issues = log.issues := rfl

@[simp] theorem tainted_clearTaint (log : IssueLog) : log.clearTaint.tainted = false := rfl

end IssueLog
end SuffixLint
