import SuffixLint.Group
import SuffixLint.Proofs.Stage

namespace SuffixLint

namespace Issue

def isError (issue : Issue) : Bool := issue.finding.isError

theorem severity_of_isError {issue : Issue} (h : issue.isError = true) :
    issue.severity = .error := by
  simpa [isError, Finding.isError, severity] using h

theorem severity_of_not_isError {issue : Issue} (h : issue.isError = false) :
    issue.severity = .warning := by
  have hne : issue.finding.severity ≠ .error := by
    simpa [isError, Finding.isError] using h
  rw [severity]
  cases hs : issue.finding.severity with
  | warning => rfl
  | error => exact absurd hs hne

end Issue

namespace IssueLog

/-- The counters of a log agree with its issues. -/
structure Accounts (log : IssueLog) : Prop where
  errors : log.errors = log.issues.toList.countP (·.isError)
  warnings : log.warnings = log.issues.toList.countP (!·.isError)

theorem Accounts.empty : Accounts {} := ⟨rfl, rfl⟩

theorem Accounts.add {log : IssueLog} (h : log.Accounts) (issue : Issue) :
    (log.add issue).Accounts := by
  cases he : issue.isError with
  | false =>
    have hs := Issue.severity_of_not_isError he
    constructor
    · simp [IssueLog.add, hs, he, h.errors]
    · simp [IssueLog.add, hs, he, h.warnings]
  | true =>
    have hs := Issue.severity_of_isError he
    constructor
    · simp [IssueLog.add, hs, he, h.errors]
    · simp [IssueLog.add, hs, he, h.warnings]

theorem Accounts.addAll {log : IssueLog} (h : log.Accounts) (issues : List Issue) :
    (log.addAll issues).Accounts := by
  induction issues generalizing log with
  | nil => exact h
  | cons issue rest ih => exact ih (h.add issue)

theorem Accounts.clearTaint {log : IssueLog} (h : log.Accounts) : log.clearTaint.Accounts :=
  ⟨h.errors, h.warnings⟩

theorem tainted_add (log : IssueLog) (issue : Issue) :
    (log.add issue).tainted = (log.tainted || issue.isError) := by
  cases he : issue.isError with
  | false => simp [add, Issue.severity_of_not_isError he]
  | true => simp [add, Issue.severity_of_isError he]

theorem tainted_addAll (log : IssueLog) (issues : List Issue) :
    (log.addAll issues).tainted = (log.tainted || issues.any (·.isError)) := by
  induction issues generalizing log with
  | nil => simp
  | cons issue rest ih =>
    have hcons : log.addAll (issue :: rest) = (log.add issue).addAll rest := rfl
    rw [hcons, ih, tainted_add, List.any_cons, Bool.or_assoc]

end IssueLog

namespace Group

def closingIssues (group : Group) (tainted : Bool) (line : Nat) (echo : Option Text) :
    List Issue :=
  if tainted || group.size < 2 then [] else issues group.entries.toList line echo

theorem mem_issues {entries : List Entry} {line : Nat} {echo : Option Text} {issue : Issue}
    (h : issue ∈ issues entries line echo) :
    issue.finding.stage = .group ∧ issue.line = line ∧ issue.echo = echo := by
  rw [issues] at h
  rcases List.mem_append.1 h with h | h
  · split at h
    · cases h
    · obtain rfl := List.mem_singleton.1 h
      exact ⟨rfl, rfl, rfl⟩
  · split at h
    · cases h
    · obtain rfl := List.mem_singleton.1 h
      exact ⟨rfl, rfl, rfl⟩

theorem mem_closingIssues {group : Group} {tainted : Bool} {line : Nat} {echo : Option Text}
    {issue : Issue} (h : issue ∈ group.closingIssues tainted line echo) :
    issue.finding.stage = .group ∧ issue.line = line ∧ issue.echo = echo := by
  rw [closingIssues] at h
  split at h
  · cases h
  · exact mem_issues h

theorem closingIssues_not_isError (group : Group) (tainted : Bool) (line : Nat)
    (echo : Option Text) : (group.closingIssues tainted line echo).any (·.isError) = false := by
  rw [List.any_eq_false]
  intro issue h
  rw [Issue.isError, Finding.not_isError_of_group (mem_closingIssues h).1]
  exact Bool.false_ne_true

theorem conclude_eq (group : Group) (log : IssueLog) (line : Nat) (echo : Option Text) :
    group.conclude log line echo =
      log.clearTaint.addAll (group.closingIssues log.tainted line echo) := by
  rw [conclude, closingIssues]
  split <;> rfl

@[simp] theorem issues_conclude (group : Group) (log : IssueLog) (line : Nat)
    (echo : Option Text) :
    (group.conclude log line echo).issues.toList =
      log.issues.toList ++ group.closingIssues log.tainted line echo := by
  rw [conclude_eq, IssueLog.issues_addAll, IssueLog.issues_clearTaint]

/-- The issues of a group are warnings, so the next group starts without a taint. -/
@[simp] theorem tainted_conclude (group : Group) (log : IssueLog) (line : Nat)
    (echo : Option Text) : (group.conclude log line echo).tainted = false := by
  rw [conclude_eq, IssueLog.tainted_addAll, closingIssues_not_isError]
  rfl

theorem accounts_conclude {log : IssueLog} (h : log.Accounts) (group : Group) (line : Nat)
    (echo : Option Text) : (group.conclude log line echo).Accounts := by
  rw [conclude_eq]
  exact h.clearTaint.addAll _

end Group
end SuffixLint
