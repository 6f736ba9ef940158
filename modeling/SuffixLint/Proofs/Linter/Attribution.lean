import SuffixLint.Proofs.Line.Numbering
import SuffixLint.Proofs.Linter.Run

namespace SuffixLint

namespace Finding

/-- A sort of findings that leaves out those about layout and those about groups. -/
def IsInner (P : Finding → Bool) : Prop :=
  ∀ finding, P finding = true → finding.stage ≠ .layout ∧ finding.stage ≠ .group

theorem isInner_isOwn : IsInner isOwn := by
  intro finding h
  obtain ⟨hlayout, hgroup, _⟩ := stage_ne_of_isOwn h
  exact ⟨hlayout, hgroup⟩

end Finding

namespace Linter

variable {P : Finding → Bool} (linter : Linter) (line : Line) (lines : List Line)

/-- Of what a line adds, findings of such a sort are about the line in itself. -/
theorem filter_lineIssues (inner : Finding.IsInner P) :
    (linter.lineIssues line).filter (P ·.finding) =
      ((linter.ownFindings line).filter P).map line.issue := by
  have hspace : line.spaceIssues.filter (P ·.finding) = [] := by
    rw [List.filter_eq_nil_iff]
    intro issue h hsort
    rw [Line.mem_spaceIssues h] at hsort
    exact (inner _ hsort).1 rfl
  have hgroup : (linter.groupIssues line).filter (P ·.finding) = [] := by
    rw [List.filter_eq_nil_iff]
    intro issue h hsort
    exact (inner _ hsort).2 (mem_boundaryIssues (mem_groupIssues.1 h).2).1
  rw [lineIssues, List.filter_append, List.filter_append, hspace, hgroup, List.filter_map]
  rfl

theorem filter_remainder (inner : Finding.IsInner P) :
    (linter.remainder lines).filter (P ·.finding) =
      (linter.trace lines).filter (P ·.finding) ++
        (linter.run lines).closingIssues.filter (P ·.finding) := by
  have hboundary : ((linter.run lines).boundaryIssues (linter.run lines).lines none).filter
      (P ·.finding) = [] := by
    rw [List.filter_eq_nil_iff]
    intro issue h hsort
    exact (inner _ hsort).2 (mem_boundaryIssues h).1
  rw [remainder, List.filter_append, List.filter_append, hboundary, List.append_nil]

theorem filter_isOwn_lineIssues :
    (linter.lineIssues line).filter (·.finding.isOwn) =
      (linter.ownFindings line).map line.issue := by
  have hown : (linter.ownFindings line).filter (·.isOwn) = linter.ownFindings line := by
    rw [List.filter_eq_self]
    intro finding hf
    exact isOwn_ownFindings hf
  rw [filter_lineIssues _ _ Finding.isInner_isOwn, hown]

theorem filter_isOwn_remainder :
    (linter.remainder lines).filter (·.finding.isOwn) =
      (linter.trace lines).filter (·.finding.isOwn) := by
  have hclosing : (linter.run lines).closingIssues.filter (·.finding.isOwn) = [] := by
    rw [List.filter_eq_nil_iff]
    intro issue h hown
    exact (Finding.stage_ne_of_isOwn hown).2.2 (stage_of_mem_closingIssues h)
  rw [filter_remainder _ _ Finding.isInner_isOwn, hclosing, List.append_nil]

end Linter

def Line.owns (line : Line) (issue : Issue) : Bool :=
  issue.line == line.number && issue.finding.isOwn

theorem Line.owns_iff {line : Line} {issue : Issue} :
    line.owns issue = true ↔ issue.line = line.number ∧ issue.finding.isOwn = true := by
  rw [owns, Bool.and_eq_true, beq_iff_eq]

namespace Linter

variable {linter : Linter} {line : Line} {lines : List Line}

theorem filter_line_trace_of_ne (h : ∀ other ∈ lines, other.number ≠ line.number) :
    (linter.trace lines).filter (·.line == line.number) = [] := by
  rw [List.filter_eq_nil_iff]
  intro issue hm hline
  obtain ⟨other, hother, hnumber⟩ := line_of_mem_trace hm
  exact h other hother (hnumber.symm.trans (beq_iff_eq.1 hline))

theorem filter_line_trace {before after : List Line}
    (increasing : Line.Increasing (before ++ line :: after)) :
    (linter.trace (before ++ line :: after)).filter (·.line == line.number) =
      (linter.run before).lineIssues line := by
  obtain ⟨hbefore, hafter⟩ := increasing.number_ne_middle
  have hline : ((linter.run before).lineIssues line).filter (·.line == line.number) =
      (linter.run before).lineIssues line := by
    rw [List.filter_eq_self]
    intro issue h
    rw [line_of_mem_lineIssues h]
    exact beq_self_eq_true _
  rw [trace_append, trace, List.filter_append, List.filter_append,
    filter_line_trace_of_ne hbefore, filter_line_trace_of_ne hafter, hline, List.nil_append,
    List.append_nil]

theorem lines_run_ofData (checks : Checks) (data : Bytes) :
    ((start checks).run (Line.ofData data)).lines = (Line.ofData data).length := by
  rw [lines_run, Line.ofData, Line.length_numberFrom]
  exact Line.lastNumber_numberFrom_one (Line.split data)

end Linter

namespace LintReport

theorem lines_ofBytes (data : Bytes) (file : Text) (checks : Checks) :
    (ofBytes data file checks).summary.lines = (Line.ofData data).length := by
  rw [ofBytes, lines_ofLines, Linter.lines_run_ofData]

variable {lines : List Line} (file : Text) (checks : Checks) {before after : List Line}
  {line : Line}

theorem filter_issuesOn (P : Finding → Bool) (increasing : Line.Increasing lines)
    (he : lines = before ++ line :: after)
    (hend : ((Linter.start checks).remainder lines).filter (P ·.finding) =
      ((Linter.start checks).trace lines).filter (P ·.finding)) :
    ((ofLines lines file checks).issuesOn line.number).filter (P ·.finding) =
      (((Linter.start checks).run before).lineIssues line).filter (P ·.finding) := by
  rw [issuesOn, List.filter_comm, issues_ofLines, hend, List.filter_comm]
  subst he
  rw [Linter.filter_line_trace increasing]

/-- Among the issues of a report, those about a line in itself are what the line was reported for
when it was read. -/
theorem filter_owns_issues (increasing : Line.Increasing lines)
    (he : lines = before ++ line :: after) :
    (ofLines lines file checks).issues.filter line.owns =
      (((Linter.start checks).run before).ownFindings line).map line.issue := by
  have howns : (ofLines lines file checks).issues.filter line.owns =
      ((ofLines lines file checks).issuesOn line.number).filter (·.finding.isOwn) := by
    rw [issuesOn, List.filter_comm, List.filter_filter]
    rfl
  rw [howns,
    filter_issuesOn file checks Finding.isOwn increasing he (Linter.filter_isOwn_remainder _ _),
    Linter.filter_isOwn_lineIssues]

theorem exists_own_issue_iff (increasing : Line.Increasing lines)
    (he : lines = before ++ line :: after) (P : Finding → Prop) :
    (∃ issue ∈ (ofLines lines file checks).issues,
        issue.line = line.number ∧ issue.finding.isOwn = true ∧ P issue.finding) ↔
      ∃ finding ∈ ((Linter.start checks).run before).ownFindings line, P finding := by
  have hmem (issue : Issue) :
      issue ∈ (ofLines lines file checks).issues ∧ line.owns issue = true ↔
        issue ∈ (((Linter.start checks).run before).ownFindings line).map line.issue := by
    rw [← filter_owns_issues file checks increasing he, List.mem_filter]
  constructor
  · rintro ⟨issue, hm, hline, hown, hP⟩
    obtain ⟨finding, hf, rfl⟩ :=
      List.mem_map.1 ((hmem issue).1 ⟨hm, Line.owns_iff.2 ⟨hline, hown⟩⟩)
    exact ⟨finding, hf, hP⟩
  · rintro ⟨finding, hf, hP⟩
    obtain ⟨hm, howns⟩ := (hmem (line.issue finding)).2 (List.mem_map_of_mem hf)
    obtain ⟨hline, hown⟩ := Line.owns_iff.1 howns
    exact ⟨line.issue finding, hm, hline, hown, hP⟩

end LintReport
end SuffixLint
