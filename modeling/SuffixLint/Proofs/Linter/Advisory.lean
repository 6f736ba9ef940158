import SuffixLint.Proofs.Linter.Run

namespace SuffixLint

namespace Finding

theorem ne_group_of_isOwn {finding : Finding} (h : finding.isOwn = true) :
    finding.stage ≠ .group :=
  (stage_ne_of_isOwn h).2.1

end Finding

namespace Linter

/-- Two linters know the same of sections and rules, whatever they know of groups. -/
structure Agrees (a b : Linter) : Prop where
  sections : b.sections = a.sections
  registry : b.registry = a.registry
  lines : b.lines = a.lines

theorem agrees_start (checks checks' : Checks) : Agrees (start checks) (start checks') :=
  ⟨rfl, rfl, rfl⟩

variable {a b : Linter}

theorem Agrees.step (h : Agrees a b) (line : Line) : Agrees (a.step line) (b.step line) where
  sections := by rw [sections_step, sections_step, h.sections]
  registry := by rw [registry_step, registry_step, h.sections, h.registry]
  lines := by rw [lines_step, lines_step]

theorem Agrees.run (h : Agrees a b) (lines : List Line) : Agrees (a.run lines) (b.run lines) := by
  induction lines generalizing a b with
  | nil => exact h
  | cons line rest ih => exact ih (h.step line)

theorem Agrees.ownFindings (h : Agrees a b) (line : Line) :
    b.ownFindings line = a.ownFindings line := by
  simp only [Linter.ownFindings, markerFindings, ruleFindings, h.sections, h.registry]

theorem Agrees.closingIssues (h : Agrees a b) : b.closingIssues = a.closingIssues := by
  rw [Linter.closingIssues, Linter.closingIssues, h.sections, h.lines]

theorem filter_not_group_lineIssues (linter : Linter) (line : Line) :
    (linter.lineIssues line).filter (·.finding.stage ≠ .group) =
      line.spaceIssues ++ (linter.ownFindings line).map line.issue := by
  have hspace : line.spaceIssues.filter (·.finding.stage ≠ .group) = line.spaceIssues := by
    rw [List.filter_eq_self]
    intro issue h
    rw [Line.mem_spaceIssues h]
    rfl
  have hgroup : (linter.groupIssues line).filter (·.finding.stage ≠ .group) = [] := by
    rw [List.filter_eq_nil_iff]
    intro issue h hstage
    exact of_decide_eq_true hstage (mem_boundaryIssues (mem_groupIssues.1 h).2).1
  have hown : ((linter.ownFindings line).map line.issue).filter (·.finding.stage ≠ .group) =
      (linter.ownFindings line).map line.issue := by
    rw [List.filter_eq_self]
    intro issue h
    obtain ⟨finding, hf, rfl⟩ := List.mem_map.1 h
    exact decide_eq_true (Finding.ne_group_of_isOwn (isOwn_ownFindings hf))
  rw [lineIssues, List.filter_append, List.filter_append, hspace, hgroup, hown, List.append_nil]

theorem Agrees.filter_trace (h : Agrees a b) (lines : List Line) :
    (b.trace lines).filter (·.finding.stage ≠ .group) =
      (a.trace lines).filter (·.finding.stage ≠ .group) := by
  induction lines generalizing a b with
  | nil => rfl
  | cons line rest ih =>
    rw [trace, trace, List.filter_append, List.filter_append, ih (h.step line),
      filter_not_group_lineIssues, filter_not_group_lineIssues, h.ownFindings]

theorem filter_not_group_remainder (linter : Linter) (lines : List Line) :
    (linter.remainder lines).filter (·.finding.stage ≠ .group) =
      (linter.trace lines).filter (·.finding.stage ≠ .group) ++
        (linter.run lines).closingIssues := by
  have hboundary : ((linter.run lines).boundaryIssues (linter.run lines).lines none).filter
      (·.finding.stage ≠ .group) = [] := by
    rw [List.filter_eq_nil_iff]
    intro issue h hstage
    exact of_decide_eq_true hstage (mem_boundaryIssues h).1
  have hclosing : (linter.run lines).closingIssues.filter (·.finding.stage ≠ .group) =
      (linter.run lines).closingIssues := by
    rw [List.filter_eq_self]
    intro issue h
    rw [stage_of_mem_closingIssues h]
    rfl
  rw [remainder, List.filter_append, List.filter_append, hboundary, hclosing, List.append_nil]

theorem Agrees.filter_remainder (h : Agrees a b) (lines : List Line) :
    (b.remainder lines).filter (·.finding.stage ≠ .group) =
      (a.remainder lines).filter (·.finding.stage ≠ .group) := by
  rw [filter_not_group_remainder, filter_not_group_remainder, h.filter_trace,
    (h.run lines).closingIssues]

theorem stage_ne_group_of_unordered {linter : Linter} (unordered : linter.checks.order = false)
    {lines : List Line} {issue : Issue} (h : issue ∈ linter.remainder lines) :
    issue.finding.stage ≠ .group := by
  intro hstage
  have hnone {before : List Line} {number : Nat} {echo : Option Text} :
      issue ∉ (linter.run before).boundaryIssues number echo := by
    intro hm
    rw [boundaryIssues_of_unordered] at hm
    · cases hm
    · rw [checks_run]
      exact unordered
  rcases List.mem_append.1 h with h | h
  · rcases List.mem_append.1 h with h | h
    · obtain ⟨before, line, _, _, hm⟩ := mem_trace.1 h
      rcases mem_lineIssues hm with rfl | hm | ⟨finding, hf, rfl⟩
      · cases hstage
      · exact hnone hm
      · exact Finding.ne_group_of_isOwn (isOwn_ownFindings hf) hstage
    · exact hnone h
  · cases (stage_of_mem_closingIssues h).symm.trans hstage

end Linter

namespace LintReport

theorem filter_not_group_issues (lines : List Line) (file : Text) (checks : Checks) :
    (ofLines lines file checks).issues.filter (·.finding.stage ≠ .group) =
      (ofLines lines file { order := false }).issues := by
  have hplain : (ofLines lines file { order := false }).issues.filter
      (·.finding.stage ≠ .group) = (ofLines lines file { order := false }).issues := by
    rw [List.filter_eq_self]
    intro issue h
    rw [issues_ofLines] at h
    exact decide_eq_true (Linter.stage_ne_group_of_unordered rfl h)
  rw [← hplain, issues_ofLines, issues_ofLines]
  exact (Linter.agrees_start { order := false } checks).filter_remainder lines

theorem countP_not_group (issues : List Issue) :
    issues.countP (·.isError) =
        (issues.filter (·.finding.stage ≠ .group)).countP (·.isError) ∧
      issues.countP (!·.isError) =
        (issues.filter (·.finding.stage ≠ .group)).countP (!·.isError) +
          (issues.filter (·.finding.stage = .group)).length := by
  have hsplit (P : Issue → Bool) : issues.countP P =
      (issues.filter (·.finding.stage ≠ .group)).countP P +
        (issues.filter (·.finding.stage = .group)).countP P := by
    rw [List.countP_eq_countP_filter_add issues P (·.finding.stage ≠ .group)]
    simp only [decide_not, Bool.not_not]
  have hgroup : ∀ issue ∈ issues.filter (·.finding.stage = .group), issue.isError = false := by
    intro issue h
    exact Finding.not_isError_of_group (of_decide_eq_true (List.mem_filter.1 h).2)
  have hnone : (issues.filter (·.finding.stage = .group)).countP (·.isError) = 0 := by
    rw [List.countP_eq_zero]
    intro issue h
    rw [hgroup issue h]
    exact Bool.false_ne_true
  have hall : (issues.filter (·.finding.stage = .group)).countP (!·.isError) =
      (issues.filter (·.finding.stage = .group)).length := by
    rw [List.countP_eq_length]
    intro issue h
    rw [hgroup issue h]
    rfl
  refine ⟨?_, ?_⟩
  · rw [hsplit, hnone, Nat.add_zero]
  · rw [hsplit, hall]

variable (lines : List Line) (file : Text) (checks : Checks)

theorem errors_of_checks :
    (ofLines lines file checks).summary.errors =
      (ofLines lines file { order := false }).summary.errors := by
  rw [errors_ofLines, errors_ofLines, (countP_not_group _).1, filter_not_group_issues]

theorem warnings_of_checks :
    (ofLines lines file checks).summary.warnings =
      (ofLines lines file { order := false }).summary.warnings +
        ((ofLines lines file checks).issues.filter (·.finding.stage = .group)).length := by
  rw [warnings_ofLines, warnings_ofLines, (countP_not_group _).2, filter_not_group_issues]

theorem lines_of_checks :
    (ofLines lines file checks).summary.lines =
      (ofLines lines file { order := false }).summary.lines := by
  rw [lines_ofLines, lines_ofLines]
  exact ((Linter.agrees_start _ _).run lines).lines

/-- Checking groups adds warnings about groups to a report and changes nothing else in it. -/
theorem order_advisory (data : Bytes) (file : Text) :
    let plain := ofBytes data file { order := false }
    let checked := ofBytes data file { order := true }
    checked.issues.filter (·.finding.stage ≠ .group) = plain.issues ∧
      (∀ issue ∈ plain.issues, issue.finding.stage ≠ .group) ∧
      checked.summary.errors = plain.summary.errors ∧
      checked.summary.rules = plain.summary.rules ∧
      checked.summary.lines = plain.summary.lines ∧
      checked.fails = plain.fails ∧
      checked.summary.warnings = plain.summary.warnings +
        (checked.issues.filter (·.finding.stage = .group)).length := by
  have herrors := errors_of_checks (Line.ofData data) file { order := true }
  have hrules : (ofBytes data file { order := true }).summary.rules =
      (ofBytes data file { order := false }).summary.rules := by
    rw [ofBytes, ofBytes, rules_ofLines, rules_ofLines]
  refine ⟨filter_not_group_issues _ _ _, ?_, herrors, hrules, lines_of_checks _ _ _, ?_,
    warnings_of_checks _ _ _⟩
  · intro issue h
    rw [ofBytes, issues_ofLines] at h
    exact Linter.stage_ne_group_of_unordered rfl h
  · rw [fails, fails, ofBytes, herrors]
    rfl

end LintReport
end SuffixLint
