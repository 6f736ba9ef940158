import SuffixLint.Linter
import SuffixLint.Proofs.IssueLog
import SuffixLint.Proofs.Rule.Findings

namespace SuffixLint

namespace Line

def spaceIssues (line : Line) : List Issue :=
  if line.hasOuterSpace then [line.issue .outerSpace] else []

def isRule (line : Line) : Bool := line.kind = .rule

@[simp] theorem isRule_iff {line : Line} : line.isRule = true ↔ line.kind = .rule := by
  simp [isRule]

@[simp] theorem not_isRule_iff {line : Line} : line.isRule = false ↔ line.kind ≠ .rule := by
  simp [isRule]

/-- What a group warning at the line echoes: a comment is shown, a blank line is not. -/
def boundaryEcho (line : Line) : Option Text :=
  if line.kind = .comment then some line.shown else none

@[simp] theorem issue_line (line : Line) (finding : Finding) :
    (line.issue finding).line = line.number := rfl

@[simp] theorem issue_finding (line : Line) (finding : Finding) :
    (line.issue finding).finding = finding := rfl

@[simp] theorem issue_isError (line : Line) (finding : Finding) :
    (line.issue finding).isError = finding.isError := rfl

theorem any_isError_map_issue (line : Line) (findings : List Finding) :
    (findings.map line.issue).any (·.isError) = findings.any (·.isError) := by
  simp [List.any_map, Function.comp_def]

theorem mem_spaceIssues {line : Line} {issue : Issue} (h : issue ∈ line.spaceIssues) :
    issue = line.issue .outerSpace := by
  rw [spaceIssues] at h
  split at h
  · exact List.mem_singleton.1 h
  · cases h

theorem spaceIssues_not_isError (line : Line) :
    line.spaceIssues.any (·.isError) = false := by
  rw [List.any_eq_false]
  intro issue h
  rw [mem_spaceIssues h, issue_isError]
  decide

end Line

namespace Linter

def boundaryIssues (linter : Linter) (number : Nat) (echo : Option Text) : List Issue :=
  if linter.checks.order then linter.group.closingIssues linter.log.tainted number echo else []

def groupIssues (linter : Linter) (line : Line) : List Issue :=
  if line.kind = .rule then [] else linter.boundaryIssues line.number line.boundaryEcho

theorem boundaryIssues_of_unordered {linter : Linter} (unordered : linter.checks.order = false)
    (number : Nat) (echo : Option Text) : linter.boundaryIssues number echo = [] := by
  rw [boundaryIssues, unordered, if_neg Bool.false_ne_true]

def markerFindings (linter : Linter) (line : Line) : List Finding :=
  (linter.sections.takeComment line.text).2.toList

def ruleFindings (linter : Linter) (line : Line) : List Finding :=
  (if linter.sections.current = .outside then [.ruleOutsideSection] else []) ++
    (Rule.check linter.registry linter.sections.current line).findings

def ownFindings (linter : Linter) (line : Line) : List Finding :=
  match line.kind with
  | .blank => []
  | .comment => linter.markerFindings line
  | .rule => linter.ruleFindings line

def lineIssues (linter : Linter) (line : Line) : List Issue :=
  line.spaceIssues ++ linter.groupIssues line ++ (linter.ownFindings line).map line.issue

theorem stage_markerFindings {linter : Linter} {line : Line} {finding : Finding}
    (h : finding ∈ linter.markerFindings line) : finding.stage = .marker :=
  SectionHistory.stage_takeComment (Option.mem_toList.1 h)

theorem stage_ruleFindings {linter : Linter} {line : Line} {finding : Finding}
    (h : finding ∈ linter.ruleFindings line) : finding.stage = .rule := by
  rcases List.mem_append.1 h with h | h
  · split at h
    · rw [List.mem_singleton.1 h]; rfl
    · cases h
  · exact Rule.stage_check h

theorem isOwn_ownFindings {linter : Linter} {line : Line} {finding : Finding}
    (h : finding ∈ linter.ownFindings line) : finding.isOwn = true := by
  rw [Finding.isOwn_iff]
  rw [ownFindings] at h
  split at h
  · cases h
  · exact .inl (stage_markerFindings h)
  · exact .inr (stage_ruleFindings h)

theorem ruleFindings_eq_nil_iff {linter : Linter} {line : Line} :
    linter.ruleFindings line = [] ↔
      linter.sections.current ≠ .outside ∧
        (Rule.check linter.registry linter.sections.current line).findings = [] := by
  rw [ruleFindings, List.append_eq_nil_iff]
  refine and_congr_left' ?_
  by_cases h : linter.sections.current = .outside <;> simp [h]

theorem any_isError_ownFindings {linter : Linter} {line : Line} :
    (linter.ownFindings line).any (·.isError) = true ↔ linter.ownFindings line ≠ [] := by
  rw [List.any_eq_true]
  constructor
  · rintro ⟨finding, h, _⟩ hnil
    rw [hnil] at h
    cases h
  · intro h
    obtain ⟨finding, hf⟩ := List.exists_mem_of_ne_nil _ h
    exact ⟨finding, hf, Finding.isError_of_isOwn (isOwn_ownFindings hf)⟩

theorem mem_boundaryIssues {linter : Linter} {number : Nat} {echo : Option Text} {issue : Issue}
    (h : issue ∈ linter.boundaryIssues number echo) :
    issue.finding.stage = .group ∧ issue.line = number ∧ issue.echo = echo := by
  rw [boundaryIssues] at h
  split at h
  · exact Group.mem_closingIssues h
  · cases h

theorem checked_of_mem_boundaryIssues {linter : Linter} {number : Nat} {echo : Option Text}
    {issue : Issue} (h : issue ∈ linter.boundaryIssues number echo) :
    linter.log.tainted = false ∧ 2 ≤ linter.group.size := by
  rw [boundaryIssues, Group.closingIssues] at h
  split at h
  · split at h
    · cases h
    · next hskip =>
      rw [Bool.or_eq_true, decide_eq_true_eq, not_or, Bool.not_eq_true, Nat.not_lt] at hskip
      exact hskip
  · cases h

theorem mem_groupIssues {linter : Linter} {line : Line} {issue : Issue} :
    issue ∈ linter.groupIssues line ↔
      line.kind ≠ .rule ∧ issue ∈ linter.boundaryIssues line.number line.boundaryEcho := by
  rw [groupIssues]
  split <;> simp_all

theorem mem_lineIssues {linter : Linter} {line : Line} {issue : Issue}
    (h : issue ∈ linter.lineIssues line) :
    issue = line.issue .outerSpace ∨
      issue ∈ linter.boundaryIssues line.number line.boundaryEcho ∨
      ∃ finding ∈ linter.ownFindings line, issue = line.issue finding := by
  rcases List.mem_append.1 h with h | h
  · rcases List.mem_append.1 h with h | h
    · exact .inl (Line.mem_spaceIssues h)
    · exact .inr (.inl (mem_groupIssues.1 h).2)
  · obtain ⟨finding, hf, rfl⟩ := List.mem_map.1 h
    exact .inr (.inr ⟨finding, hf, rfl⟩)

theorem line_of_mem_lineIssues {linter : Linter} {line : Line} {issue : Issue}
    (h : issue ∈ linter.lineIssues line) : issue.line = line.number := by
  rcases mem_lineIssues h with rfl | hgroup | ⟨finding, _, rfl⟩
  · rfl
  · exact (mem_boundaryIssues hgroup).2.1
  · rfl

theorem stage_ne_closing_of_mem_lineIssues {linter : Linter} {line : Line} {issue : Issue}
    (h : issue ∈ linter.lineIssues line) : issue.finding.stage ≠ .closing := by
  rcases mem_lineIssues h with rfl | hgroup | ⟨finding, hf, rfl⟩
  · rw [Line.issue_finding]
    decide
  · rw [(mem_boundaryIssues hgroup).1]
    decide
  · exact (Finding.stage_ne_of_isOwn (isOwn_ownFindings hf)).2.2

section Parts

variable (linter : Linter) (line : Line)

/-- The look at white space changes the log and the number of lines only. -/
theorem noteOuterSpace_eq : linter.noteOuterSpace line =
    { linter with lines := line.number, log := linter.log.addAll line.spaceIssues } := by
  rw [noteOuterSpace, Line.spaceIssues]
  split <;> rfl

@[simp] theorem checks_noteOuterSpace : (linter.noteOuterSpace line).checks = linter.checks := by
  rw [noteOuterSpace_eq]

@[simp] theorem sections_noteOuterSpace :
    (linter.noteOuterSpace line).sections = linter.sections := by
  rw [noteOuterSpace_eq]

@[simp] theorem registry_noteOuterSpace :
    (linter.noteOuterSpace line).registry = linter.registry := by
  rw [noteOuterSpace_eq]

@[simp] theorem group_noteOuterSpace : (linter.noteOuterSpace line).group = linter.group := by
  rw [noteOuterSpace_eq]

@[simp] theorem lines_noteOuterSpace : (linter.noteOuterSpace line).lines = line.number := by
  rw [noteOuterSpace_eq]

@[simp] theorem rules_noteOuterSpace : (linter.noteOuterSpace line).rules = linter.rules := by
  rw [noteOuterSpace_eq]

theorem log_noteOuterSpace :
    (linter.noteOuterSpace line).log = linter.log.addAll line.spaceIssues := by
  rw [noteOuterSpace_eq]

@[simp] theorem tainted_noteOuterSpace :
    (linter.noteOuterSpace line).log.tainted = linter.log.tainted := by
  rw [log_noteOuterSpace, IssueLog.tainted_addAll, Line.spaceIssues_not_isError, Bool.or_false]

variable (number : Nat) (echo : Option Text)

theorem endGroup_eq : linter.endGroup number echo =
    { linter with
      group := if linter.checks.order then {} else linter.group
      log := if linter.checks.order then linter.group.conclude linter.log number echo
        else linter.log } := by
  rw [endGroup]
  split <;> rfl

@[simp] theorem checks_endGroup : (linter.endGroup number echo).checks = linter.checks := by
  rw [endGroup_eq]

@[simp] theorem sections_endGroup : (linter.endGroup number echo).sections = linter.sections := by
  rw [endGroup_eq]

@[simp] theorem registry_endGroup : (linter.endGroup number echo).registry = linter.registry := by
  rw [endGroup_eq]

@[simp] theorem lines_endGroup : (linter.endGroup number echo).lines = linter.lines := by
  rw [endGroup_eq]

@[simp] theorem rules_endGroup : (linter.endGroup number echo).rules = linter.rules := by
  rw [endGroup_eq]

theorem group_endGroup : (linter.endGroup number echo).group =
    if linter.checks.order then {} else linter.group := by
  rw [endGroup_eq]

theorem issues_endGroup : (linter.endGroup number echo).log.issues.toList =
    linter.log.issues.toList ++ linter.boundaryIssues number echo := by
  rw [endGroup_eq, boundaryIssues]
  split
  · exact Group.issues_conclude _ _ _ _
  · exact (List.append_nil _).symm

theorem tainted_endGroup : (linter.endGroup number echo).log.tainted =
    (!linter.checks.order && linter.log.tainted) := by
  cases ho : linter.checks.order <;> simp [endGroup, ho]

theorem accounts_endGroup (h : linter.log.Accounts) :
    (linter.endGroup number echo).log.Accounts := by
  rw [endGroup_eq]
  split
  · exact Group.accounts_conclude h _ _ _
  · exact h

theorem boundaryIssues_noteOuterSpace :
    (linter.noteOuterSpace line).boundaryIssues number echo =
      linter.boundaryIssues number echo := by
  simp only [boundaryIssues, checks_noteOuterSpace, group_noteOuterSpace, tainted_noteOuterSpace]

end Parts

theorem step_eq_of_blank {linter : Linter} {line : Line} (h : line.kind = .blank) :
    linter.step line = (linter.noteOuterSpace line).endGroup line.number none := by
  simp only [step, h]

theorem step_eq_of_comment {linter : Linter} {line : Line} (h : line.kind = .comment) :
    linter.step line = (linter.noteOuterSpace line).takeComment line := by
  simp only [step, h]

theorem step_eq_of_rule {linter : Linter} {line : Line} (h : line.kind = .rule) :
    linter.step line = (linter.noteOuterSpace line).takeRule line := by
  simp only [step, h]

variable (linter : Linter) (line : Line)

@[simp] theorem checks_step : (linter.step line).checks = linter.checks := by
  cases h : line.kind with
  | blank => rw [step_eq_of_blank h, checks_endGroup, checks_noteOuterSpace]
  | comment => simp [step_eq_of_comment h, takeComment, noteAll]
  | rule => simp [step_eq_of_rule h, takeRule, noteAll]

@[simp] theorem lines_step : (linter.step line).lines = line.number := by
  cases h : line.kind with
  | blank => rw [step_eq_of_blank h, lines_endGroup, lines_noteOuterSpace]
  | comment => simp [step_eq_of_comment h, takeComment, noteAll]
  | rule => simp [step_eq_of_rule h, takeRule, noteAll]

theorem rules_step : (linter.step line).rules =
    linter.rules + if line.kind = .rule then 1 else 0 := by
  cases h : line.kind with
  | blank => simp [step_eq_of_blank h]
  | comment => simp [step_eq_of_comment h, takeComment, noteAll]
  | rule => simp [step_eq_of_rule h, takeRule, noteAll]

theorem sections_step : (linter.step line).sections =
    if line.kind = .comment then (linter.sections.takeComment line.text).1
    else linter.sections := by
  cases h : line.kind with
  | blank => simp [step_eq_of_blank h]
  | comment => simp [step_eq_of_comment h, takeComment, noteAll]
  | rule => simp [step_eq_of_rule h, takeRule, noteAll]

theorem registry_step : (linter.step line).registry =
    if line.kind = .rule then
      (Rule.check linter.registry linter.sections.current line).registry
    else linter.registry := by
  cases h : line.kind with
  | blank => simp [step_eq_of_blank h]
  | comment => simp [step_eq_of_comment h, takeComment, noteAll]
  | rule => simp [step_eq_of_rule h, takeRule, noteAll]

theorem group_step : (linter.step line).group =
    if line.kind = .rule then linter.group.push line.text
    else if linter.checks.order then {} else linter.group := by
  cases h : line.kind with
  | blank => simp [step_eq_of_blank h, group_endGroup]
  | comment => simp [step_eq_of_comment h, takeComment, noteAll, group_endGroup]
  | rule => simp [step_eq_of_rule h, takeRule, noteAll]

theorem issues_step : (linter.step line).log.issues.toList =
    linter.log.issues.toList ++ linter.lineIssues line := by
  cases h : line.kind with
  | blank =>
    rw [step_eq_of_blank h, issues_endGroup, boundaryIssues_noteOuterSpace, log_noteOuterSpace,
      IssueLog.issues_addAll]
    simp [lineIssues, groupIssues, ownFindings, Line.boundaryEcho, h]
  | comment =>
    simp only [step_eq_of_comment h, takeComment, noteAll, IssueLog.issues_addAll,
      issues_endGroup, boundaryIssues_noteOuterSpace, log_noteOuterSpace, sections_endGroup,
      sections_noteOuterSpace]
    simp [lineIssues, groupIssues, ownFindings, markerFindings, Line.boundaryEcho, h]
  | rule =>
    simp only [step_eq_of_rule h, takeRule, noteAll, IssueLog.issues_addAll, log_noteOuterSpace,
      sections_noteOuterSpace, registry_noteOuterSpace]
    simp [lineIssues, groupIssues, ownFindings, ruleFindings, h]

/-- The end of a group clears the taint, where groups are checked, before the findings about the
line itself taint the next group. -/
theorem tainted_step : (linter.step line).log.tainted =
    ((linter.log.tainted && (line.isRule || !linter.checks.order)) ||
      (linter.ownFindings line).any (·.isError)) := by
  cases h : line.kind with
  | blank =>
    simp [step_eq_of_blank h, tainted_endGroup, ownFindings, Line.isRule, h, Bool.and_comm]
  | comment =>
    simp only [step_eq_of_comment h, takeComment, noteAll, IssueLog.tainted_addAll,
      tainted_endGroup, checks_noteOuterSpace, tainted_noteOuterSpace, sections_endGroup,
      sections_noteOuterSpace, Line.any_isError_map_issue]
    simp [ownFindings, markerFindings, Line.isRule, h, Bool.and_comm]
  | rule =>
    simp only [step_eq_of_rule h, takeRule, noteAll, IssueLog.tainted_addAll,
      tainted_noteOuterSpace, sections_noteOuterSpace, registry_noteOuterSpace,
      Line.any_isError_map_issue]
    simp [ownFindings, ruleFindings, Line.isRule, h]

theorem accounts_step (h : linter.log.Accounts) : (linter.step line).log.Accounts := by
  have hspace : (linter.noteOuterSpace line).log.Accounts := by
    rw [log_noteOuterSpace]
    exact h.addAll _
  cases hk : line.kind with
  | blank =>
    rw [step_eq_of_blank hk]
    exact accounts_endGroup _ _ _ hspace
  | comment =>
    rw [step_eq_of_comment hk]
    exact (accounts_endGroup _ _ _ hspace).addAll _
  | rule =>
    rw [step_eq_of_rule hk]
    exact hspace.addAll _

end Linter
end SuffixLint
