import SuffixLint.Proofs.EachAfter
import SuffixLint.Proofs.Linter.Step
import SuffixLint.Proofs.Registry.History

namespace SuffixLint

namespace SectionHistory

def takeAll (history : SectionHistory) (comments : List Text) : SectionHistory :=
  comments.foldl (fun history comment => (history.takeComment comment).1) history

@[simp] theorem takeAll_nil (history : SectionHistory) : history.takeAll [] = history := rfl

theorem takeAll_append (history : SectionHistory) (a b : List Text) :
    history.takeAll (a ++ b) = (history.takeAll a).takeAll b :=
  List.foldl_append

end SectionHistory

namespace Line

def comments (lines : List Line) : List Text :=
  (lines.filter (·.kind = .comment)).map (·.text)

theorem comments_append (a b : List Line) : comments (a ++ b) = comments a ++ comments b := by
  rw [comments, List.filter_append, List.map_append]
  rfl

theorem comments_singleton (line : Line) :
    comments [line] = if line.kind = .comment then [line.text] else [] := by
  rw [comments]
  by_cases h : line.kind = .comment <;> simp [h]

/-- The rules among some lines, each with the region it stands in. -/
def candidates (history : SectionHistory) : List Line → List Candidate
  | [] => []
  | line :: rest =>
    (if line.kind = .rule then [{ region := history.current, line }] else []) ++
      candidates (history.takeAll (comments [line])) rest

theorem candidates_append (history : SectionHistory) (a b : List Line) :
    candidates history (a ++ b) =
      candidates history a ++ candidates (history.takeAll (comments a)) b := by
  induction a generalizing history with
  | nil => rfl
  | cons line rest ih =>
    have hcomments : comments (line :: rest) = comments [line] ++ comments rest :=
      comments_append [line] rest
    rw [List.cons_append, candidates, ih, candidates, hcomments, SectionHistory.takeAll_append,
      List.append_assoc]

theorem candidates_singleton (history : SectionHistory) (line : Line) :
    candidates history [line] =
      if line.kind = .rule then [{ region := history.current, line }] else [] :=
  List.append_nil _

theorem map_line_candidates (history : SectionHistory) (lines : List Line) :
    (candidates history lines).map (·.line) = lines.filter (·.isRule) := by
  induction lines generalizing history with
  | nil => rfl
  | cons line rest ih =>
    rw [candidates, List.map_append, ih, List.filter_cons]
    by_cases h : line.kind = .rule
    · rw [if_pos h, if_pos (isRule_iff.2 h)]
      rfl
    · rw [if_neg h, if_neg (fun hr => h (isRule_iff.1 hr))]
      rfl

theorem mem_of_mem_candidates {history : SectionHistory} {lines : List Line}
    {candidate : Candidate} (h : candidate ∈ candidates history lines) :
    candidate.line ∈ lines ∧ candidate.line.kind = .rule := by
  have hm : candidate.line ∈ (candidates history lines).map (·.line) :=
    List.mem_map.2 ⟨candidate, h, rfl⟩
  rw [map_line_candidates, List.mem_filter, isRule_iff] at hm
  exact hm

theorem exists_candidate_of_mem (history : SectionHistory) {lines : List Line} {line : Line}
    (hm : line ∈ lines) (hr : line.kind = .rule) :
    ∃ candidate ∈ candidates history lines, candidate.line = line := by
  have h : line ∈ (candidates history lines).map (·.line) := by
    rw [map_line_candidates]
    exact List.mem_filter.2 ⟨hm, isRule_iff.2 hr⟩
  exact List.mem_map.1 h

end Line

namespace Linter

def trace (linter : Linter) : List Line → List Issue
  | [] => []
  | line :: rest => linter.lineIssues line ++ (linter.step line).trace rest

def closingIssues (linter : Linter) : List Issue :=
  linter.sections.closingFindings.map fun finding =>
    { line := linter.lines, finding, echo := none }

/-- What is reported from some place on: the rest of the lines, the last group, and the end. -/
def remainder (linter : Linter) (rest : List Line) : List Issue :=
  linter.trace rest ++
    (linter.run rest).boundaryIssues (linter.run rest).lines none ++
    (linter.run rest).closingIssues

theorem stage_of_mem_closingIssues {linter : Linter} {issue : Issue}
    (h : issue ∈ linter.closingIssues) : issue.finding.stage = .closing := by
  obtain ⟨finding, hf, rfl⟩ := List.mem_map.1 h
  exact SectionHistory.stage_closingFindings hf

theorem trace_append (linter : Linter) (a b : List Line) :
    linter.trace (a ++ b) = linter.trace a ++ (linter.run a).trace b := by
  induction a generalizing linter with
  | nil => rfl
  | cons line rest ih =>
    rw [List.cons_append, trace, ih, trace, List.append_assoc, run_cons]

theorem trace_singleton (linter : Linter) (line : Line) :
    linter.trace [line] = linter.lineIssues line :=
  List.append_nil _

def Clean (linter : Linter) (lines : List Line) : Prop :=
  EachAfter (fun before line => (linter.run before).ownFindings line = []) lines

theorem clean_append_singleton {linter : Linter} {lines : List Line} {line : Line} :
    linter.Clean (lines ++ [line]) ↔
      linter.Clean lines ∧ (linter.run lines).ownFindings line = [] :=
  eachAfter_append_singleton

theorem run_append_singleton (linter : Linter) (lines : List Line) (line : Line) :
    linter.run (lines ++ [line]) = (linter.run lines).step line := by
  rw [run_append, run_cons, run_nil]

theorem mem_trace {linter : Linter} {lines : List Line} {issue : Issue} :
    issue ∈ linter.trace lines ↔
      ∃ before line after, lines = before ++ line :: after ∧
        issue ∈ (linter.run before).lineIssues line := by
  induction lines generalizing linter with
  | nil => simp [trace]
  | cons first rest ih =>
    rw [trace, List.mem_append, ih]
    constructor
    · rintro (h | ⟨before, line, after, rfl, h⟩)
      · exact ⟨[], first, rest, rfl, h⟩
      · exact ⟨first :: before, line, after, rfl, h⟩
    · rintro ⟨before, line, after, he, h⟩
      cases before with
      | nil =>
        cases he
        exact .inl h
      | cons head before =>
        cases he
        exact .inr ⟨before, line, after, rfl, h⟩

theorem line_of_mem_trace {linter : Linter} {lines : List Line} {issue : Issue}
    (h : issue ∈ linter.trace lines) : ∃ line ∈ lines, issue.line = line.number := by
  obtain ⟨before, line, after, rfl, hissue⟩ := mem_trace.1 h
  exact ⟨line, List.mem_append_right _ List.mem_cons_self, line_of_mem_lineIssues hissue⟩

theorem stage_ne_closing_of_mem_trace {linter : Linter} {lines : List Line} {issue : Issue}
    (h : issue ∈ linter.trace lines) : issue.finding.stage ≠ .closing := by
  obtain ⟨before, line, after, _, hissue⟩ := mem_trace.1 h
  exact stage_ne_closing_of_mem_lineIssues hissue

theorem issues_run (linter : Linter) (lines : List Line) :
    (linter.run lines).log.issues.toList = linter.log.issues.toList ++ linter.trace lines := by
  induction lines generalizing linter with
  | nil => exact (List.append_nil _).symm
  | cons line rest ih => rw [run_cons, ih, issues_step, trace, List.append_assoc]

theorem accounts_run {linter : Linter} (h : linter.log.Accounts) (lines : List Line) :
    (linter.run lines).log.Accounts := by
  induction lines generalizing linter with
  | nil => exact h
  | cons line rest ih => exact ih (accounts_step _ _ h)

@[simp] theorem checks_run (linter : Linter) (lines : List Line) :
    (linter.run lines).checks = linter.checks := by
  induction lines generalizing linter with
  | nil => rfl
  | cons line rest ih => rw [run_cons, ih, checks_step]

theorem rules_run (linter : Linter) (lines : List Line) :
    (linter.run lines).rules = linter.rules + lines.countP (·.isRule) := by
  induction lines generalizing linter with
  | nil => rfl
  | cons line rest ih =>
    rw [run_cons, ih, rules_step, List.countP_cons, Nat.add_assoc, Nat.add_comm (ite _ _ _)]
    simp only [Line.isRule_iff]

theorem sections_run (linter : Linter) (lines : List Line) :
    (linter.run lines).sections = linter.sections.takeAll (Line.comments lines) := by
  induction lines using List.reverseRecOn with
  | nil => rfl
  | append_singleton lines line ih =>
    rw [run_append_singleton, sections_step, ih, Line.comments_append, Line.comments_singleton,
      SectionHistory.takeAll_append]
    split <;> rfl

theorem registry_run (linter : Linter) (lines : List Line) :
    (linter.run lines).registry =
      linter.registry.takeAll (Line.candidates linter.sections lines) := by
  induction lines using List.reverseRecOn with
  | nil => rfl
  | append_singleton lines line ih =>
    rw [run_append_singleton, registry_step, ih, sections_run, Line.candidates_append,
      Line.candidates_singleton, Registry.takeAll_append]
    split <;> rfl

theorem lines_run (linter : Linter) (lines : List Line) :
    (linter.run lines).lines = ((lines.map (·.number)).getLast?).getD linter.lines := by
  rcases List.eq_nil_or_concat lines with rfl | ⟨front, last, rfl⟩
  · rfl
  · rw [List.concat_eq_append, run_append_singleton, lines_step, List.map_append]
    exact (congrArg (Option.getD · linter.lines) (List.getLast?_concat)).symm

theorem remainder_append (linter : Linter) (a b : List Line) :
    linter.remainder (a ++ b) = linter.trace a ++ (linter.run a).remainder b := by
  rw [remainder, trace_append, run_append, remainder]
  simp only [List.append_assoc]

theorem remainder_cons (linter : Linter) (line : Line) (rest : List Line) :
    linter.remainder (line :: rest) =
      linter.lineIssues line ++ (linter.step line).remainder rest := by
  rw [← List.singleton_append, remainder_append, trace_singleton, run_cons, run_nil]

/-- All issues but those about groups and about the whole are reported at a line. -/
theorem line_of_mem_remainder {linter : Linter} {rest : List Line} {issue : Issue}
    (h : issue ∈ linter.remainder rest) (hgroup : issue.finding.stage ≠ .group)
    (hclosing : issue.finding.stage ≠ .closing) : ∃ line ∈ rest, issue.line = line.number := by
  rcases List.mem_append.1 h with h | h
  · rcases List.mem_append.1 h with h | h
    · exact line_of_mem_trace h
    · exact absurd (mem_boundaryIssues h).1 hgroup
  · exact absurd (stage_of_mem_closingIssues h) hclosing

/-- Where no group is under way, so are those about groups. -/
theorem line_of_group_mem_remainder {linter : Linter} (hempty : linter.group = {})
    {rest : List Line} {issue : Issue} (h : issue ∈ linter.remainder rest)
    (hgroup : issue.finding.stage = .group) : ∃ line ∈ rest, issue.line = line.number := by
  rcases List.mem_append.1 h with h | h
  · rcases List.mem_append.1 h with h | h
    · exact line_of_mem_trace h
    · rcases List.eq_nil_or_concat rest with rfl | ⟨front, last, rfl⟩
      · have hsize := (checked_of_mem_boundaryIssues h).2
        rw [run_nil, hempty] at hsize
        exact absurd hsize (by decide)
      · rw [List.concat_eq_append] at h ⊢
        refine ⟨last, List.mem_append_right _ (List.mem_singleton_self last), ?_⟩
        rw [(mem_boundaryIssues h).2.1, run_append_singleton, lines_step]
  · cases (stage_of_mem_closingIssues h).symm.trans hgroup

variable (checks : Checks)

theorem order_run {checks : Checks} (order : checks.order = true) (lines : List Line) :
    ((start checks).run lines).checks.order = true := by
  rw [checks_run]
  exact order

theorem sections_run_start (lines : List Line) :
    ((start checks).run lines).sections = SectionHistory.takeAll {} (Line.comments lines) :=
  sections_run _ _

end Linter

namespace LintReport

variable (lines : List Line) (file : Text) (checks : Checks)

/-- The issues of a report are those of the lines, those of the last group, and those about the
sections as a whole. -/
theorem issues_ofLines :
    (ofLines lines file checks).issues = (Linter.start checks).remainder lines := by
  simp only [ofLines, Linter.toReport, Linter.noteAll, IssueLog.issues_addAll,
    Linter.issues_endGroup, Linter.issues_run, Linter.lines_endGroup, Linter.sections_endGroup,
    Linter.closingIssues, Linter.remainder]
  rfl

theorem accounts_ofLines :
    (ofLines lines file checks).summary.errors =
        (ofLines lines file checks).issues.countP (·.isError) ∧
      (ofLines lines file checks).summary.warnings =
        (ofLines lines file checks).issues.countP (!·.isError) := by
  have hrun : ((Linter.start checks).run lines).log.Accounts :=
    Linter.accounts_run .empty lines
  have hend := Linter.accounts_endGroup _ ((Linter.start checks).run lines).lines none hrun
  exact ⟨(hend.addAll _).errors, (hend.addAll _).warnings⟩

theorem errors_ofLines :
    (ofLines lines file checks).summary.errors =
      (ofLines lines file checks).issues.countP (·.isError) :=
  (accounts_ofLines lines file checks).1

theorem warnings_ofLines :
    (ofLines lines file checks).summary.warnings =
      (ofLines lines file checks).issues.countP (!·.isError) :=
  (accounts_ofLines lines file checks).2

theorem rules_ofLines :
    (ofLines lines file checks).summary.rules = lines.countP (·.isRule) := by
  have hrules : (ofLines lines file checks).summary.rules =
      ((Linter.start checks).run lines).rules :=
    Linter.rules_endGroup _ _ _
  rw [hrules, Linter.rules_run]
  exact Nat.zero_add _

theorem lines_ofLines :
    (ofLines lines file checks).summary.lines = ((Linter.start checks).run lines).lines :=
  Linter.lines_endGroup _ _ _

end LintReport
end SuffixLint
