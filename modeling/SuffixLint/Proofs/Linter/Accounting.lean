import SuffixLint.Proofs.Line.Rewrite
import SuffixLint.Proofs.Linter.Attribution

namespace SuffixLint

namespace Line

theorem isRule_eq (line : Line) : line.isRule = (!line.isBlank && !line.isComment) := by
  rw [Bool.eq_iff_iff, isRule_iff, Bool.and_eq_true, Bool.not_eq_true', Bool.not_eq_true',
    ← Bool.not_eq_true, ← Bool.not_eq_true, ← kind_eq_blank_iff, ← kind_eq_comment_iff]
  cases line.kind <;> decide

def isUnfinished (data : Bytes) : Bool := !data.isEmpty && data.getLast? != some feed

theorem isUnfinished_of_not_mem {body : Bytes} (hne : body ≠ []) (h : feed ∉ body) :
    isUnfinished body = true := by
  rw [isUnfinished, Bool.and_eq_true, Bool.not_eq_true', List.isEmpty_eq_false_iff, bne_iff_ne]
  exact ⟨hne, fun hlast => h (List.mem_of_getLast? hlast)⟩

theorem isUnfinished_feed_append (body rest : Bytes) :
    isUnfinished (body ++ [feed] ++ rest) = isUnfinished rest := by
  cases rest with
  | nil => simp [isUnfinished]
  | cons octet rest =>
    rw [isUnfinished, isUnfinished,
      List.getLast?_append_of_ne_nil _ (List.cons_ne_nil octet rest)]
    simp

theorem IsCut.length_eq {raws : List Bytes} (h : IsCut raws) :
    raws.length = raws.flatten.count feed + if isUnfinished raws.flatten then 1 else 0 := by
  induction h with
  | nil => rfl
  | last hne hbody =>
    rw [List.flatten_singleton, List.count_eq_zero_of_not_mem hbody,
      isUnfinished_of_not_mem hne hbody]
    rfl
  | cons hbody _ ih =>
    rw [List.length_cons, ih, List.flatten_cons, isUnfinished_feed_append, List.count_append,
      List.count_append, List.count_eq_zero_of_not_mem hbody, List.count_singleton_self,
      Nat.zero_add, Nat.add_right_comm, Nat.add_comm 1]

theorem length_ofData (data : Bytes) :
    (ofData data).length = data.count feed + if isUnfinished data then 1 else 0 := by
  rw [ofData, length_numberFrom, (isCut_split data).length_eq, flatten_split]

theorem number_le_length_ofData {data : Bytes} {line : Line} (h : line ∈ ofData data) :
    line.number ≤ (ofData data).length := by
  have hnumber := (mem_map_number_numberFrom.1 (List.mem_map_of_mem h)).2
  rw [ofData, length_numberFrom]
  omega

theorem one_le_number_ofData {data : Bytes} {line : Line} (h : line ∈ ofData data) :
    1 ≤ line.number :=
  (mem_map_number_numberFrom.1 (List.mem_map_of_mem h)).1

theorem one_le_length_ofData {data : Bytes} (h : data ≠ []) : 1 ≤ (ofData data).length := by
  rw [ofData, length_numberFrom, Nat.one_le_iff_ne_zero, ne_eq, List.length_eq_zero_iff]
  intro hsplit
  apply h
  rw [← flatten_split data, hsplit, List.flatten_nil]

end Line

namespace Issue

/-- An issue is about a line: it has the number of the line and echoes it. Only a warning about the
group that a blank line ends echoes nothing. -/
structure IsAbout (issue : Issue) (line : Line) : Prop where
  number : issue.line = line.number
  echo : ∀ echo, issue.echo = some echo →
    echo = if issue.finding = .invalidEncoding then line.text else line.shown
  silent : issue.echo = none → issue.finding.stage = .group ∧ line.isBlank = true

/-- An issue is about the end of a registry: a warning about the last group, or one about the
sections. -/
structure IsAtEnd (issue : Issue) (lines : Nat) : Prop where
  number : issue.line = lines
  echo : issue.echo = none
  stage : issue.finding.stage = .group ∨ issue.finding.stage = .closing

theorem severity_eq_warning_iff {issue : Issue} :
    issue.severity = .warning ↔ (!issue.isError) = true := by
  rw [isError, Finding.isError, severity]
  cases issue.finding.severity <;> decide

end Issue

theorem Line.echo_eq (line : Line) (finding : Finding) :
    line.echo finding = if finding = .invalidEncoding then line.text else line.shown := by
  cases finding <;> rfl

theorem Line.isAbout_issue (line : Line) (finding : Finding) :
    (line.issue finding).IsAbout line where
  number := rfl
  echo := by
    intro echo he
    rw [Line.issue_finding, ← Line.echo_eq]
    exact (Option.some.inj he).symm
  silent := by
    intro he
    cases he

namespace Linter

variable {linter : Linter} {line : Line} {lines : List Line} {issue : Issue}

theorem isAbout_of_mem_groupIssues (h : issue ∈ linter.groupIssues line) : issue.IsAbout line := by
  obtain ⟨hkind, h⟩ := mem_groupIssues.1 h
  obtain ⟨hstage, hnumber, hecho⟩ := mem_boundaryIssues h
  have hfinding : issue.finding ≠ .invalidEncoding := by
    intro he
    rw [he] at hstage
    cases hstage
  rw [Line.boundaryEcho] at hecho
  constructor
  · exact hnumber
  · intro echo he
    rw [hecho] at he
    split at he
    · rw [if_neg hfinding]
      exact (Option.some.inj he).symm
    · cases he
  · intro he
    rw [hecho] at he
    split at he
    · cases he
    · next hcomment =>
      refine ⟨hstage, Line.kind_eq_blank_iff.1 ?_⟩
      cases hk : line.kind with
      | blank => rfl
      | comment => exact absurd hk hcomment
      | rule => exact absurd hk hkind

theorem isAbout_of_mem_lineIssues (h : issue ∈ linter.lineIssues line) : issue.IsAbout line := by
  rcases List.mem_append.1 h with h | h
  · rcases List.mem_append.1 h with h | h
    · rw [Line.mem_spaceIssues h]
      exact line.isAbout_issue .outerSpace
    · exact isAbout_of_mem_groupIssues h
  · obtain ⟨finding, _, rfl⟩ := List.mem_map.1 h
    exact line.isAbout_issue finding

theorem isAbout_of_mem_trace (h : issue ∈ linter.trace lines) :
    ∃ line ∈ lines, issue.IsAbout line := by
  obtain ⟨before, line, after, rfl, hissue⟩ := mem_trace.1 h
  exact ⟨line, List.mem_append_right _ List.mem_cons_self, isAbout_of_mem_lineIssues hissue⟩

theorem pairwise_trace (increasing : Line.Increasing lines) :
    (linter.trace lines).Pairwise (·.line ≤ ·.line) := by
  induction lines generalizing linter with
  | nil => exact .nil
  | cons line rest ih =>
    rw [trace, List.pairwise_append]
    refine ⟨?_, ih increasing.tail, ?_⟩
    · apply List.pairwise_of_forall_mem_list
      intro a ha b hb
      rw [line_of_mem_lineIssues ha, line_of_mem_lineIssues hb]
    · intro a ha b hb
      obtain ⟨other, hother, hnumber⟩ := line_of_mem_trace hb
      rw [line_of_mem_lineIssues ha, hnumber]
      exact Nat.le_of_lt (List.rel_of_pairwise_cons increasing hother)

def endIssues (linter : Linter) : List Issue :=
  linter.boundaryIssues linter.lines none ++ linter.closingIssues

theorem isAtEnd_of_mem_endIssues (h : issue ∈ linter.endIssues) : issue.IsAtEnd linter.lines := by
  rcases List.mem_append.1 h with h | h
  · obtain ⟨hstage, hnumber, hecho⟩ := mem_boundaryIssues h
    exact ⟨hnumber, hecho, .inl hstage⟩
  · have hstage := stage_of_mem_closingIssues h
    obtain ⟨finding, _, rfl⟩ := List.mem_map.1 h
    exact ⟨rfl, rfl, .inr hstage⟩

end Linter

namespace LintReport

theorem issues_eq_append (lines : List Line) (file : Text) (checks : Checks) :
    (ofLines lines file checks).issues =
      ((Linter.start checks).run lines).log.issues.toList ++
        ((Linter.start checks).run lines).endIssues := by
  rw [issues_ofLines, Linter.remainder, Linter.issues_run, Linter.endIssues, List.append_assoc]
  rfl

variable (data : Bytes) (file : Text) (checks : Checks)

theorem issues_run_start (lines : List Line) :
    ((Linter.start checks).run lines).log.issues.toList = (Linter.start checks).trace lines :=
  Linter.issues_run _ _

theorem pairwise_issues : (ofBytes data file checks).issues.Pairwise (·.line ≤ ·.line) := by
  have hend : ∀ issue ∈ ((Linter.start checks).run (Line.ofData data)).endIssues,
      issue.line = (Line.ofData data).length := by
    intro issue h
    rw [(Linter.isAtEnd_of_mem_endIssues h).number, Linter.lines_run_ofData]
  rw [ofBytes, issues_eq_append, issues_run_start, List.pairwise_append]
  refine ⟨Linter.pairwise_trace (Line.increasing_ofData data), ?_, ?_⟩
  · apply List.pairwise_of_forall_mem_list
    intro a ha b hb
    rw [hend a ha, hend b hb]
  · intro a ha b hb
    obtain ⟨line, hline, hnumber⟩ := Linter.line_of_mem_trace ha
    rw [hend b hb, hnumber]
    exact Line.number_le_length_ofData hline

theorem line_of_mem_issues {issue : Issue} (h : issue ∈ (ofBytes data file checks).issues) :
    issue.line ≤ (Line.ofData data).length ∧ (data ≠ [] → 1 ≤ issue.line) := by
  rw [ofBytes, issues_eq_append, issues_run_start] at h
  rcases List.mem_append.1 h with h | h
  · obtain ⟨line, hline, hnumber⟩ := Linter.line_of_mem_trace h
    rw [hnumber]
    exact ⟨Line.number_le_length_ofData hline, fun _ => Line.one_le_number_ofData hline⟩
  · rw [(Linter.isAtEnd_of_mem_endIssues h).number, Linter.lines_run_ofData]
    exact ⟨Nat.le_refl _, Line.one_le_length_ofData⟩

theorem errors_ofBytes :
    (ofBytes data file checks).summary.errors =
      (ofBytes data file checks).issues.countP (·.severity = .error) :=
  errors_ofLines (Line.ofData data) file checks

theorem warnings_ofBytes :
    (ofBytes data file checks).summary.warnings =
      (ofBytes data file checks).issues.countP (·.severity = .warning) := by
  rw [ofBytes, warnings_ofLines]
  apply List.countP_congr
  intro issue _
  rw [decide_eq_true_eq, Issue.severity_eq_warning_iff]

theorem rules_ofBytes :
    (ofBytes data file checks).summary.rules =
      (Line.ofData data).countP (fun line => !line.isBlank && !line.isComment) := by
  rw [ofBytes, rules_ofLines]
  exact List.countP_congr fun line _ => by rw [Line.isRule_eq]

/-- The totals of a report are those of its issues by severity, of its lines, and of its rules. Up
to the last line every issue is about a line; at the end come those about the end, with the number
of the last line. -/
theorem issues_accounted :
    let report := ofBytes data file checks
    let lines := Line.ofData data
    let duringRun := ((Linter.start checks).run lines).log.issues.toList
    (report.summary.errors = report.issues.countP (·.severity = .error) ∧
      report.summary.warnings = report.issues.countP (·.severity = .warning) ∧
      report.summary.lines = lines.length ∧
      report.summary.lines = data.count Line.feed + (if Line.isUnfinished data then 1 else 0) ∧
      report.summary.rules = lines.countP (fun line => !line.isBlank && !line.isComment)) ∧
    report.issues.Pairwise (·.line ≤ ·.line) ∧
    (∀ issue ∈ report.issues,
      (data = [] → issue.line = 0) ∧
        (data ≠ [] → 1 ≤ issue.line ∧ issue.line ≤ report.summary.lines)) ∧
    ∃ atEnd, report.issues = duringRun ++ atEnd ∧
      (∀ issue ∈ duringRun, ∃ line ∈ lines, issue.IsAbout line) ∧
      ∀ issue ∈ atEnd, issue.IsAtEnd report.summary.lines := by
  intro report lines duringRun
  have hlines : report.summary.lines = lines.length := lines_ofBytes data file checks
  refine ⟨⟨errors_ofBytes data file checks, warnings_ofBytes data file checks, hlines,
    hlines.trans (Line.length_ofData data), rules_ofBytes data file checks⟩,
    pairwise_issues data file checks, ?_, ?_⟩
  · intro issue h
    obtain ⟨hle, hpos⟩ := line_of_mem_issues data file checks h
    rw [hlines]
    refine ⟨?_, fun hne => ⟨hpos hne, hle⟩⟩
    intro hempty
    rw [hempty] at hle
    exact Nat.le_zero.1 hle
  · refine ⟨_, issues_eq_append lines file checks, ?_, ?_⟩
    · intro issue h
      have htrace : duringRun = (Linter.start checks).trace lines := issues_run_start checks lines
      rw [htrace] at h
      exact Linter.isAbout_of_mem_trace h
    · intro issue h
      have hnumber := lines_ofLines lines file checks
      exact hnumber ▸ Linter.isAtEnd_of_mem_endIssues h

end LintReport
end SuffixLint
