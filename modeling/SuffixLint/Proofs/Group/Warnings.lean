import SuffixLint.Proofs.Group.Boundary
import SuffixLint.Proofs.Linter.Attribution
import SuffixLint.Proofs.Rule.Grammar

namespace SuffixLint

namespace Linter

variable (checks : Checks)

theorem filter_group_boundaryIssues (linter : Linter) (number : Nat) (echo : Option Text) :
    (linter.boundaryIssues number echo).filter (·.finding.stage = .group) =
      linter.boundaryIssues number echo := by
  rw [List.filter_eq_self]
  intro issue h
  exact decide_eq_true (mem_boundaryIssues h).1

theorem filter_group_lineIssues (linter : Linter) (line : Line) :
    (linter.lineIssues line).filter (·.finding.stage = .group) = linter.groupIssues line := by
  have hspace : line.spaceIssues.filter (·.finding.stage = .group) = [] := by
    rw [List.filter_eq_nil_iff]
    intro issue h
    rw [Line.mem_spaceIssues h]
    exact Bool.false_ne_true
  have hown : ((linter.ownFindings line).map line.issue).filter (·.finding.stage = .group) =
      [] := by
    rw [List.filter_eq_nil_iff]
    intro issue h hgroup
    obtain ⟨finding, hf, rfl⟩ := List.mem_map.1 h
    exact (Finding.stage_ne_of_isOwn (isOwn_ownFindings hf)).2.1 (of_decide_eq_true hgroup)
  rw [lineIssues, List.filter_append, List.filter_append, hspace, hown, List.nil_append,
    List.append_nil, groupIssues]
  split
  · rfl
  · exact filter_group_boundaryIssues _ _ _

theorem filter_group_trace (before lines : List Line) :
    (((start checks).run before).trace lines ++
        ((start checks).run (before ++ lines)).boundaryIssues
          ((start checks).run (before ++ lines)).lines none).filter (·.finding.stage = .group) =
      (Boundary.allAfter before lines).flatMap fun boundary =>
        ((start checks).run boundary.before).boundaryIssues boundary.number boundary.echo := by
  induction lines generalizing before with
  | nil =>
    rw [List.append_nil, trace, List.nil_append, filter_group_boundaryIssues, lines_run]
    exact (List.append_nil _).symm
  | cons line rest ih =>
    have hrest := ih (before ++ [line])
    rw [run_append_singleton, List.append_assoc, List.singleton_append] at hrest
    rw [trace, List.append_assoc, List.filter_append, hrest, filter_group_lineIssues,
      Boundary.allAfter, List.flatMap_append, groupIssues]
    congr 1
    split
    · rfl
    · exact (List.append_nil _).symm

end Linter

namespace LintReport

variable {lines : List Line} (file : Text) (checks : Checks)

theorem hasError_iff {before after : List Line} {line : Line}
    (increasing : Line.Increasing lines) (he : lines = before ++ line :: after) :
    line.HasError (ofLines lines file checks).issues ↔
      ((Linter.start checks).run before).ownFindings line ≠ [] := by
  have hown := exists_own_issue_iff file checks increasing he fun _ => True
  simp only [and_true, Finding.isOwn_iff_isError] at hown
  refine hown.trans ⟨?_, List.exists_mem_of_ne_nil _⟩
  rintro ⟨finding, hf⟩
  exact List.ne_nil_of_mem hf

theorem accepted_of_not_hasError {line : Line} (increasing : Line.Increasing lines)
    (hm : line ∈ lines) (hkind : line.kind = .rule)
    (h : ¬ line.HasError (ofLines lines file checks).issues) :
    line.Accepted (ofLines lines file checks).issues := by
  obtain ⟨before, after, he⟩ := List.append_of_mem hm
  have hclean := h
  rw [hasError_iff file checks increasing he, not_not, Linter.ownFindings, hkind,
    Linter.ruleFindings_eq_nil_iff] at hclean
  have hspelt := (Rule.check_findings_eq_nil_iff.1 hclean.2).1
  exact ⟨hspelt.not_isSkipped, h⟩

theorem hasMarkerError_iff {before after : List Line} {line : Line}
    (increasing : Line.Increasing lines) (he : lines = before ++ line :: after)
    (hkind : line.kind ≠ .rule) :
    line.HasMarkerError (ofLines lines file checks).issues ↔
      ((Linter.start checks).run before).ownFindings line ≠ [] := by
  have hown := exists_own_issue_iff file checks increasing he (·.stage = .marker)
  constructor
  · rintro ⟨issue, hm, hnumber, hstage⟩
    obtain ⟨finding, hf, _⟩ :=
      hown.1 ⟨issue, hm, hnumber, Finding.isOwn_iff.2 (.inl hstage), hstage⟩
    exact List.ne_nil_of_mem hf
  · intro h
    obtain ⟨finding, hf⟩ := List.exists_mem_of_ne_nil _ h
    have hstage : finding.stage = .marker := by
      rw [Linter.ownFindings] at hf
      split at hf
      · cases hf
      · exact Linter.stage_markerFindings hf
      · exact absurd ‹line.kind = .rule› hkind
    obtain ⟨issue, hm, hnumber, _, hmarker⟩ := hown.2 ⟨finding, hf, hstage⟩
    exact ⟨issue, hm, hnumber, hmarker⟩

end LintReport

namespace Boundary

variable {lines : List Line} (file : Text) (checks : Checks)

theorem clean_rules_iff (increasing : Line.Increasing lines) {boundary : Boundary}
    {after : List Line} (hin : boundary.IsIn lines after) :
    ((Linter.start checks).run (Line.beforeRules boundary.before)).Clean boundary.rules ↔
      ∀ line ∈ boundary.rules, ¬ line.HasError (LintReport.ofLines lines file checks).issues := by
  have hline {front back : List Line} {line : Line}
      (he : boundary.rules = front ++ line :: back) :
      line.HasError (LintReport.ofLines lines file checks).issues ↔
        (((Linter.start checks).run (Line.beforeRules boundary.before)).run front).ownFindings line
          ≠ [] := by
    have hsplit : lines = (Line.beforeRules boundary.before ++ front) ++ line ::
        (back ++ (boundary.line.toList ++ after)) := by
      rw [hin.splits_rules, he, List.append_assoc, List.append_assoc, List.append_assoc,
        List.cons_append]
    rw [← Linter.run_append]
    exact LintReport.hasError_iff file checks increasing hsplit
  constructor
  · intro clean line hm herror
    obtain ⟨front, back, he⟩ := List.append_of_mem hm
    exact (hline he).1 herror (clean front line back he)
  · intro h front line back he
    by_contra hfound
    have hm : line ∈ boundary.rules := he ▸ List.mem_append_right _ List.mem_cons_self
    exact h line hm ((hline he).2 hfound)

theorem clean_previous_iff (increasing : Line.Increasing lines) {boundary : Boundary}
    {after : List Line} (hin : boundary.IsIn lines after) :
    (∀ front line, Line.beforeRules boundary.before = front ++ [line] →
        ((Linter.start checks).run front).ownFindings line = []) ↔
      ∀ line ∈ boundary.previous,
        ¬ line.HasMarkerError (LintReport.ofLines lines file checks).issues := by
  have hline {front : List Line} {line : Line}
      (he : Line.beforeRules boundary.before = front ++ [line]) :
      line.HasMarkerError (LintReport.ofLines lines file checks).issues ↔
        ((Linter.start checks).run front).ownFindings line ≠ [] := by
    have hlast : (Line.beforeRules boundary.before).getLast? = some line := by
      rw [he, List.getLast?_concat]
    have hsplit : lines =
        front ++ line :: (boundary.rules ++ (boundary.line.toList ++ after)) := by
      rw [hin.splits_rules, he, List.append_assoc, List.append_assoc, List.singleton_append]
    exact LintReport.hasMarkerError_iff file checks increasing hsplit
      (Line.not_isRule_of_getLast?_beforeRules hlast)
  constructor
  · intro h line hm herror
    obtain ⟨front, he⟩ := List.getLast?_eq_some_iff.1 hm
    exact (hline he).1 herror (h front line he)
  · intro h front line he
    by_contra hfound
    have hm : line ∈ boundary.previous := by
      rw [previous, he, List.getLast?_concat]
      exact rfl
    exact h line hm ((hline he).2 hfound)

theorem untainted_iff (order : checks.order = true) (increasing : Line.Increasing lines)
    {boundary : Boundary} (hm : boundary ∈ all lines) :
    ((Linter.start checks).run boundary.before).log.tainted = false ↔
      (∀ line ∈ boundary.rules, ¬ line.HasError (LintReport.ofLines lines file checks).issues) ∧
        ∀ line ∈ boundary.previous,
          ¬ line.HasMarkerError (LintReport.ofLines lines file checks).issues := by
  obtain ⟨after, hin⟩ := mem_all hm
  rw [Linter.untainted_run_iff order]
  exact and_congr (clean_rules_iff file checks increasing hin)
    (clean_previous_iff file checks increasing hin)

theorem sameTopLevel_iff (boundary : Boundary) :
    Group.sameTopLevel (boundary.texts.map Entry.ofRule) = true ↔ ¬ boundary.MixesTopLevels := by
  rw [Group.sameTopLevel_map_ofRule_iff]
  simp only [MixesTopLevels, not_exists, not_and, ne_eq, not_not]

theorem sorted_iff (boundary : Boundary) :
    Entry.sort (boundary.texts.map Entry.ofRule) = boundary.texts.map Entry.ofRule ↔
      ¬ boundary.Descends := by
  rw [Entry.sort_map_ofRule_eq_self_iff]
  simp only [Descends, not_exists, not_and]

theorem boundaryIssues_eq_warnings (order : checks.order = true)
    (increasing : Line.Increasing lines) {boundary : Boundary} (hm : boundary ∈ all lines) :
    ((Linter.start checks).run boundary.before).boundaryIssues boundary.number boundary.echo =
      boundary.warnings (LintReport.ofLines lines file checks).issues := by
  have hentries : ((Linter.start checks).run boundary.before).group.entries.toList =
      boundary.texts.map Entry.ofRule := by
    rw [Linter.group_run order, texts, List.map_map]
    rfl
  have hsize : ((Linter.start checks).run boundary.before).group.size = boundary.rules.length := by
    rw [Group.size, ← Array.length_toList, hentries, List.length_map, texts, List.length_map]
  have hstart := Linter.order_run order boundary.before
  have heffective : boundary.Effective (LintReport.ofLines lines file checks).issues ↔
      ¬ (((Linter.start checks).run boundary.before).log.tainted = true ∨
        boundary.rules.length < 2) := by
    rw [not_or, Bool.not_eq_true, untainted_iff file checks order increasing hm, Nat.not_lt]
    constructor
    · rintro ⟨htwo, hrules, hmarker⟩
      exact ⟨⟨hrules, hmarker⟩, htwo⟩
    · rintro ⟨⟨hrules, hmarker⟩, htwo⟩
      exact ⟨htwo, hrules, hmarker⟩
  classical
  rw [Linter.boundaryIssues, if_pos hstart, Group.closingIssues, hsize, hentries, warnings,
    heffective]
  simp only [Bool.or_eq_true, decide_eq_true_eq, Group.issues, boundary.sameTopLevel_iff,
    boundary.sorted_iff, ite_not]
  by_cases hskip : ((Linter.start checks).run boundary.before).log.tainted = true ∨
      boundary.rules.length < 2
  · rw [if_pos hskip, if_neg fun h => h.1 hskip, if_neg fun h => h.1 hskip, List.append_nil]
  · simp only [hskip, not_false_eq_true, true_and, if_false]

theorem mem_warnings {issues : List Issue} {boundary : Boundary} {issue : Issue}
    (h : issue ∈ boundary.warnings issues) :
    boundary.Effective issues ∧
      (issue.suggested = [] ∨ issue.suggested.Perm boundary.texts) := by
  classical
  rcases List.mem_append.1 h with h | h
  · split at h
    · next hwarned =>
      rw [List.mem_singleton.1 h]
      exact ⟨hwarned.1, .inl rfl⟩
    · cases h
  · split at h
    · next hwarned =>
      rw [List.mem_singleton.1 h, Issue.suggested_of_details rfl]
      exact ⟨hwarned.1, .inr (Rule.sorted_perm _)⟩
    · cases h

end Boundary

namespace LintReport

theorem filter_group_issues (lines : List Line) (file : Text) (checks : Checks) :
    (ofLines lines file checks).issues.filter (·.finding.stage = .group) =
      (Boundary.all lines).flatMap fun boundary =>
        ((Linter.start checks).run boundary.before).boundaryIssues boundary.number
          boundary.echo := by
  have hclosing : (((Linter.start checks).run lines).closingIssues).filter
      (·.finding.stage = .group) = [] := by
    rw [List.filter_eq_nil_iff]
    intro issue h hstage
    cases (Linter.stage_of_mem_closingIssues h).symm.trans (of_decide_eq_true hstage)
  have htrace := Linter.filter_group_trace checks [] lines
  rw [Linter.run_nil, List.nil_append] at htrace
  rw [issues_ofLines, Linter.remainder, List.filter_append, hclosing, List.append_nil]
  exact htrace

theorem exists_boundary {lines : List Line} {file : Text} {checks : Checks} {issue : Issue}
    (h : issue ∈ (ofLines lines file checks).issues) (hstage : issue.finding.stage = .group) :
    ∃ boundary ∈ Boundary.all lines,
      issue ∈ ((Linter.start checks).run boundary.before).boundaryIssues boundary.number
        boundary.echo := by
  rw [← List.mem_flatMap, ← filter_group_issues lines file checks]
  exact List.mem_filter.2 ⟨h, decide_eq_true hstage⟩

/-- The issues about groups are the warnings of the boundaries, in order, and the rules of a group
that is warned about, among which are all that the warning names, were accepted. -/
theorem group_warnings (data : Bytes) (file : Text) :
    let report := ofBytes data file { order := true }
    let boundaries := Boundary.all (Line.ofData data)
    report.issues.filter (·.finding.stage = .group) =
        boundaries.flatMap (·.warnings report.issues) ∧
      ∀ issue ∈ report.issues, issue.finding.stage = .group →
        ∃ boundary ∈ boundaries, issue ∈ boundary.warnings report.issues ∧
          (∀ text ∈ issue.suggested, ∃ line ∈ boundary.rules, line.text = text) ∧
          ∀ line ∈ boundary.rules, line.Accepted report.issues := by
  have increasing := Line.increasing_ofData data
  have hwarnings {boundary : Boundary} (hm : boundary ∈ Boundary.all (Line.ofData data)) :=
    Boundary.boundaryIssues_eq_warnings file { order := true } rfl increasing hm
  refine ⟨(filter_group_issues _ _ _).trans (List.flatMap_congr fun _ hm => hwarnings hm), ?_⟩
  intro issue hm hstage
  obtain ⟨boundary, hboundary, hwarning⟩ := exists_boundary hm hstage
  rw [hwarnings hboundary] at hwarning
  obtain ⟨heffective, hnamed⟩ := Boundary.mem_warnings hwarning
  refine ⟨boundary, hboundary, hwarning, ?_, ?_⟩
  · intro text htext
    rcases hnamed with hnil | hperm
    · rw [hnil] at htext
      cases htext
    · exact List.mem_map.1 (hperm.mem_iff.1 htext)
  · intro line hline
    obtain ⟨after, hin⟩ := Boundary.mem_all hboundary
    have hmem : line ∈ Line.ofData data := by
      rw [hin.splits]
      exact List.mem_append_left _ (List.rtakeWhile_suffix _ _ |>.mem hline)
    exact accepted_of_not_hasError file _ increasing hmem
      (Line.kind_of_mem_trailingRules hline) (heffective.rules line hline)

end LintReport
end SuffixLint
