import SuffixLint.Proofs.Line.Correspondence
import SuffixLint.Proofs.Linter.Attribution

namespace SuffixLint

namespace Finding

/-- What the check of a rule may find. That it stands outside of all sections is not among this. -/
def isFromCheck : Finding → Bool
  | .invalidEncoding | .notNfkc | .notLowercase | .wildcardAndException
  | .exceptionWithoutWildcard | .emptyLabel | .punycode | .doubleMinus | .illegalCharacter
  | .doublette _ => true
  | _ => false

/-- What the look at sections may find, at a marker or at the end. -/
def isFromSections (finding : Finding) : Bool :=
  finding.stage = .marker || finding.stage = .closing

theorem stage_of_isFromCheck {finding : Finding} (h : finding.isFromCheck = true) :
    finding.stage = .rule := by
  cases finding <;> first | rfl | cases h

theorem isFromSections_iff {finding : Finding} :
    finding.isFromSections = true ↔ finding.stage = .marker ∨ finding.stage = .closing := by
  rw [isFromSections, Bool.or_eq_true, decide_eq_true_eq, decide_eq_true_eq]

theorem isInner_isFromCheck : IsInner isFromCheck := by
  intro finding h
  rw [stage_of_isFromCheck h]
  decide

theorem isInner_isFromSections : IsInner isFromSections := by
  intro finding h
  rcases isFromSections_iff.1 h with hstage | hstage
  · rw [hstage]
    decide
  · rw [hstage]
    decide

end Finding

theorem Rule.isFromCheck_of_mem_check {registry : Registry} {region : Region} {line : Line}
    {finding : Finding} (h : finding ∈ (check registry region line).findings) :
    finding.isFromCheck = true := by
  have hkinds : ∀ prior ∈ priorKinds, prior.isFromCheck = true := by decide
  rw [check_findings_eq] at h
  rcases List.mem_append.1 h with h | h
  · exact hkinds finding (mem_priorKinds h)
  · split at h
    · cases h
    · obtain ⟨earlier, _, rfl⟩ := mem_doubletteFindings.1 h
      rfl

namespace Registry

def issues (registry : Registry) : List Candidate → List Issue
  | [] => []
  | candidate :: rest =>
    (candidate.verdict registry).findings.map candidate.line.issue ++
      (registry.take candidate).issues rest

theorem Mirrors.issues {renumbering : Nat → Nat} {a b : Registry} (h : Mirrors renumbering a b)
    {old new : List Candidate}
    (hlines : new.map (·.line) = (old.map (·.line)).map (·.renumber renumbering)) :
    b.issues new = (a.issues old).map (·.relocate renumbering) := by
  induction old generalizing a b new with
  | nil =>
    rw [List.map_eq_nil_iff.1 hlines]
    rfl
  | cons candidate rest ih =>
    cases new with
    | nil => cases hlines
    | cons candidate' rest' =>
      simp only [List.map_cons, List.cons.injEq] at hlines
      obtain ⟨hline, hrest⟩ := hlines
      -- The regions may differ: markers between the rules are not the same in both registries.
      have hfindings : (candidate'.verdict b).findings =
          (candidate.verdict a).findings.map (·.renumber renumbering) := by
        rw [Candidate.verdict, hline, Rule.check_findings_renumber]
        exact h.check_findings _ _ _
      rw [Registry.issues, Registry.issues, List.map_append, ih (h.take hline) hrest, hfindings,
        hline, Line.map_relocate_issue]

end Registry

namespace SectionHistory

def markers (history : SectionHistory) : List Line → List (Nat × Finding)
  | [] => []
  | comment :: rest =>
    ((history.takeComment comment.text).2.toList.map fun finding => (comment.number, finding)) ++
      markers (history.takeComment comment.text).1 rest

theorem stage_markers {history : SectionHistory} {comments : List Line} {place : Nat × Finding}
    (h : place ∈ history.markers comments) : place.2.stage = .marker := by
  induction comments generalizing history with
  | nil => cases h
  | cons comment rest ih =>
    rcases List.mem_append.1 h with h | h
    · obtain ⟨finding, hf, rfl⟩ := List.mem_map.1 h
      exact stage_takeComment (Option.mem_toList.1 hf)
    · exact ih h

theorem markers_eq_map (history : SectionHistory) {renumbering : Nat → Nat} {old new : List Line}
    (htexts : new.map (·.text) = old.map (·.text))
    (hnumbers : new.map (·.number) = (old.map (·.number)).map renumbering) :
    history.markers new = (history.markers old).map (Prod.map renumbering id) := by
  induction old generalizing history new with
  | nil =>
    rw [List.map_eq_nil_iff.1 htexts]
    rfl
  | cons comment rest ih =>
    cases new with
    | nil => cases htexts
    | cons comment' rest' =>
      simp only [List.map_cons, List.cons.injEq] at htexts hnumbers
      obtain ⟨htext, htexts⟩ := htexts
      obtain ⟨hnumber, hnumbers⟩ := hnumbers
      rw [markers, markers, List.map_append, List.map_map, htext, hnumber, ih _ htexts hnumbers]
      rfl

end SectionHistory

namespace Linter

theorem filter_isFromCheck_ownFindings (linter : Linter) (line : Line) :
    (linter.ownFindings line).filter (·.isFromCheck) =
      if line.kind = .rule then
        (Rule.check linter.registry linter.sections.current line).findings
      else [] := by
  rw [ownFindings]
  cases hk : line.kind with
  | blank => rfl
  | comment =>
    rw [if_neg (by decide), List.filter_eq_nil_iff]
    intro finding hf hcheck
    cases (stage_markerFindings hf).symm.trans (Finding.stage_of_isFromCheck hcheck)
  | rule =>
    have houtside : (if linter.sections.current = .outside then
        [Finding.ruleOutsideSection] else []).filter (·.isFromCheck) = [] := by
      split <;> rfl
    rw [if_pos rfl, ruleFindings, List.filter_append, houtside, List.nil_append,
      List.filter_eq_self]
    intro finding hf
    exact Rule.isFromCheck_of_mem_check hf

theorem filter_isFromCheck_trace (linter : Linter) (lines : List Line) :
    (linter.trace lines).filter (·.finding.isFromCheck) =
      linter.registry.issues (Line.candidates linter.sections lines) := by
  induction lines generalizing linter with
  | nil => rfl
  | cons line rest ih =>
    rw [trace, List.filter_append, filter_lineIssues _ _ Finding.isInner_isFromCheck,
      filter_isFromCheck_ownFindings, ih, registry_step, sections_step, Line.candidates,
      Line.comments_singleton]
    cases hk : line.kind with
    | blank => rfl
    | comment => rfl
    | rule => rfl

theorem filter_isFromSections_ownFindings (linter : Linter) (line : Line) :
    (linter.ownFindings line).filter (·.isFromSections) =
      if line.kind = .comment then (linter.sections.takeComment line.text).2.toList else [] := by
  rw [ownFindings]
  cases hk : line.kind with
  | blank => rfl
  | comment =>
    rw [if_pos rfl, markerFindings, List.filter_eq_self]
    intro finding hf
    exact Finding.isFromSections_iff.2 (.inl (stage_markerFindings hf))
  | rule =>
    rw [if_neg (by decide), List.filter_eq_nil_iff]
    intro finding hf hsections
    rw [Finding.isFromSections_iff, stage_ruleFindings hf] at hsections
    revert hsections
    decide

end Linter

def Issue.place (issue : Issue) : Nat × Finding := (issue.line, issue.finding)

namespace Linter

theorem filter_isFromSections_trace (linter : Linter) (lines : List Line) :
    ((linter.trace lines).filter (·.finding.isFromSections)).map Issue.place =
      linter.sections.markers (lines.filter (·.kind = .comment)) := by
  induction lines generalizing linter with
  | nil => rfl
  | cons line rest ih =>
    rw [trace, List.filter_append, filter_lineIssues _ _ Finding.isInner_isFromSections,
      filter_isFromSections_ownFindings, List.map_append, ih, sections_step]
    by_cases hk : line.kind = .comment
    · rw [if_pos hk, if_pos hk, List.filter_cons_of_pos (by simpa using hk), List.map_map]
      rfl
    · rw [if_neg hk, if_neg hk, List.filter_cons_of_neg (by simpa using hk)]
      rfl

end Linter

namespace LintReport

variable (lines : List Line) (file : Text) (checks : Checks)

theorem filter_isFromCheck_issues :
    (ofLines lines file checks).issues.filter (·.finding.isFromCheck) =
      Registry.empty.issues (Line.candidates {} lines) := by
  have hclosing : ((Linter.start checks).run lines).closingIssues.filter
      (·.finding.isFromCheck) = [] := by
    rw [List.filter_eq_nil_iff]
    intro issue h hcheck
    cases (Linter.stage_of_mem_closingIssues h).symm.trans (Finding.stage_of_isFromCheck hcheck)
  rw [issues_ofLines, Linter.filter_remainder _ _ Finding.isInner_isFromCheck, hclosing,
    List.append_nil, Linter.filter_isFromCheck_trace]
  rfl

theorem filter_isFromSections_issues :
    ((ofLines lines file checks).issues.filter (·.finding.isFromSections)).map Issue.place =
      SectionHistory.markers {} (lines.filter (·.kind = .comment)) ++
        (SectionHistory.takeAll {} (Line.comments lines)).closingFindings.map
          (((Linter.start checks).run lines).lines, ·) := by
  have hclosing : ((Linter.start checks).run lines).closingIssues.filter
      (·.finding.isFromSections) = ((Linter.start checks).run lines).closingIssues := by
    rw [List.filter_eq_self]
    intro issue h
    exact Finding.isFromSections_iff.2 (.inr (Linter.stage_of_mem_closingIssues h))
  rw [issues_ofLines, Linter.filter_remainder _ _ Finding.isInner_isFromSections, hclosing,
    List.map_append, Linter.filter_isFromSections_trace, Linter.closingIssues,
    Linter.sections_run_start, List.map_map]
  rfl

theorem findings_of_sections :
    ((ofLines lines file checks).issues.filter (·.finding.isFromSections)).map (·.finding) =
      (SectionHistory.markers {} (lines.filter (·.kind = .comment))).map (·.2) ++
        (SectionHistory.takeAll {} (Line.comments lines)).closingFindings := by
  have hplaces := congrArg (List.map (·.2)) (filter_isFromSections_issues lines file checks)
  rw [List.map_map, List.map_append, List.map_map] at hplaces
  exact hplaces.trans (congrArg _ (List.map_id _))

theorem places_of_markers :
    ((ofLines lines file checks).issues.filter (·.finding.stage = .marker)).map Issue.place =
      SectionHistory.markers {} (lines.filter (·.kind = .comment)) := by
  have hsections : (ofLines lines file checks).issues.filter (·.finding.stage = .marker) =
      ((ofLines lines file checks).issues.filter (·.finding.isFromSections)).filter
        ((·.2.stage = .marker) ∘ Issue.place) := by
    rw [List.filter_filter]
    apply List.filter_congr
    intro issue _
    apply Bool.eq_self_and.2
    intro hmarker
    exact Finding.isFromSections_iff.2 (.inl (of_decide_eq_true hmarker))
  have hmarkers : (SectionHistory.markers {} (lines.filter (·.kind = .comment))).filter
      (·.2.stage = .marker) = SectionHistory.markers {} (lines.filter (·.kind = .comment)) := by
    rw [List.filter_eq_self]
    intro place h
    exact decide_eq_true (SectionHistory.stage_markers h)
  have hclosing : ((SectionHistory.takeAll {} (Line.comments lines)).closingFindings.map
      (((Linter.start checks).run lines).lines, ·)).filter (·.2.stage = .marker) = [] := by
    rw [List.filter_eq_nil_iff]
    intro place h hmarker
    obtain ⟨finding, hf, rfl⟩ := List.mem_map.1 h
    cases (SectionHistory.stage_closingFindings hf).symm.trans (of_decide_eq_true hmarker)
  rw [hsections, ← List.filter_map, filter_isFromSections_issues, List.filter_append, hmarkers,
    hclosing, List.append_nil]

/-- Where two registries have the same rule lines, the check finds the same in both, at lines that
correspond; where they have the same comments, so does the look at sections. -/
theorem stages_independent (data other : Bytes) (file file' : Text) (checks checks' : Checks) :
    let issues := (ofBytes data file checks).issues
    let issues' := (ofBytes other file' checks').issues
    (Line.ruleBodies other = Line.ruleBodies data →
      let place := Line.counterpart (Line.numbersOf .rule data) (Line.numbersOf .rule other)
      (Line.numbersOf .rule data).map place = Line.numbersOf .rule other ∧
      issues'.filter (·.finding.isFromCheck) =
        (issues.filter (·.finding.isFromCheck)).map (·.relocate place)) ∧
    (Line.comments (Line.ofData other) = Line.comments (Line.ofData data) →
      let place := Line.counterpart (Line.numbersOf .comment data) (Line.numbersOf .comment other)
      (Line.numbersOf .comment data).map place = Line.numbersOf .comment other ∧
      (issues'.filter (·.finding.stage = .marker)).map Issue.place =
        ((issues.filter (·.finding.stage = .marker)).map Issue.place).map (Prod.map place id) ∧
      (issues'.filter (·.finding.isFromSections)).map (·.finding) =
        (issues.filter (·.finding.isFromSections)).map (·.finding)) := by
  refine ⟨?_, ?_⟩
  · intro hrules
    refine ⟨Line.map_counterpart_rules hrules, ?_⟩
    rw [ofBytes, ofBytes, filter_isFromCheck_issues, filter_isFromCheck_issues]
    apply Registry.Mirrors.empty.issues
    rw [Line.map_line_candidates, Line.map_line_candidates]
    exact Line.rules_eq_map_renumber hrules
  · intro hcomments
    have hplace := Line.map_counterpart_comments hcomments
    have hmarkers := SectionHistory.markers_eq_map {} hcomments hplace.symm
    refine ⟨hplace, ?_, ?_⟩
    · rw [ofBytes, ofBytes, places_of_markers, places_of_markers]
      exact hmarkers
    · rw [ofBytes, ofBytes, findings_of_sections, findings_of_sections, hcomments, hmarkers,
        List.map_map]
      rfl

/-- The comment moves behind the first rule and a blank line comes in: what was a doublette of the
second line is one of the first line then. -/
theorem stages_independent_interleaved :
    let data := Utf8.encode "// ===END\na\na".toList
    let other := Utf8.encode "a\n  // ===END\n\na\n".toList
    let place := Line.counterpart [2, 3] [1, 4]
    let issues := (ofBytes data [] {}).issues
    let issues' := (ofBytes other [] { order := true }).issues
    Line.ruleBodies other = Line.ruleBodies data ∧
      Line.comments (Line.ofData other) = Line.comments (Line.ofData data) ∧
      issues'.filter (·.finding.isFromCheck) =
        (issues.filter (·.finding.isFromCheck)).map (·.relocate place) ∧
      (issues'.filter (·.finding.isFromSections)).map (·.finding) =
        (issues.filter (·.finding.isFromSections)).map (·.finding) := by
  intro data other place issues issues'
  have hrules : Line.ruleBodies other = Line.ruleBodies data := by decide
  have hcomments : Line.comments (Line.ofData other) = Line.comments (Line.ofData data) := by decide
  obtain ⟨hcheck, hsections⟩ := stages_independent data other [] [] {} { order := true }
  have hold : Line.numbersOf .rule data = [2, 3] := by decide
  have hnew : Line.numbersOf .rule other = [1, 4] := by decide
  obtain ⟨_, hissues⟩ := hcheck hrules
  rw [hold, hnew] at hissues
  exact ⟨hrules, hcomments, hissues, (hsections hcomments).2.2⟩

end LintReport
end SuffixLint
