import SuffixLint.Proofs.Linter.Clean
import SuffixLint.Proofs.Section.Pairs

namespace SuffixLint

namespace SectionHistory

theorem closingFindings_no_error_iff {history : SectionHistory} :
    (∀ finding ∈ history.closingFindings, finding.isError = false) ↔
      history.current = .outside := by
  have htally : ∀ finding ∈ Section.all.flatMap history.tally, finding.isError = false := by
    intro finding h
    obtain ⟨s, _, h⟩ := List.mem_flatMap.1 h
    rw [tally] at h
    split at h
    · rw [List.mem_singleton.1 h]; rfl
    · cases h
    · rw [List.mem_singleton.1 h]; rfl
  cases hc : history.current with
  | outside =>
    refine iff_of_true ?_ rfl
    intro finding h
    rw [closingFindings, hc] at h
    exact htally finding h
  | inside s =>
    refine iff_of_false ?_ Region.noConfusion
    intro h
    have hopen : Finding.sectionNotClosed (.inside s) ∈ history.closingFindings := by
      rw [closingFindings, hc]
      exact List.mem_cons_self
    have herror : (Finding.sectionNotClosed (.inside s)).isError = true := rfl
    exact Bool.false_ne_true ((h _ hopen).symm.trans herror)

end SectionHistory

namespace Linter

theorem boundaryIssues_not_isError {linter : Linter} {number : Nat} {echo : Option Text}
    {issue : Issue} (h : issue ∈ linter.boundaryIssues number echo) :
    issue.isError = false :=
  Finding.not_isError_of_group (mem_boundaryIssues h).1

theorem lineIssues_no_error_iff {linter : Linter} {line : Line} :
    (∀ issue ∈ linter.lineIssues line, issue.isError = false) ↔ linter.ownFindings line = [] := by
  constructor
  · intro h
    rw [List.eq_nil_iff_forall_not_mem]
    intro finding hf
    have hissue : line.issue finding ∈ linter.lineIssues line :=
      List.mem_append_right _ (List.mem_map_of_mem hf)
    have herror := Finding.isError_of_isOwn (isOwn_ownFindings hf)
    exact Bool.false_ne_true ((h _ hissue).symm.trans herror)
  · intro h issue hi
    rw [lineIssues, h, List.map_nil, List.append_nil] at hi
    rcases List.mem_append.1 hi with hi | hi
    · rw [Line.mem_spaceIssues hi]; rfl
    · exact boundaryIssues_not_isError (mem_groupIssues.1 hi).2

end Linter

namespace LintReport

theorem errors_ofLines_eq_zero_iff {lines : List Line} {file : Text} {checks : Checks} :
    (ofLines lines file checks).summary.errors = 0 ↔
      (Linter.start checks).Clean lines ∧
        (SectionHistory.takeAll {} (Line.comments lines)).current = .outside := by
  rw [errors_ofLines, List.countP_eq_zero, issues_ofLines, Linter.remainder]
  simp only [Bool.not_eq_true, List.mem_append]
  constructor
  · intro h
    constructor
    · intro before line after he
      refine Linter.lineIssues_no_error_iff.1 ?_
      intro issue hi
      exact h issue (.inl (.inl (Linter.mem_trace.2 ⟨before, line, after, he, hi⟩)))
    · rw [← Linter.sections_run_start checks, ← SectionHistory.closingFindings_no_error_iff]
      intro finding hf
      exact h _ (.inr (List.mem_map_of_mem hf))
  · rintro ⟨hlines, hclosed⟩ issue ((hi | hi) | hi)
    · obtain ⟨before, line, after, he, hi⟩ := Linter.mem_trace.1 hi
      exact Linter.lineIssues_no_error_iff.2 (hlines before line after he) issue hi
    · exact Linter.boundaryIssues_not_isError hi
    · obtain ⟨finding, hf, rfl⟩ := List.mem_map.1 hi
      rw [← Linter.sections_run_start checks, ← SectionHistory.closingFindings_no_error_iff]
        at hclosed
      exact hclosed finding hf

end LintReport

namespace Line

def markers (lines : List Line) : List Text := (comments lines).filter Marker.isMarkerLike

theorem marked_of_mem_comments {lines : List Line} {comment : Text}
    (h : comment ∈ comments lines) : commentMark <+: comment := by
  obtain ⟨line, hline, rfl⟩ := List.mem_map.1 h
  have hkind : line.kind = .comment := of_decide_eq_true (List.mem_filter.1 hline).2
  exact List.isPrefixOf_iff_prefix.1 (kind_eq_comment_iff.1 hkind)

theorem eachAfter_markerFindings_iff {lines : List Line} {checks : Checks} :
    EachAfter (fun before line => line.kind = .comment →
        ((Linter.start checks).run before).markerFindings line = []) lines ↔
      SectionHistory.Quiet (comments lines) := by
  induction lines using List.reverseRecOn with
  | nil => exact iff_of_true (.nil _) (.nil _)
  | append_singleton lines line ih =>
    rw [eachAfter_append_singleton, ih, comments_append, comments_singleton]
    by_cases h : line.kind = .comment
    · rw [if_pos h, SectionHistory.Quiet, SectionHistory.Quiet, eachAfter_append_singleton,
        Linter.markerFindings, Linter.sections_run_start, Option.toList_eq_nil_iff]
      simp only [h, true_implies]
    · rw [if_neg h, List.append_nil]
      simp only [h, false_implies, and_true]

end Line

structure WellFormed (lines : List Line) : Prop where
  /-- Markers come in pairs that open and close one section. -/
  sections : ∃ pairs : List Section, Line.markers lines = pairs.flatMap Section.pair
  /-- Before every rule a section is open. -/
  inside : EachAfter (fun before line => line.kind = .rule →
    ∃ (pairs : List Section) (s : Section),
      Line.markers before = pairs.flatMap Section.pair ++ [s.opening]) lines
  spelling : ∀ line ∈ lines, line.kind = .rule → line.Spelt
  /-- No two rules have the same domain. -/
  distinct : (Line.domains lines).Nodup
  /-- An exception below a domain comes after the wildcard for that domain. -/
  exceptions : EachAfter (fun before line => line.kind = .rule →
    ∀ x above, '.' ∉ x → line.text = '!' :: (x ++ '.' :: above) →
      ∃ earlier ∈ before, earlier.kind = .rule ∧ earlier.text = '*' :: '.' :: above) lines

namespace Linter

variable {checks : Checks} {lines : List Line}

theorem holdsWildcard_start (name : Text) :
    ¬ (start checks).registry.holdsWildcard name = true := by
  rw [Registry.holdsWildcard_iff]
  rintro ⟨registration, hget, _⟩
  cases (Registry.get?_empty name).symm.trans hget

theorem wellFormed_of_welcomes (welcome : (start checks).Welcomes lines)
    (closed : (SectionHistory.takeAll {} (Line.comments lines)).current = .outside) :
    WellFormed lines where
  sections := by
    have hquiet := Line.eachAfter_markerFindings_iff.1 welcome.markers
    obtain ⟨pairs, h⟩ := (SectionHistory.quiet_iff_paired
      (fun _ => Line.marked_of_mem_comments) .outside).1 ⟨hquiet, closed⟩
    exact ⟨pairs, by rw [Line.markers, h, Region.opened, List.append_nil]⟩
  inside := by
    intro before line after he hk
    have hmarkers := welcome.markers
    rw [he] at hmarkers
    have hquiet := Line.eachAfter_markerFindings_iff.1 hmarkers.of_append
    have hcurrent := welcome.inside before line after he hk
    rw [sections_run_start] at hcurrent
    cases hc : (SectionHistory.takeAll {} (Line.comments before)).current with
    | outside => exact absurd hc hcurrent
    | inside s =>
      obtain ⟨pairs, h⟩ := (SectionHistory.quiet_iff_paired
        (fun _ => Line.marked_of_mem_comments) (.inside s)).1 ⟨hquiet, hc⟩
      exact ⟨pairs, s, h⟩
  spelling := welcome.spelling
  distinct := welcome.distinct
  exceptions := by
    intro before line after he hk x above hx htext
    rcases welcome.exceptions before line after he hk x above hx htext with hwild | hearlier
    · exact absurd hwild (holdsWildcard_start above)
    · exact hearlier

theorem welcomes_of_wellFormed (h : WellFormed lines)
    (quiet : SectionHistory.Quiet (Line.comments lines)) : (start checks).Welcomes lines where
  markers := Line.eachAfter_markerFindings_iff.2 quiet
  inside := by
    intro before line after he hk
    obtain ⟨pairs, s, hinside⟩ := h.inside before line after he hk
    have hcurrent := ((SectionHistory.quiet_iff_paired
      (fun _ => Line.marked_of_mem_comments) (.inside s)).2 ⟨pairs, hinside⟩).2
    rw [sections_run_start, hcurrent]
    exact Region.noConfusion
  spelling := h.spelling
  distinct := h.distinct
  new := fun _ _ _ => Registry.get?_empty _
  exceptions := by
    intro before line after he hk x above hx htext
    exact .inr (h.exceptions before line after he hk x above hx htext)

theorem clean_and_closed_iff_wellFormed :
    ((start checks).Clean lines ∧
        (SectionHistory.takeAll {} (Line.comments lines)).current = .outside) ↔
      WellFormed lines := by
  rw [clean_iff_welcomes]
  constructor
  · rintro ⟨welcome, closed⟩
    exact wellFormed_of_welcomes welcome closed
  · intro h
    obtain ⟨pairs, hpairs⟩ := h.sections
    have hpaired : Paired (Line.markers lines) .outside :=
      ⟨pairs, by rw [hpairs, Region.opened, List.append_nil]⟩
    obtain ⟨hquiet, hclosed⟩ := (SectionHistory.quiet_iff_paired
      (fun _ => Line.marked_of_mem_comments) .outside).2 hpaired
    exact ⟨welcomes_of_wellFormed h hquiet, hclosed⟩

end Linter

/-- A registry is reported without errors exactly when it is well formed, whether groups are checked
or not. -/
theorem LintReport.errors_eq_zero_iff_wellFormed (data : Bytes) (file : Text) (checks : Checks) :
    (LintReport.ofBytes data file checks).summary.errors = 0 ↔ WellFormed (Line.ofData data) := by
  rw [ofBytes, errors_ofLines_eq_zero_iff]
  exact Linter.clean_and_closed_iff_wellFormed

end SuffixLint
