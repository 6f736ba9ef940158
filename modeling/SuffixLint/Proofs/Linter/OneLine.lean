import SuffixLint.Proofs.Line.OneLine
import SuffixLint.Proofs.Linter.Accounting

namespace SuffixLint

/-- All that is shown of an issue is on one line each. -/
structure Issue.FitsLines (issue : Issue) : Prop where
  echo : ∀ echo ∈ issue.echo, echo.IsOneLine
  details : ∀ detail ∈ issue.details, detail.IsOneLine

theorem Line.fitsLines_issue {line : Line} (h : line.IsOneLine) (finding : Finding) :
    (line.issue finding).FitsLines := by
  constructor
  · intro echo he
    obtain rfl := Option.some.inj he
    rw [Line.echo_eq]
    split
    · exact h.text
    · exact h.shown
  · intro detail hdetail
    cases hdetail

theorem Line.IsOneLine.boundaryEcho {line : Line} (h : line.IsOneLine) :
    ∀ echo ∈ line.boundaryEcho, echo.IsOneLine := by
  intro echo he
  rw [Line.boundaryEcho] at he
  split at he
  · obtain rfl := Option.some.inj he
    exact h.shown
  · cases he

namespace Entry

theorem isOneLine_renderAll {entries : List Entry}
    (h : ∀ entry ∈ entries, entry.domain.IsOneLine) : (renderAll entries).IsOneLine := by
  have hdomains : ∀ text ∈ entries.map domain, text.IsOneLine := List.forall_mem_map.2 h
  have hopening : Text.IsOneLine "[".toList := by decide
  have hseparator : Text.IsOneLine ", ".toList := by decide
  have hclosing : Text.IsOneLine "]".toList := by decide
  exact (hopening.append (hseparator.join hdomains)).append hclosing

end Entry

namespace Group

def FitsLines (group : Group) : Prop := ∀ entry ∈ group.entries.toList, entry.domain.IsOneLine

theorem fitsLines_empty : FitsLines {} := by
  intro entry h
  cases h

theorem FitsLines.push {group : Group} (h : group.FitsLines) {text : Text}
    (htext : text.IsOneLine) : (group.push text).FitsLines := by
  intro entry hm
  rw [entries_push] at hm
  rcases List.mem_append.1 hm with hm | hm
  · exact h entry hm
  · rw [List.mem_singleton.1 hm, Entry.domain_ofRule]
    exact htext

theorem isOneLine_of_mem_suggestion {entries : List Entry}
    (h : ∀ entry ∈ entries, entry.domain.IsOneLine) {detail : Text}
    (hdetail : detail ∈ suggestion entries) : detail.IsOneLine := by
  have hsorted : ∀ entry ∈ Entry.sort entries, entry.domain.IsOneLine :=
    fun entry hm => h entry ((Entry.sort_perm entries).subset hm)
  have hindent : Text.IsOneLine "  ".toList := by decide
  have hheading : suggestionHeading.IsOneLine := by decide +kernel
  rcases List.mem_cons.1 hdetail with rfl | hdetail
  · exact hindent.append (Entry.isOneLine_renderAll h)
  rcases List.mem_cons.1 hdetail with rfl | hdetail
  · exact hindent.append (Entry.isOneLine_renderAll hsorted)
  rcases List.mem_cons.1 hdetail with rfl | hdetail
  · exact hheading
  · obtain ⟨entry, hentry, rfl⟩ := List.mem_map.1 hdetail
    exact hsorted entry hentry

theorem FitsLines.of_mem_closingIssues {group : Group} (h : group.FitsLines) {tainted : Bool}
    {line : Nat} {echo : Option Text} (hecho : ∀ text ∈ echo, text.IsOneLine) {issue : Issue}
    (hissue : issue ∈ group.closingIssues tainted line echo) : issue.FitsLines := by
  rw [closingIssues] at hissue
  split at hissue
  · cases hissue
  rcases List.mem_append.1 hissue with hissue | hissue
  · split at hissue
    · cases hissue
    · rw [List.mem_singleton.1 hissue]
      exact ⟨hecho, fun _ hm => absurd hm List.not_mem_nil⟩
  · split at hissue
    · cases hissue
    · rw [List.mem_singleton.1 hissue]
      exact ⟨hecho, fun _ hm => isOneLine_of_mem_suggestion h hm⟩

end Group

namespace Linter

variable {linter : Linter} {line : Line} {lines : List Line} {issue : Issue}

theorem fitsLines_group_step (hgroup : linter.group.FitsLines) (hline : line.IsOneLine) :
    (linter.step line).group.FitsLines := by
  rw [group_step]
  split
  · exact hgroup.push hline.text
  split
  · exact Group.fitsLines_empty
  · exact hgroup

theorem fitsLines_group_run (hgroup : linter.group.FitsLines)
    (hlines : ∀ line ∈ lines, line.IsOneLine) : (linter.run lines).group.FitsLines := by
  induction lines generalizing linter with
  | nil => exact hgroup
  | cons line rest ih =>
    obtain ⟨hline, hrest⟩ := List.forall_mem_cons.1 hlines
    exact ih (fitsLines_group_step hgroup hline) hrest

theorem fitsLines_of_mem_boundaryIssues (hgroup : linter.group.FitsLines) {number : Nat}
    {echo : Option Text} (hecho : ∀ text ∈ echo, text.IsOneLine)
    (h : issue ∈ linter.boundaryIssues number echo) : issue.FitsLines := by
  rw [boundaryIssues] at h
  split at h
  · exact hgroup.of_mem_closingIssues hecho h
  · cases h

theorem fitsLines_of_mem_lineIssues (hgroup : linter.group.FitsLines) (hline : line.IsOneLine)
    (h : issue ∈ linter.lineIssues line) : issue.FitsLines := by
  rcases List.mem_append.1 h with h | h
  · rcases List.mem_append.1 h with h | h
    · rw [Line.mem_spaceIssues h]
      exact Line.fitsLines_issue hline .outerSpace
    · exact fitsLines_of_mem_boundaryIssues hgroup hline.boundaryEcho (mem_groupIssues.1 h).2
  · obtain ⟨finding, _, rfl⟩ := List.mem_map.1 h
    exact Line.fitsLines_issue hline finding

theorem fitsLines_of_mem_trace (hgroup : linter.group.FitsLines)
    (hlines : ∀ line ∈ lines, line.IsOneLine) (h : issue ∈ linter.trace lines) :
    issue.FitsLines := by
  induction lines generalizing linter with
  | nil => cases h
  | cons line rest ih =>
    obtain ⟨hline, hrest⟩ := List.forall_mem_cons.1 hlines
    rw [trace] at h
    rcases List.mem_append.1 h with h | h
    · exact fitsLines_of_mem_lineIssues hgroup hline h
    · exact ih (fitsLines_group_step hgroup hline) hrest h

theorem fitsLines_of_mem_remainder (hgroup : linter.group.FitsLines)
    (hlines : ∀ line ∈ lines, line.IsOneLine) (h : issue ∈ linter.remainder lines) :
    issue.FitsLines := by
  have hnone : ∀ text ∈ (none : Option Text), text.IsOneLine := by
    intro text ht
    cases ht
  rcases List.mem_append.1 h with h | h
  · rcases List.mem_append.1 h with h | h
    · exact fitsLines_of_mem_trace hgroup hlines h
    · exact fitsLines_of_mem_boundaryIssues (fitsLines_group_run hgroup hlines) hnone h
  · obtain ⟨finding, _, rfl⟩ := List.mem_map.1 h
    exact ⟨hnone, fun _ hm => absurd hm List.not_mem_nil⟩

end Linter

theorem LintReport.fitsLines_of_mem_issues {data : Bytes} {file : Text} {checks : Checks}
    {issue : Issue} (h : issue ∈ (ofBytes data file checks).issues) : issue.FitsLines := by
  rw [ofBytes, issues_ofLines] at h
  exact Linter.fitsLines_of_mem_remainder Group.fitsLines_empty
    (fun _ hline => Line.isOneLine_of_mem_ofData hline) h

end SuffixLint
