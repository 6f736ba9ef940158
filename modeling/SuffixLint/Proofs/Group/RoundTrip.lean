import SuffixLint.Proofs.Group.Resort
import SuffixLint.Proofs.Group.Warnings
import SuffixLint.Proofs.Text.Parts

namespace SuffixLint

namespace Entry

variable {entry : Entry} {label text : Text}

theorem ofRule_ne_nil (text : Text) : ofRule text ≠ [] :=
  fun h => Rule.labels_ne_nil text (List.reverse_eq_nil_iff.1 h)

theorem dot_not_mem_of_mem_ofRule (h : label ∈ ofRule text) : '.' ∉ label :=
  Text.not_mem_of_mem_splitOn (List.mem_reverse.1 h)

theorem ofRule_domain (nonempty : entry ≠ []) (dotFree : ∀ label ∈ entry, '.' ∉ label) :
    ofRule entry.domain = entry := by
  have hnonempty : entry.reverse ≠ [] := mt List.reverse_eq_nil_iff.1 nonempty
  have hdotFree : ∀ label ∈ entry.reverse, '.' ∉ label :=
    fun label hlabel => dotFree label (List.mem_reverse.1 hlabel)
  rw [ofRule, domain, Rule.labels_ofLabels hdotFree hnonempty, List.reverse_reverse]

end Entry

/-- Whether an issue suggests another order for some rules: behind the first heading it lists just
these rules, and not in the order in which they stand. -/
def Issue.Rearranges (issue : Issue) (texts : List Text) : Prop :=
  ∃ shown rearranged, issue.details = shown ++ Group.suggestionHeading :: rearranged ∧
    Group.suggestionHeading ∉ shown ∧ rearranged.Perm texts ∧ rearranged ≠ texts

namespace Group

variable {texts : List Text} {issue : Issue}

theorem entries_foldl_push (group : Group) (texts : List Text) :
    (texts.foldl push group).entries.toList =
      group.entries.toList ++ texts.map Entry.ofRule := by
  induction texts generalizing group with
  | nil => exact (List.append_nil _).symm
  | cons text texts ih =>
    rw [List.foldl_cons, ih, entries_push, List.append_assoc, List.map_cons,
      List.singleton_append]

theorem sorted_ne_of_unsorted
    (h : Entry.sort (texts.map Entry.ofRule) ≠ texts.map Entry.ofRule) :
    Rule.sorted texts ≠ texts := by
  intro he
  apply h
  rw [← Entry.map_ofRule_sorted, he]

theorem rearranges_of_unsorted
    (h : Entry.sort (texts.map Entry.ofRule) ≠ texts.map Entry.ofRule)
    (hdetails : issue.details = suggestion (texts.map Entry.ofRule)) : issue.Rearranges texts := by
  let entries := texts.map Entry.ofRule
  let renderings := [entries, Entry.sort entries].map ("  ".toList ++ Entry.renderAll ·)
  refine ⟨renderings, Rule.sorted texts, hdetails, ?_, Rule.sorted_perm texts,
    sorted_ne_of_unsorted h⟩
  intro hm
  rcases List.mem_pair.1 hm with he | he
  · exact indented_ne_suggestionHeading _ he.symm
  · exact indented_ne_suggestionHeading _ he.symm

theorem rearranges_of_mem_closingIssues {tainted : Bool} {line : Nat} {echo : Option Text}
    (h : issue ∈ (texts.foldl push {}).closingIssues tainted line echo)
    (unsorted : issue.finding = .unsortedGroup) : issue.Rearranges texts := by
  rw [closingIssues, entries_foldl_push] at h
  split at h
  · cases h
  · obtain ⟨hne, he⟩ := unsortedGroup_mem_issues h unsorted
    exact rearranges_of_unsorted hne (congrArg Issue.details he)

end Group

theorem LintReport.exists_boundary_rearranges {data : Bytes} {file : Text} {checks : Checks}
    {issue : Issue} (h : issue ∈ (LintReport.ofBytes data file checks).issues)
    (unsorted : issue.finding = .unsortedGroup) :
    ∃ boundary ∈ Boundary.all (Line.ofData data),
      issue.line = boundary.number ∧ issue.Rearranges boundary.texts := by
  have hstage : issue.finding.stage = .group := by
    rw [unsorted]
    rfl
  obtain ⟨boundary, hboundary, warned⟩ := LintReport.exists_boundary h hstage
  cases order : checks.order with
  | false =>
    have hunordered : ((Linter.start checks).run boundary.before).checks.order = false := by
      rw [Linter.checks_run]
      exact order
    rw [Linter.boundaryIssues_of_unordered hunordered] at warned
    cases warned
  | true =>
    obtain ⟨hne, he⟩ := Boundary.unsorted_of_warned order warned unsorted
    exact ⟨boundary, hboundary, congrArg Issue.line he,
      Group.rearranges_of_unsorted hne (congrArg Issue.details he)⟩

/-- Every rule becomes an entry of labels without dots, of which there is one at least, and every
such list of labels is the entry of the rule that it is written as. So what a group that is out of
order suggests are the rules that it was given, in another order, and that holds of all such
warnings of a run. -/
theorem Group.entries_roundTrip :
    (∀ (group : Group) (text : Text), ∃ entry : Entry,
      (group.push text).entries.toList = group.entries.toList ++ [entry] ∧
        entry ≠ [] ∧ (∀ label ∈ entry, '.' ∉ label) ∧ entry.domain = text) ∧
    (∀ (group : Group) (entry : Entry), entry ≠ [] → (∀ label ∈ entry, '.' ∉ label) →
      (group.push entry.domain).entries.toList = group.entries.toList ++ [entry]) ∧
    (∀ (texts : List Text) (log : IssueLog) (line : Nat) (echo : Option Text), ∃ added,
      ((texts.foldl Group.push {}).conclude log line echo).issues.toList =
          log.issues.toList ++ added ∧
        ∀ issue ∈ added, issue.finding = .unsortedGroup → issue.Rearranges texts) ∧
    ∀ (data : Bytes) (file : Text) (checks : Checks),
      ∀ issue ∈ (LintReport.ofBytes data file checks).issues,
        issue.finding = .unsortedGroup →
          ∃ boundary ∈ Boundary.all (Line.ofData data),
            issue.line = boundary.number ∧ issue.Rearranges boundary.texts := by
  refine ⟨?entry, ?rule, ?suggestion, ?run⟩
  case entry =>
    intro group text
    exact ⟨Entry.ofRule text, entries_push group text, Entry.ofRule_ne_nil text,
      fun _ => Entry.dot_not_mem_of_mem_ofRule, Entry.domain_ofRule text⟩
  case rule =>
    intro group entry nonempty dotFree
    rw [entries_push, Entry.ofRule_domain nonempty dotFree]
  case suggestion =>
    intro texts log line echo
    exact ⟨_, issues_conclude _ log line echo, fun _ => rearranges_of_mem_closingIssues⟩
  case run =>
    intro data file checks issue h unsorted
    exact LintReport.exists_boundary_rearranges h unsorted

/-- Empty labels at both ends of an entry, and a group of rules with empty labels. -/
theorem Group.entries_roundTrip_emptyLabels :
    let entry : Entry := [[], "a".toList, []]
    let texts := ["b..com".toList, ".com".toList]
    let log := (texts.foldl push {}).conclude {} 2 none
    entry ≠ [] ∧ (∀ label ∈ entry, '.' ∉ label) ∧ entry.domain = ".a.".toList ∧
      (push {} entry.domain).entries.toList = [entry] ∧
      ∃ issue ∈ log.issues.toList, issue.finding = .unsortedGroup ∧ issue.Rearranges texts := by
  intro entry texts log
  have hnonempty : entry ≠ [] := by decide
  have hdotFree : ∀ label ∈ entry, '.' ∉ label := by decide
  obtain ⟨_, hrule, hsuggestion, _⟩ := entries_roundTrip
  obtain ⟨added, hadded, hrearranges⟩ := hsuggestion texts {} 2 none
  have hunsorted : Entry.sort (texts.map Entry.ofRule) ≠ texts.map Entry.ofRule := by
    rw [ne_eq, Entry.sort_eq_self_iff]
    decide
  have hissues : log.issues.toList = issues (texts.map Entry.ofRule) 2 none := by
    rw [issues_conclude]
    rfl
  have hissue : { line := 2, finding := .unsortedGroup, echo := none
                  details := suggestion (texts.map Entry.ofRule) } ∈ log.issues.toList := by
    rw [hissues, issues_of_unsorted hunsorted]
    exact List.mem_append_right _ List.mem_cons_self
  refine ⟨hnonempty, hdotFree, rfl, hrule {} entry hnonempty hdotFree, _, hissue, rfl, ?_⟩
  refine hrearranges _ ?_ rfl
  rw [hadded] at hissue
  exact hissue

end SuffixLint
