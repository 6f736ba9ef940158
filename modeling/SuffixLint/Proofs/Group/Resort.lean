import SuffixLint.Proofs.Group.Boundary
import SuffixLint.Proofs.Linter.Reorder

namespace SuffixLint

namespace Group

theorem sameTopLevel_sorted (texts : List Text) :
    sameTopLevel ((Rule.sorted texts).map Entry.ofRule) =
      sameTopLevel (texts.map Entry.ofRule) := by
  rw [Bool.eq_iff_iff, sameTopLevel_map_ofRule_iff, sameTopLevel_map_ofRule_iff]
  simp only [(Rule.sorted_perm texts).mem_iff]

/-- The order of a group is all that sorting changes about what is reported. -/
theorem issues_of_unsorted {texts : List Text}
    (h : Entry.sort (texts.map Entry.ofRule) ≠ texts.map Entry.ofRule) (line : Nat)
    (echo : Option Text) :
    issues (texts.map Entry.ofRule) line echo =
      issues ((Rule.sorted texts).map Entry.ofRule) line echo ++
        [{ line, finding := .unsortedGroup, echo
           details := suggestion (texts.map Entry.ofRule) }] := by
  have hsorted : Entry.sort ((Rule.sorted texts).map Entry.ofRule) =
      (Rule.sorted texts).map Entry.ofRule := by
    rw [Entry.map_ofRule_sorted]
    exact Entry.sort_of_pairwise (Entry.pairwise_sort _)
  rw [issues, issues, sameTopLevel_sorted, if_neg h, if_pos hsorted, List.append_nil]

theorem unsortedGroup_mem_issues {entries : List Entry} {line : Nat} {echo : Option Text}
    {issue : Issue} (h : issue ∈ issues entries line echo) (hf : issue.finding = .unsortedGroup) :
    Entry.sort entries ≠ entries ∧
      issue = { line, finding := .unsortedGroup, echo, details := suggestion entries } := by
  rcases List.mem_append.1 h with h | h
  · split at h
    · cases h
    · rw [List.mem_singleton.1 h] at hf
      cases hf
  · split at h
    · cases h
    · next hne => exact ⟨hne, List.mem_singleton.1 h⟩

theorem unsortedGroup_not_mem_issues_sorted {texts : List Text} {line : Nat} {echo : Option Text}
    {issue : Issue} (h : issue ∈ issues ((Rule.sorted texts).map Entry.ofRule) line echo) :
    issue.finding ≠ .unsortedGroup := by
  intro hf
  refine (unsortedGroup_mem_issues h hf).1 ?_
  rw [Entry.map_ofRule_sorted]
  exact Entry.sort_of_pairwise (Entry.pairwise_sort _)

end Group

namespace Linter

variable {linter : Linter} {checks : Checks} {lines : List Line}

theorem trace_of_clean {rules : List Line} (h : ∀ line ∈ rules, line.kind = .rule)
    (clean : linter.Clean rules) :
    linter.trace rules = rules.flatMap (·.spaceIssues) := by
  induction rules using List.reverseRecOn with
  | nil => rfl
  | append_singleton rules line ih =>
    obtain ⟨hrules, hline⟩ := List.forall_mem_append.1 h
    obtain ⟨hclean, hown⟩ := clean_append_singleton.1 clean
    have hgroup : (linter.run rules).groupIssues line = [] :=
      if_pos (hline line (List.mem_singleton_self line))
    rw [trace_append, ih hrules hclean, trace_singleton, lineIssues, hgroup, hown,
      List.flatMap_append, List.append_nil, List.map_nil, List.append_nil]
    exact congrArg _ (List.append_nil _).symm

/-- An untainted group whose rules stand after the lines before them was welcome there. -/
theorem welcomes_of_untainted (order : checks.order = true)
    (h : ((start checks).run lines).log.tainted = false) :
    ((start checks).run (Line.beforeRules lines)).Welcomes (Line.trailingRules lines) :=
  clean_iff_welcomes.1 ((untainted_run_iff order lines).1 h).1

theorem untainted_of_welcomes (order : checks.order = true)
    (h : ((start checks).run lines).log.tainted = false) {rules : List Line}
    (hrules : ∀ line ∈ rules, line.kind = .rule)
    (welcome : ((start checks).run (Line.beforeRules lines)).Welcomes rules) :
    ((start checks).run (Line.beforeRules lines ++ rules)).log.tainted = false := by
  obtain ⟨htrailing, hbefore⟩ := Line.trailingRules_append (Line.beforeRules lines) hrules
  rw [Line.trailingRules_beforeRules, List.nil_append] at htrailing
  rw [Line.beforeRules_beforeRules] at hbefore
  rw [untainted_run_iff order, htrailing, hbefore]
  exact ⟨clean_iff_welcomes.2 welcome, ((untainted_run_iff order lines).1 h).2⟩

theorem boundaryIssues_of_untainted (order : checks.order = true)
    (h : ((start checks).run lines).log.tainted = false)
    (two : 2 ≤ (Line.trailingRules lines).length) (number : Nat) (echo : Option Text) :
    ((start checks).run lines).boundaryIssues number echo =
      Group.issues (((Line.trailingRules lines).map (·.text)).map Entry.ofRule) number echo := by
  have hentries := group_run order lines
  have hsize : ((start checks).run lines).group.size = (Line.trailingRules lines).length := by
    rw [Group.size, ← Array.length_toList, hentries, List.length_map]
  have hskip : ¬ (((start checks).run lines).log.tainted ||
      decide (((start checks).run lines).group.size < 2)) = true := by
    rw [h, hsize, Bool.false_or, decide_eq_true_eq, Nat.not_lt]
    exact two
  rw [boundaryIssues, if_pos (order_run order lines), Group.closingIssues, if_neg hskip, hentries,
    List.map_map]
  rfl

def afterBoundary (linter : Linter) (boundary : Boundary) (after : List Line) : List Issue :=
  match boundary.line with
  | none => linter.closingIssues
  | some line => (linter.ownFindings line).map line.issue ++ (linter.step line).remainder after

theorem remainder_boundary {boundary : Boundary} {after : List Line}
    (hin : boundary.IsIn lines after)
    (hlines : boundary.line = none → linter.lines = boundary.number) :
    linter.remainder (boundary.line.toList ++ after) =
      boundary.line.toList.flatMap (·.spaceIssues) ++
        linter.boundaryIssues boundary.number boundary.echo ++
          linter.afterBoundary boundary after := by
  cases hline : boundary.line with
  | none =>
    rw [hin.ends hline, Boundary.echo, hline, ← hlines hline, afterBoundary, hline]
    rfl
  | some line =>
    have hgroup : linter.groupIssues line =
        linter.boundaryIssues line.number line.boundaryEcho :=
      if_neg (hin.not_rule line (by rw [hline]; rfl))
    have hspace : [line].flatMap (·.spaceIssues) = line.spaceIssues := List.append_nil _
    rw [Option.toList_some, List.singleton_append, remainder_cons, lineIssues, hgroup,
      hspace, Boundary.number, Boundary.echo, afterBoundary, hline]
    simp only [Option.bind_some, List.append_assoc]

theorem line_of_mem_afterBoundary {boundary : Boundary} {after : List Line} {issue : Issue}
    (h : issue ∈ linter.afterBoundary boundary after) (hgroup : issue.finding.stage ≠ .group)
    (hclosing : issue.finding.stage ≠ .closing) :
    ∃ line ∈ boundary.line.toList ++ after, issue.line = line.number := by
  rw [afterBoundary] at h
  split at h
  · exact absurd (stage_of_mem_closingIssues h) hclosing
  · next line hline =>
    rcases List.mem_append.1 h with h | h
    · obtain ⟨finding, _, rfl⟩ := List.mem_map.1 h
      have hm : line ∈ boundary.line.toList := Option.mem_toList.2 hline
      exact ⟨line, List.mem_append_left _ hm, rfl⟩
    · obtain ⟨later, hm, hnumber⟩ := line_of_mem_remainder h hgroup hclosing
      exact ⟨later, List.mem_append_right _ hm, hnumber⟩

theorem group_of_mem_afterBoundary (order : linter.checks.order = true) {boundary : Boundary}
    {after : List Line} (hin : boundary.IsIn lines after) {issue : Issue}
    (h : issue ∈ linter.afterBoundary boundary after) (hgroup : issue.finding.stage = .group) :
    ∃ line ∈ boundary.line, ∃ later ∈ after, issue.line = later.number := by
  rw [afterBoundary] at h
  split at h
  · cases (stage_of_mem_closingIssues h).symm.trans hgroup
  · next line hline =>
    have hempty : (linter.step line).group = {} := by
      rw [group_step, if_neg (hin.not_rule line (by rw [hline]; rfl)), if_pos order]
    rcases List.mem_append.1 h with h | h
    · obtain ⟨finding, hf, rfl⟩ := List.mem_map.1 h
      exact absurd hgroup (Finding.stage_ne_of_isOwn (isOwn_ownFindings hf)).2.1
    · exact ⟨line, hline, line_of_group_mem_remainder hempty h hgroup⟩

variable {renumbering : Nat → Nat} {a b : Linter}

theorem Alike.afterBoundary (h : Alike renumbering a b) (order : a.checks.order = true)
    {boundary : Boundary} {after : List Line} (hin : boundary.IsIn lines after)
    (hfixed : ∀ line ∈ boundary.line.toList ++ after, renumbering line.number = line.number) :
    b.afterBoundary boundary after =
      (a.afterBoundary boundary after).map (·.renumber renumbering) := by
  rw [Linter.afterBoundary, Linter.afterBoundary]
  cases hline : boundary.line with
  | none => rw [h.closingIssues, renumber_closingIssues]
  | some line =>
    rw [hline] at hfixed
    obtain ⟨hfirst, hafter⟩ := List.forall_mem_append.1 hfixed
    have hstep := h.step_of_boundary order (hfirst line (List.mem_singleton_self line))
      (hin.not_rule line (by rw [hline]; rfl))
    rw [List.map_append]
    exact congrArg₂ (· ++ ·) (h.ownIssues line) (hstep.remainder hafter)

end Linter

namespace Boundary

variable {checks : Checks} {boundary : Boundary} {warning : Issue}

theorem two_le_of_warned (order : checks.order = true)
    (warned : warning ∈ ((Linter.start checks).run boundary.before).boundaryIssues
      boundary.number boundary.echo) : 2 ≤ boundary.rules.length := by
  have hsize := (Linter.checked_of_mem_boundaryIssues warned).2
  rw [Group.size, ← Array.length_toList, Linter.group_run order, List.length_map] at hsize
  exact hsize

theorem issues_of_warned (order : checks.order = true)
    (warned : warning ∈ ((Linter.start checks).run boundary.before).boundaryIssues
      boundary.number boundary.echo) :
    ((Linter.start checks).run boundary.before).boundaryIssues boundary.number boundary.echo =
      Group.issues (boundary.texts.map Entry.ofRule) boundary.number boundary.echo :=
  Linter.boundaryIssues_of_untainted order (Linter.checked_of_mem_boundaryIssues warned).1
    (two_le_of_warned order warned) boundary.number boundary.echo

theorem unsorted_of_warned (order : checks.order = true)
    (warned : warning ∈ ((Linter.start checks).run boundary.before).boundaryIssues
      boundary.number boundary.echo) (unsorted : warning.finding = .unsortedGroup) :
    Entry.sort (boundary.texts.map Entry.ofRule) ≠ boundary.texts.map Entry.ofRule ∧
      warning =
        { line := boundary.number, finding := .unsortedGroup, echo := boundary.echo
          details := Group.suggestion (boundary.texts.map Entry.ofRule) } := by
  have hwarned := warned
  rw [issues_of_warned order warned] at hwarned
  exact Group.unsortedGroup_mem_issues hwarned unsorted

end Boundary

/-- A warned group of a run, and its rules in order on the same lines. -/
structure Resorted (checks : Checks) (lines after new : List Line) (boundary : Boundary)
    (warning : Issue) : Prop where
  order : checks.order = true
  increasing : Line.Increasing lines
  isIn : boundary.IsIn lines after
  warned : warning ∈ ((Linter.start checks).run boundary.before).boundaryIssues boundary.number
    boundary.echo
  unsorted : warning.finding = .unsortedGroup
  numbers : new.map (·.number) = boundary.rules.map (·.number)
  texts : new.map (·.text) = Rule.sorted boundary.texts
  utf8 : ∀ line ∈ new, line.isUtf8 = true
  no_space : ∀ line ∈ new, line.hasOuterSpace = false

namespace Resorted

variable {checks : Checks} {lines after new : List Line} {boundary : Boundary} {warning : Issue}

theorem untainted (h : Resorted checks lines after new boundary warning) :
    ((Linter.start checks).run boundary.before).log.tainted = false :=
  (Linter.checked_of_mem_boundaryIssues h.warned).1

theorem reordered (h : Resorted checks lines after new boundary warning) :
    Reordered boundary.rules new where
  rules := fun _ => Line.kind_of_mem_trailingRules
  utf8 := h.utf8
  numbers := h.numbers
  increasing := by
    have hall := h.increasing
    rw [h.isIn.splits_rules] at hall
    exact (List.pairwise_append.1 (List.pairwise_append.1 hall).1).2.1
  texts := by
    rw [h.texts]
    exact Rule.sorted_perm boundary.texts

theorem welcomes (h : Resorted checks lines after new boundary warning) :
    ((Linter.start checks).run (Line.beforeRules boundary.before)).Welcomes boundary.rules :=
  Linter.welcomes_of_untainted h.order h.untainted

theorem welcomes_new (h : Resorted checks lines after new boundary warning) :
    ((Linter.start checks).run (Line.beforeRules boundary.before)).Welcomes new := by
  refine h.reordered.welcomes h.welcomes ?_
  have hordered := Rule.pairwise_not_asksFor_sorted boundary.texts
  rw [← h.texts, List.pairwise_map] at hordered
  exact hordered

theorem number_not_mem (h : Resorted checks lines after new boundary warning) {line : Line}
    (hm : line ∈ Line.beforeRules boundary.before ∨ line ∈ boundary.line.toList ++ after) :
    line.number ∉ boundary.rules.map (·.number) := by
  have hall := h.increasing
  rw [h.isIn.splits_rules] at hall
  intro hnumber
  obtain ⟨rule, hrule, hsame⟩ := List.mem_map.1 hnumber
  rcases hm with hm | hm
  · exact Line.Increasing.number_ne (List.pairwise_append.1 hall).1 hm hrule hsame.symm
  · exact Line.Increasing.number_ne hall (List.mem_append_right _ hrule) hm hsame

def moved (new : List Line) (boundary : Boundary) : Boundary :=
  { boundary with before := Line.beforeRules boundary.before ++ new }

theorem alike (h : Resorted checks lines after new boundary warning) :
    Linter.Alike (Reordered.place boundary.rules new)
      ((Linter.start checks).run boundary.before)
      ((Linter.start checks).run (moved new boundary).before) := by
  have hfixed : ∀ line ∈ Line.beforeRules boundary.before,
      Reordered.place boundary.rules new line.number = line.number :=
    fun line hm => Reordered.place_of_not_mem (h.number_not_mem (.inl hm))
  have hbefore := (Linter.renumbered_start checks).run hfixed
  -- Up to the group the two runs are one, and renumbering fixes all that was registered there.
  have halike := h.reordered.alike h.welcomes h.welcomes_new hbefore.registry
  have hparts : Line.beforeRules boundary.before ++ boundary.rules = boundary.before :=
    Line.beforeRules_append_trailingRules boundary.before
  rw [← Linter.run_append, ← Linter.run_append, hparts] at halike
  exact halike

def keptIssues (boundary : Boundary) : List Issue :=
  boundary.line.toList.flatMap (·.spaceIssues) ++
    Group.issues ((Rule.sorted boundary.texts).map Entry.ofRule) boundary.number boundary.echo

def remaining (checks : Checks) (boundary : Boundary) (after : List Line) : List Issue :=
  (Linter.start checks).trace (Line.beforeRules boundary.before) ++ keptIssues boundary ++
    ((Linter.start checks).run boundary.before).afterBoundary boundary after

theorem lines_eq_number (checks : Checks) {boundary : Boundary} (hline : boundary.line = none) :
    ((Linter.start checks).run boundary.before).lines = boundary.number := by
  rw [Linter.lines_run, Boundary.number, hline]
  rfl

theorem two (h : Resorted checks lines after new boundary warning) :
    2 ≤ boundary.rules.length :=
  Boundary.two_le_of_warned h.order h.warned

theorem old_issues (h : Resorted checks lines after new boundary warning) (file : Text) :
    (LintReport.ofLines lines file checks).issues =
      ((Linter.start checks).trace (Line.beforeRules boundary.before) ++
        boundary.rules.flatMap (·.spaceIssues) ++ keptIssues boundary) ++
      warning :: ((Linter.start checks).run boundary.before).afterBoundary boundary after := by
  obtain ⟨hunsorted, hwarning⟩ := Boundary.unsorted_of_warned h.order h.warned h.unsorted
  have hclean := Linter.clean_iff_welcomes.2 h.welcomes
  have htrace : (Linter.start checks).trace boundary.before =
      (Linter.start checks).trace (Line.beforeRules boundary.before) ++
        boundary.rules.flatMap (·.spaceIssues) := by
    rw [← Linter.trace_of_clean h.reordered.rules hclean, ← Linter.trace_append, Boundary.rules,
      Line.beforeRules_append_trailingRules]
  rw [LintReport.issues_ofLines, h.isIn.splits, Linter.remainder_append, htrace,
    Linter.remainder_boundary h.isIn (lines_eq_number checks),
    Boundary.issues_of_warned h.order h.warned, Group.issues_of_unsorted hunsorted, ← hwarning,
    keptIssues]
  simp only [List.append_assoc, List.singleton_append]

theorem number_moved (h : Resorted checks lines after new boundary warning) :
    (moved new boundary).number = boundary.number := by
  have hnumbers : (Line.beforeRules boundary.before ++ new).map (·.number) =
      boundary.before.map (·.number) := by
    rw [List.map_append, h.numbers, ← List.map_append, Boundary.rules,
      Line.beforeRules_append_trailingRules]
  rw [Boundary.number, Boundary.number, moved, hnumbers]

theorem trailingRules_moved (h : Resorted checks lines after new boundary warning) :
    Line.trailingRules (moved new boundary).before = new := by
  have hrules := (Line.trailingRules_append (Line.beforeRules boundary.before)
    h.reordered.rules_new).1
  rw [Line.trailingRules_beforeRules, List.nil_append] at hrules
  exact hrules

theorem trace_moved (h : Resorted checks lines after new boundary warning) :
    (Linter.start checks).trace (moved new boundary).before =
      (Linter.start checks).trace (Line.beforeRules boundary.before) := by
  have hclean := Linter.clean_iff_welcomes.2 h.welcomes_new
  have hnone : new.flatMap (·.spaceIssues) = [] := by
    rw [List.flatMap_eq_nil_iff]
    intro line hm
    rw [Line.spaceIssues, h.no_space line hm]
    rfl
  rw [moved, Linter.trace_append, Linter.trace_of_clean h.reordered.rules_new hclean, hnone,
    List.append_nil]

theorem boundaryIssues_moved (h : Resorted checks lines after new boundary warning) :
    ((Linter.start checks).run (moved new boundary).before).boundaryIssues boundary.number
        boundary.echo =
      Group.issues ((Rule.sorted boundary.texts).map Entry.ofRule) boundary.number
        boundary.echo := by
  have huntainted : ((Linter.start checks).run (moved new boundary).before).log.tainted = false :=
    Linter.untainted_of_welcomes h.order h.untainted h.reordered.rules_new h.welcomes_new
  have htwo : 2 ≤ (Line.trailingRules (moved new boundary).before).length := by
    have hlength := congrArg List.length h.numbers
    rw [List.length_map, List.length_map] at hlength
    rw [h.trailingRules_moved, hlength]
    exact h.two
  have hissues := Linter.boundaryIssues_of_untainted h.order huntainted htwo boundary.number
    boundary.echo
  rw [h.trailingRules_moved, h.texts] at hissues
  exact hissues

theorem new_issues (h : Resorted checks lines after new boundary warning) (file : Text) :
    (LintReport.ofLines
        (Line.beforeRules boundary.before ++ new ++ (boundary.line.toList ++ after)) file
        checks).issues =
      (Linter.start checks).trace (Line.beforeRules boundary.before) ++ keptIssues boundary ++
      (((Linter.start checks).run boundary.before).afterBoundary boundary after).map
        (·.renumber (Reordered.place boundary.rules new)) := by
  have hin : (moved new boundary).IsIn
      ((moved new boundary).before ++ (boundary.line.toList ++ after)) after :=
    ⟨rfl, h.isIn.not_rule, h.isIn.ends⟩
  have hremainder := Linter.remainder_boundary hin (lines_eq_number checks)
  rw [h.number_moved] at hremainder
  have order := Linter.order_run h.order boundary.before
  have hafter := h.alike.afterBoundary order h.isIn fun line hm =>
    Reordered.place_of_not_mem (h.number_not_mem (.inr hm))
  rw [LintReport.issues_ofLines, Linter.remainder_append, List.append_assoc, keptIssues,
    ← h.boundaryIssues_moved, ← hafter]
  exact congrArg₂ (· ++ ·) h.trace_moved hremainder

theorem warning_line (h : Resorted checks lines after new boundary warning) :
    warning.line = boundary.number :=
  (Linter.mem_boundaryIssues h.warned).2.1

theorem number_ne (h : Resorted checks lines after new boundary warning) {line : Line}
    (hm : line ∈ Line.beforeRules boundary.before ∨ boundary.line ≠ none ∧ line ∈ after) :
    line.number ≠ boundary.number := by
  have hall := h.increasing
  rw [h.isIn.splits_rules] at hall
  rw [Boundary.number]
  split
  · next last hlast =>
    rw [hlast] at hall
    rcases hm with hm | ⟨_, hm⟩
    · exact hall.number_ne (List.mem_append_left _ hm) List.mem_cons_self
    · have hrest : Line.Increasing (last :: after) := (List.pairwise_append.1 hall).2.1
      exact (Nat.ne_of_lt (List.rel_of_pairwise_cons hrest hm)).symm
  · next hnone =>
    rcases hm with hm | ⟨hsome, _⟩
    · obtain ⟨front, last, hrules⟩ : ∃ front last, boundary.rules = front ++ [last] := by
        rcases List.eq_nil_or_concat' boundary.rules with hnil | hlast
        · have htwo := h.two
          rw [hnil] at htwo
          exact absurd htwo (by decide)
        · exact hlast
      have hbefore : boundary.before = Line.beforeRules boundary.before ++ front ++ [last] := by
        rw [List.append_assoc, ← hrules]
        exact (Line.beforeRules_append_trailingRules boundary.before).symm
      rw [hbefore, List.map_append, List.map_singleton, List.getLast?_concat, Option.getD_some]
      intro hnumber
      refine h.number_not_mem (.inl hm) ?_
      rw [hnumber, hrules]
      exact List.mem_map_of_mem (List.mem_append_right _ (List.mem_singleton_self last))
    · exact absurd hnone hsome

theorem mem_keptIssues {issue : Issue} (hm : issue ∈ keptIssues boundary) :
    (issue.finding = .outerSpace ∧ ∃ line ∈ boundary.line, issue.line = line.number) ∨
      issue.finding.stage = .group ∧ issue.finding ≠ .unsortedGroup := by
  rcases List.mem_append.1 hm with hm | hm
  · obtain ⟨line, hline, hissue⟩ := List.mem_flatMap.1 hm
    rw [Line.mem_spaceIssues hissue]
    exact .inl ⟨rfl, line, Option.mem_toList.1 hline, rfl⟩
  · exact .inr ⟨(Group.mem_issues hm).1, Group.unsortedGroup_not_mem_issues_sorted hm⟩

theorem stage_of_mem_remaining (h : Resorted checks lines after new boundary warning)
    {issue : Issue} (hm : issue ∈ remaining checks boundary after)
    (hnumber : issue.line ∈ boundary.rules.map (·.number)) :
    issue.finding.stage = .group ∨ issue.finding.stage = .closing := by
  rcases List.mem_append.1 hm with hm | hm
  · rcases List.mem_append.1 hm with hm | hm
    · obtain ⟨line, hline, hsame⟩ := Linter.line_of_mem_trace hm
      rw [hsame] at hnumber
      exact absurd hnumber (h.number_not_mem (.inl hline))
    · rcases mem_keptIssues hm with ⟨_, line, hline, hsame⟩ | ⟨hgroup, _⟩
      · have hmem := List.mem_append_left after (Option.mem_toList.2 hline)
        rw [hsame] at hnumber
        exact absurd hnumber (h.number_not_mem (.inr hmem))
      · exact .inl hgroup
  · by_contra hne
    obtain ⟨hgroup, hclosing⟩ := not_or.1 hne
    obtain ⟨line, hline, hsame⟩ := Linter.line_of_mem_afterBoundary hm hgroup hclosing
    rw [hsame] at hnumber
    exact h.number_not_mem (.inr hline) hnumber

theorem sorted_of_mem_remaining (h : Resorted checks lines after new boundary warning)
    {issue : Issue} (hm : issue ∈ remaining checks boundary after)
    (hline : issue.line = boundary.number) : issue.finding ≠ .unsortedGroup := by
  intro hunsorted
  have hgroup : issue.finding.stage = .group := by
    rw [hunsorted]
    rfl
  rcases List.mem_append.1 hm with hm | hm
  · rcases List.mem_append.1 hm with hm | hm
    · obtain ⟨line, hbefore, hsame⟩ := Linter.line_of_mem_trace hm
      exact h.number_ne (.inl hbefore) (hsame.symm.trans hline)
    · rcases mem_keptIssues hm with ⟨hspace, _⟩ | ⟨_, hsorted⟩
      · cases hspace.symm.trans hunsorted
      · exact hsorted hunsorted
  · obtain ⟨line, hsome, later, hlater, hsame⟩ :=
      Linter.group_of_mem_afterBoundary (Linter.order_run h.order _) h.isIn hm hgroup
    have hne : boundary.line ≠ none := by
      rw [hsome]
      exact Option.some_ne_none line
    exact h.number_ne (.inr ⟨hne, hlater⟩) (hsame.symm.trans hline)

def IsSpaceInGroup (boundary : Boundary) (issue : Issue) : Prop :=
  issue.finding = .outerSpace ∧ issue.line ∈ boundary.rules.map (·.number)

instance (boundary : Boundary) (issue : Issue) : Decidable (IsSpaceInGroup boundary issue) :=
  inferInstanceAs (Decidable (_ ∧ _))

/-- Apart from the warning itself, only what is said about white space in the group is lost. -/
theorem filter_old (h : Resorted checks lines after new boundary warning) :
    (((Linter.start checks).trace (Line.beforeRules boundary.before) ++
        boundary.rules.flatMap (·.spaceIssues) ++ keptIssues boundary) ++
      ((Linter.start checks).run boundary.before).afterBoundary boundary after).filter
        (¬ IsSpaceInGroup boundary ·) =
      remaining checks boundary after := by
  have hself {issues : List Issue} (hsub : ∀ issue ∈ issues,
      issue ∈ remaining checks boundary after) :
      issues.filter (¬ IsSpaceInGroup boundary ·) = issues := by
    rw [List.filter_eq_self]
    intro issue hm
    refine decide_eq_true ?_
    rintro ⟨hspace, hnumber⟩
    have hstage := h.stage_of_mem_remaining (hsub issue hm) hnumber
    rw [hspace] at hstage
    rcases hstage with hstage | hstage
    · cases hstage
    · cases hstage
  have hspace : (boundary.rules.flatMap (·.spaceIssues)).filter
      (¬ IsSpaceInGroup boundary ·) = [] := by
    rw [List.filter_eq_nil_iff]
    intro issue hm
    obtain ⟨line, hline, hissue⟩ := List.mem_flatMap.1 hm
    rw [Line.mem_spaceIssues hissue, decide_eq_true_eq, not_not]
    exact ⟨rfl, List.mem_map_of_mem hline⟩
  rw [List.filter_append, List.filter_append, List.filter_append, hspace, List.append_nil,
    hself fun _ hm => List.mem_append_left _ (List.mem_append_left _ hm),
    hself fun _ hm => List.mem_append_left _ (List.mem_append_right _ hm),
    hself fun _ hm => List.mem_append_right _ hm, remaining]

theorem map_renumber_new (h : Resorted checks lines after new boundary warning) :
    (remaining checks boundary after).map (·.renumber (Reordered.place boundary.rules new)) =
      (Linter.start checks).trace (Line.beforeRules boundary.before) ++ keptIssues boundary ++
        (((Linter.start checks).run boundary.before).afterBoundary boundary after).map
          (·.renumber (Reordered.place boundary.rules new)) := by
  have hfixed : ∀ line ∈ Line.beforeRules boundary.before,
      Reordered.place boundary.rules new line.number = line.number :=
    fun line hm => Reordered.place_of_not_mem (h.number_not_mem (.inl hm))
  have hbefore := (Linter.renumbered_start checks).trace hfixed
  have hkept : (keptIssues boundary).map (·.renumber (Reordered.place boundary.rules new)) =
      keptIssues boundary := by
    refine map_renumber_of_not_rule ?_
    intro issue hm hrule
    rcases mem_keptIssues hm with ⟨hspace, _⟩ | ⟨hgroup, _⟩
    · rw [hspace] at hrule
      cases hrule
    · cases hgroup.symm.trans hrule
  rw [remaining, List.map_append, List.map_append, ← hbefore, hkept]

theorem of_mem_new (h : Resorted checks lines after new boundary warning) {file : Text}
    {issue : Issue}
    (hm : issue ∈ (LintReport.ofLines
      (Line.beforeRules boundary.before ++ new ++ (boundary.line.toList ++ after)) file
      checks).issues) :
    (issue.line = warning.line → issue.finding ≠ .unsortedGroup) ∧
      (issue.line ∈ boundary.rules.map (·.number) → issue.finding.stage ≠ .rule) := by
  rw [h.new_issues, ← h.map_renumber_new] at hm
  obtain ⟨origin, horigin, rfl⟩ := List.mem_map.1 hm
  constructor
  · intro hline hunsorted
    have hsorted := h.sorted_of_mem_remaining horigin (hline.trans h.warning_line)
    exact hsorted (Finding.eq_unsortedGroup_of_renumber hunsorted)
  · intro hline hrule
    have hstage := (Finding.stage_renumber origin.finding).symm.trans hrule
    rcases h.stage_of_mem_remaining horigin hline with hgroup | hclosing
    · cases hgroup.symm.trans hstage
    · cases hclosing.symm.trans hstage

end Resorted
end SuffixLint
