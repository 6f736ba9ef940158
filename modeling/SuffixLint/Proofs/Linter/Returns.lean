import SuffixLint.Proofs.Line.Returns
import SuffixLint.Proofs.Linter.Advisory
import SuffixLint.Proofs.Linter.Attribution

namespace SuffixLint

namespace Issue

def unechoed (issue : Issue) : Issue := { issue with echo := none }

/-- All issues but those about white space around lines, without what they echo. -/
def withoutSpace (issues : List Issue) : List Issue :=
  (issues.filter (·.finding ≠ .outerSpace)).map unechoed

theorem withoutSpace_append (a b : List Issue) :
    withoutSpace (a ++ b) = withoutSpace a ++ withoutSpace b := by
  rw [withoutSpace, List.filter_append, List.map_append]
  rfl

theorem withoutSpace_eq_map {issues : List Issue}
    (h : ∀ issue ∈ issues, issue.finding.stage ≠ .layout) :
    withoutSpace issues = issues.map unechoed := by
  rw [withoutSpace, List.filter_eq_self.2]
  intro issue hm
  apply decide_eq_true
  intro he
  apply h issue hm
  rw [he]
  rfl

theorem filter_outerSpace_eq_nil {issues : List Issue}
    (h : ∀ issue ∈ issues, issue.finding.stage ≠ .layout) :
    issues.filter (·.finding = .outerSpace) = [] := by
  rw [List.filter_eq_nil_iff]
  intro issue hm he
  apply h issue hm
  rw [of_decide_eq_true he]
  rfl

theorem countP_isError_withoutSpace (issues : List Issue) :
    (withoutSpace issues).countP (·.isError) = issues.countP (·.isError) := by
  rw [withoutSpace, List.countP_map, List.countP_filter]
  apply List.countP_congr
  intro issue _
  rw [Bool.and_eq_true, decide_eq_true_eq]
  refine ⟨And.left, fun herror => ⟨herror, ?_⟩⟩
  intro he
  rw [isError, he] at herror
  cases herror

end Issue

open Issue (unechoed withoutSpace withoutSpace_append withoutSpace_eq_map filter_outerSpace_eq_nil)

namespace Line

variable {old new : Line}

theorem SameText.isRule (h : SameText old new) : new.isRule = old.isRule := by
  rw [Line.isRule, Line.isRule, h.kind]

theorem SameText.check (h : SameText old new) (registry : Registry) (region : Region) :
    Rule.check registry region new = Rule.check registry region old := by
  simp only [Rule.check, h.number, h.text, h.isUtf8]

theorem countP_isRule_of_sameText {olds news : List Line} (h : List.Forall₂ SameText olds news) :
    news.countP (·.isRule) = olds.countP (·.isRule) := by
  induction h with
  | nil => rfl
  | cons hline _ ih => rw [List.countP_cons, List.countP_cons, ih, hline.isRule]

theorem map_issue_unechoed (line : Line) (findings : List Finding) :
    (findings.map line.issue).map unechoed =
      findings.map fun finding => { line := line.number, finding, echo := none } := by
  rw [List.map_map]
  rfl

end Line

theorem Group.closingIssues_unechoed (group : Group) (tainted : Bool) (line : Nat)
    (echo : Option Text) :
    (group.closingIssues tainted line echo).map unechoed =
      group.closingIssues tainted line none := by
  rw [closingIssues, closingIssues]
  split
  · rfl
  · rw [issues, issues, List.map_append]
    congr 1
    · split <;> rfl
    · split <;> rfl

namespace Linter

section Layout

variable {linter : Linter} {line : Line} {issue : Issue}

theorem boundaryIssues_not_layout {number : Nat} {echo : Option Text}
    (h : issue ∈ linter.boundaryIssues number echo) : issue.finding.stage ≠ .layout := by
  rw [(mem_boundaryIssues h).1]
  decide

theorem closingIssues_not_layout (h : issue ∈ linter.closingIssues) :
    issue.finding.stage ≠ .layout := by
  rw [stage_of_mem_closingIssues h]
  decide

theorem ownIssues_not_layout (h : issue ∈ (linter.ownFindings line).map line.issue) :
    issue.finding.stage ≠ .layout := by
  obtain ⟨finding, hf, rfl⟩ := List.mem_map.1 h
  exact (Finding.stage_ne_of_isOwn (isOwn_ownFindings hf)).1

end Layout

section Reports

variable (linter : Linter) (line : Line) (lines : List Line)

theorem boundaryIssues_unechoed (number : Nat) (echo : Option Text) :
    (linter.boundaryIssues number echo).map unechoed = linter.boundaryIssues number none := by
  rw [boundaryIssues, boundaryIssues]
  split
  · exact Group.closingIssues_unechoed _ _ _ _
  · rfl

theorem withoutSpace_boundaryIssues (number : Nat) (echo : Option Text) :
    withoutSpace (linter.boundaryIssues number echo) = linter.boundaryIssues number none := by
  rw [withoutSpace_eq_map fun _ h => boundaryIssues_not_layout h, boundaryIssues_unechoed]

theorem withoutSpace_closingIssues : withoutSpace linter.closingIssues = linter.closingIssues := by
  have hechoes : linter.closingIssues.map unechoed = linter.closingIssues := by
    rw [closingIssues, List.map_map]
    rfl
  rw [withoutSpace_eq_map fun _ h => closingIssues_not_layout h, hechoes]

theorem withoutSpace_lineIssues :
    withoutSpace (linter.lineIssues line) =
      (if line.kind = .rule then [] else linter.boundaryIssues line.number none) ++
        (linter.ownFindings line).map fun finding =>
          { line := line.number, finding, echo := none } := by
  have hspace : withoutSpace line.spaceIssues = [] := by
    rw [Line.spaceIssues]
    split <;> rfl
  have hgroup : withoutSpace (linter.groupIssues line) =
      if line.kind = .rule then [] else linter.boundaryIssues line.number none := by
    rw [groupIssues]
    split
    · rfl
    · exact linter.withoutSpace_boundaryIssues _ _
  rw [lineIssues, withoutSpace_append, withoutSpace_append, hspace, hgroup, List.nil_append,
    withoutSpace_eq_map fun _ h => ownIssues_not_layout h, Line.map_issue_unechoed]

theorem withoutSpace_remainder :
    withoutSpace (linter.remainder lines) =
      withoutSpace (linter.trace lines) ++
        (linter.run lines).boundaryIssues (linter.run lines).lines none ++
        (linter.run lines).closingIssues := by
  rw [remainder, withoutSpace_append, withoutSpace_append, withoutSpace_boundaryIssues,
    withoutSpace_closingIssues]

theorem filter_outerSpace_lineIssues :
    (linter.lineIssues line).filter (·.finding = .outerSpace) = line.spaceIssues := by
  have hspace : line.spaceIssues.filter (·.finding = .outerSpace) = line.spaceIssues := by
    rw [List.filter_eq_self]
    intro issue h
    rw [Line.mem_spaceIssues h]
    rfl
  have hgroup : (linter.groupIssues line).filter (·.finding = .outerSpace) = [] := by
    apply filter_outerSpace_eq_nil
    intro issue h
    exact boundaryIssues_not_layout (mem_groupIssues.1 h).2
  have hown : ((linter.ownFindings line).map line.issue).filter (·.finding = .outerSpace) = [] :=
    filter_outerSpace_eq_nil fun _ h => ownIssues_not_layout h
  rw [lineIssues, List.filter_append, List.filter_append, hspace, hgroup, hown, List.append_nil,
    List.append_nil]

theorem filter_outerSpace_remainder :
    (linter.remainder lines).filter (·.finding = .outerSpace) =
      (linter.trace lines).filter (·.finding = .outerSpace) := by
  have hboundary : ((linter.run lines).boundaryIssues (linter.run lines).lines none).filter
      (·.finding = .outerSpace) = [] :=
    filter_outerSpace_eq_nil fun _ h => boundaryIssues_not_layout h
  have hclosing : (linter.run lines).closingIssues.filter (·.finding = .outerSpace) = [] :=
    filter_outerSpace_eq_nil fun _ h => closingIssues_not_layout h
  rw [remainder, List.filter_append, List.filter_append, hboundary, hclosing, List.append_nil,
    List.append_nil]

end Reports

/-- Two linters know the same of all lines before, whatever they have reported. -/
structure Coincides (a b : Linter) : Prop extends Agrees a b where
  checks : b.checks = a.checks
  group : b.group = a.group
  tainted : b.log.tainted = a.log.tainted

theorem coincides_start (checks : Checks) : Coincides (start checks) (start checks) where
  toAgrees := agrees_start checks checks
  checks := rfl
  group := rfl
  tainted := rfl

variable {a b : Linter} {old new : Line} {olds news : List Line}

theorem Coincides.ownFindings (h : Coincides a b) (hline : old.SameText new) :
    b.ownFindings new = a.ownFindings old := by
  simp only [Linter.ownFindings, markerFindings, ruleFindings, h.sections, h.registry, hline.kind,
    hline.text, hline.check]

theorem Coincides.boundaryIssues (h : Coincides a b) (number : Nat) (echo : Option Text) :
    b.boundaryIssues number echo = a.boundaryIssues number echo := by
  rw [Linter.boundaryIssues, Linter.boundaryIssues, h.checks, h.group, h.tainted]

theorem Coincides.step (h : Coincides a b) (hline : old.SameText new) :
    Coincides (a.step old) (b.step new) where
  sections := by rw [sections_step, sections_step, hline.kind, hline.text, h.sections]
  registry := by
    rw [registry_step, registry_step, hline.kind, h.sections, h.registry, hline.check]
  lines := by rw [lines_step, lines_step, hline.number]
  checks := by rw [checks_step, checks_step, h.checks]
  group := by rw [group_step, group_step, hline.kind, hline.text, h.checks, h.group]
  tainted := by
    rw [tainted_step, tainted_step, h.ownFindings hline, h.tainted, h.checks, hline.isRule]

theorem Coincides.run (h : Coincides a b) (hlines : List.Forall₂ Line.SameText olds news) :
    Coincides (a.run olds) (b.run news) := by
  induction hlines generalizing a b with
  | nil => exact h
  | cons hline _ ih => exact ih (h.step hline)

theorem Coincides.lineIssues (h : Coincides a b) (hline : old.SameText new) :
    withoutSpace (b.lineIssues new) = withoutSpace (a.lineIssues old) := by
  rw [withoutSpace_lineIssues, withoutSpace_lineIssues, hline.kind, hline.number,
    h.boundaryIssues, h.ownFindings hline]

theorem Coincides.trace (h : Coincides a b) (hlines : List.Forall₂ Line.SameText olds news) :
    withoutSpace (b.trace news) = withoutSpace (a.trace olds) := by
  induction hlines generalizing a b with
  | nil => rfl
  | cons hline _ ih =>
    rw [Linter.trace, Linter.trace, withoutSpace_append, withoutSpace_append, h.lineIssues hline,
      ih (h.step hline)]

theorem Coincides.remainder (h : Coincides a b) (hlines : List.Forall₂ Line.SameText olds news) :
    withoutSpace (b.remainder news) = withoutSpace (a.remainder olds) := by
  have hrun := h.run hlines
  rw [withoutSpace_remainder, withoutSpace_remainder, h.trace hlines, hrun.boundaryIssues,
    hrun.lines, hrun.closingIssues]

end Linter

namespace LintReport

def spaceOn (report : LintReport) (number : Nat) : List Issue :=
  (report.issuesOn number).filter (·.finding = .outerSpace)

variable (file : Text) (checks : Checks)

section SameText

variable {olds news : List Line} (h : List.Forall₂ Line.SameText olds news)
include h

theorem withoutSpace_issues_of_sameText :
    withoutSpace (ofLines news file checks).issues =
      withoutSpace (ofLines olds file checks).issues := by
  rw [issues_ofLines, issues_ofLines]
  exact (Linter.coincides_start checks).remainder h

theorem errors_of_sameText :
    (ofLines news file checks).summary.errors = (ofLines olds file checks).summary.errors := by
  rw [errors_ofLines, errors_ofLines, ← Issue.countP_isError_withoutSpace,
    withoutSpace_issues_of_sameText file checks h, Issue.countP_isError_withoutSpace]

theorem rules_of_sameText :
    (ofLines news file checks).summary.rules = (ofLines olds file checks).summary.rules := by
  rw [rules_ofLines, rules_ofLines, Line.countP_isRule_of_sameText h]

theorem lines_of_sameText :
    (ofLines news file checks).summary.lines = (ofLines olds file checks).summary.lines := by
  rw [lines_ofLines, lines_ofLines]
  exact ((Linter.coincides_start checks).run h).lines

end SameText

theorem spaceOn_ofLines {lines before after : List Line} {line : Line}
    (increasing : Line.Increasing lines) (he : lines = before ++ line :: after) :
    (ofLines lines file checks).spaceOn line.number = line.spaceIssues := by
  have hline := filter_issuesOn file checks (fun finding => finding = .outerSpace) increasing he
    (Linter.filter_outerSpace_remainder (Linter.start checks) lines)
  rw [Linter.filter_outerSpace_lineIssues] at hline
  exact hline

variable {data : Bytes} {before after : List Bytes} {raw : Bytes}

theorem spaceOn_ofBytes (h : Line.split data = before ++ raw :: after) :
    (ofBytes data file checks).spaceOn (before.length + 1) =
      (Line.ofBytes (before.length + 1) raw).spaceIssues := by
  have hlines : Line.ofData data = Line.numberFrom 1 before ++
      Line.ofBytes (before.length + 1) raw :: Line.numberFrom (before.length + 1 + 1) after := by
    rw [Line.ofData, h, Line.numberFrom_append, Line.numberFrom, Nat.add_comm 1]
  exact spaceOn_ofLines file checks (Line.increasing_ofData data) hlines

/-- With a carriage return before every line feed, each line that ends with a line feed has one
warning about white space, and a last line that does not has those it had. All other issues are the
same, and so are the numbers of errors, rules and lines. -/
theorem line_endings_immaterial (data : Bytes) (file : Text) (checks : Checks) :
    let report := ofBytes data file checks
    let returned := ofBytes (Line.withReturns data) file checks
    (∀ before raw after, Line.split data = before ++ raw :: after →
      if raw.getLast? = some Line.feed then (returned.spaceOn (before.length + 1)).length = 1
      else returned.spaceOn (before.length + 1) = report.spaceOn (before.length + 1)) ∧
    Issue.withoutSpace returned.issues = Issue.withoutSpace report.issues ∧
    returned.summary.errors = report.summary.errors ∧
    returned.summary.rules = report.summary.rules ∧
    returned.summary.lines = report.summary.lines := by
  intro report returned
  have hlines := Line.forall₂_sameText_ofData data
  refine ⟨?_, withoutSpace_issues_of_sameText file checks hlines,
    errors_of_sameText file checks hlines, rules_of_sameText file checks hlines,
    lines_of_sameText file checks hlines⟩
  intro before raw after hsplit
  have hraw : raw ∈ Line.split data := by
    rw [hsplit]
    exact List.mem_append_right _ List.mem_cons_self
  have hreturned : returned.spaceOn (before.length + 1) =
      (Line.ofBytes (before.length + 1) (Line.withReturns raw)).spaceIssues := by
    have hlength : before.length = (before.map Line.withReturns).length :=
      (List.length_map _).symm
    rw [hlength]
    apply spaceOn_ofBytes
    rw [Line.split_withReturns, hsplit, List.map_append, List.map_cons]
  split
  · next finished =>
    rw [hreturned, Line.spaceIssues,
      if_pos (Line.hasOuterSpace_withReturns (before.length + 1) hraw finished)]
    rfl
  · next unfinished =>
    rw [hreturned, Line.withReturns_of_unfinished hraw unfinished]
    exact (spaceOn_ofBytes file checks hsplit).symm

/-- A line that breaks off within a character, a blank one, and one without a line feed. -/
example :
    let data : Bytes := [0x61, 0xC3, Line.feed, Line.feed, 0x62]
    let report := ofBytes (Line.withReturns data) standardInput {}
    (report.issues.filter (·.finding = .outerSpace)).map (·.line) = [1, 2] := by
  decide

end LintReport
end SuffixLint
