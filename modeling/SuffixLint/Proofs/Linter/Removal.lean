import SuffixLint.Proofs.Line.Removal
import SuffixLint.Proofs.Linter.Doublettes
import SuffixLint.Proofs.Linter.Renumber

namespace SuffixLint

namespace Line

/-- Whether a line is a rule that is given up, or one that is reported as a doublette. -/
def IsRejected (issues : List Issue) (line : Line) : Prop :=
  line.kind = .rule ∧ (Rule.isSkipped line = true ∨ line.IsDoublette issues)

theorem relocate_spaceIssues (renumbering : Nat → Nat) (line : Line) :
    line.spaceIssues.map (·.relocate renumbering) = (line.renumber renumbering).spaceIssues := by
  have hspace : (line.renumber renumbering).hasOuterSpace = line.hasOuterSpace := rfl
  rw [spaceIssues, spaceIssues, hspace]
  split <;> rfl

end Line

namespace Linter

variable {renumbering : Nat → Nat} {a b : Linter}

theorem ownFindings_renumber (linter : Linter) (line : Line) :
    linter.ownFindings (line.renumber renumbering) = linter.ownFindings line := by
  have hkind : (line.renumber renumbering).kind = line.kind := rfl
  rw [ownFindings, ownFindings, hkind, ruleFindings, ruleFindings, Rule.check_findings_renumber]
  rfl

theorem unordered_run (lines : List Line) : ((start {}).run lines).checks.order = false := by
  rw [checks_run]
  rfl

theorem lineIssues_of_unordered {linter : Linter} (unordered : linter.checks.order = false)
    (line : Line) : linter.lineIssues line =
      line.spaceIssues ++ (linter.ownFindings line).map line.issue := by
  rw [lineIssues, groupIssues, boundaryIssues_of_unordered unordered, ite_self, List.append_nil]

theorem Mirrors.lineIssues (h : Mirrors renumbering a b) (unordered : a.checks.order = false)
    (unordered' : b.checks.order = false) (line : Line) :
    b.lineIssues (line.renumber renumbering) =
      (a.lineIssues line).map (·.relocate renumbering) := by
  rw [lineIssues_of_unordered unordered, lineIssues_of_unordered unordered', List.map_append,
    Line.relocate_spaceIssues, ownFindings_renumber, h.ownFindings, Line.map_relocate_issue]

theorem Mirrors.step (h : Mirrors renumbering a b) (line : Line) :
    Mirrors renumbering (a.step line) (b.step (line.renumber renumbering)) where
  sections := by
    have hkind : (line.renumber renumbering).kind = line.kind := rfl
    rw [sections_step, sections_step, h.sections, hkind]
    rfl
  registry := by
    have hkind : (line.renumber renumbering).kind = line.kind := rfl
    rw [registry_step, registry_step, hkind]
    split
    · let old : Candidate := ⟨a.sections.current, line⟩
      let new : Candidate := ⟨b.sections.current, line.renumber renumbering⟩
      have hline : new.line = old.line.renumber renumbering := rfl
      exact h.registry.take hline
    · exact h.registry

def Rejects (linter : Linter) (line : Line) : Prop :=
  line.kind = .rule ∧
    (Rule.isSkipped line = true ∨ (linter.registry.get? line.domain).isSome = true)

theorem Mirrors.step_of_rejects (h : Mirrors renumbering a b) {line : Line}
    (hrejects : a.Rejects line) : Mirrors renumbering (a.step line) b where
  sections := by
    rw [sections_step, hrejects.1, if_neg (by decide)]
    exact h.sections
  registry := by
    -- A doublette is offered to the registry like any rule, but its domain is taken already.
    intro domain
    rw [registry_step, if_pos hrejects.1]
    have hsame :=
      a.registry.origin?_take_of_rejected ⟨a.sections.current, line⟩ hrejects.2 domain
    exact (h.registry domain).trans (congrArg _ hsame.symm)

section Runs

variable {deleted : Nat → Bool} {checks : Checks} {lines : List Line}

/-- Every line that is taken out is one that a linter rejects after the lines before it. -/
def RejectsAll (checks : Checks) (deleted : Nat → Bool) (lines : List Line) : Prop :=
  EachAfter (fun before line => deleted line.number = true →
    ((start checks).run before).Rejects line) lines

theorem mirrors_run_kept (checks' : Checks) (hrejects : RejectsAll checks deleted lines) :
    Mirrors (Line.place deleted) ((start checks).run lines)
      ((start checks').run (Line.kept deleted lines)) := by
  induction lines using List.reverseRecOn with
  | nil => exact ⟨rfl, .empty⟩
  | append_singleton lines line ih =>
    -- What a line is rejected for is known after the lines before it: induction at the end.
    obtain ⟨hbefore, hlast⟩ := eachAfter_append_singleton.1 hrejects
    have hrun := ih hbefore
    rw [run_append_singleton]
    cases hdeleted : deleted line.number with
    | true =>
      rw [Line.kept_append_of_deleted hdeleted]
      exact hrun.step_of_rejects (hlast hdeleted)
    | false =>
      rw [Line.kept_append_of_kept hdeleted, run_append_singleton]
      exact hrun.step line

theorem filter_lineIssues_of_kept {deleted : Nat → Bool} (linter : Linter) {line : Line}
    (h : deleted line.number = false) :
    (linter.lineIssues line).filter (!deleted ·.line) = linter.lineIssues line := by
  rw [List.filter_eq_self]
  intro issue hm
  rw [line_of_mem_lineIssues hm, h]
  rfl

theorem filter_lineIssues_of_deleted {deleted : Nat → Bool} (linter : Linter) {line : Line}
    (h : deleted line.number = true) :
    (linter.lineIssues line).filter (!deleted ·.line) = [] := by
  rw [List.filter_eq_nil_iff]
  intro issue hm
  rw [line_of_mem_lineIssues hm, h]
  exact Bool.false_ne_true

theorem trace_kept (hrejects : RejectsAll {} deleted lines) :
    (start {}).trace (Line.kept deleted lines) =
      (((start {}).trace lines).filter (!deleted ·.line)).map
        (·.relocate (Line.place deleted)) := by
  induction lines using List.reverseRecOn with
  | nil => rfl
  | append_singleton lines line ih =>
    obtain ⟨hbefore, hlast⟩ := eachAfter_append_singleton.1 hrejects
    rw [trace_append, trace_singleton, List.filter_append, List.map_append, ← ih hbefore]
    cases hdeleted : deleted line.number with
    | true =>
      rw [Line.kept_append_of_deleted hdeleted, filter_lineIssues_of_deleted _ hdeleted]
      exact (List.append_nil _).symm
    | false =>
      rw [Line.kept_append_of_kept hdeleted, filter_lineIssues_of_kept _ hdeleted, trace_append,
        trace_singleton, (mirrors_run_kept {} hbefore).lineIssues]
      · exact unordered_run lines
      · exact unordered_run _

end Runs

/-- Lines that are reported as rejected are those that a linter rejects when it reads them. -/
theorem rejectsAll_of_isRejected {deleted : Nat → Bool} {lines : List Line} (file : Text)
    (checks : Checks) (increasing : Line.Increasing lines)
    (h : ∀ line ∈ lines, deleted line.number = true →
      line.IsRejected (LintReport.ofLines lines file checks).issues) :
    RejectsAll checks deleted lines := by
  intro before line after he hdeleted
  have hm : line ∈ lines := he ▸ List.mem_append_right before List.mem_cons_self
  obtain ⟨hkind, hskipped | hdoublette⟩ := h line hm hdeleted
  · exact ⟨hkind, .inl hskipped⟩
  · -- The report is on all lines, but its doublettes tell what was registered before each of them.
    obtain ⟨_, _, hknown⟩ := (Line.isDoublette_iff file checks increasing he).1 hdoublette
    rw [← isSome_get?_run checks] at hknown
    exact ⟨hkind, .inr hknown⟩

end Linter

/-- Whether an issue was added when a line was read that is taken out. What is reported at the end
of a run was not. -/
def Issue.goesWith (deleted : Nat → Bool) (issue : Issue) : Bool :=
  deleted issue.line && issue.finding.stage ≠ .closing

namespace Linter

variable {deleted : Nat → Bool}

theorem filter_goesWith_trace (linter : Linter) (lines : List Line) :
    (linter.trace lines).filter (!·.goesWith deleted) =
      (linter.trace lines).filter (!deleted ·.line) := by
  apply List.filter_congr
  intro issue h
  rw [Issue.goesWith, decide_eq_true (stage_ne_closing_of_mem_trace h), Bool.and_true]

theorem filter_goesWith_closingIssues (linter : Linter) :
    linter.closingIssues.filter (!·.goesWith deleted) = linter.closingIssues := by
  rw [List.filter_eq_self]
  intro issue h
  rw [Issue.goesWith, stage_of_mem_closingIssues h]
  simp

theorem closingIssues_without {data : Bytes} (hrejects : RejectsAll {} deleted (Line.ofData data)) :
    ((start {}).run (Line.ofData (Line.without deleted data))).closingIssues =
      ((start {}).run (Line.ofData data)).closingIssues.map
        (·.relocate (Line.place deleted)) := by
  have hsections := (mirrors_run_kept {} hrejects).sections
  rw [← Line.ofData_without] at hsections
  rw [closingIssues, closingIssues, hsections, lines_run_ofData, lines_run_ofData, List.map_map,
    ← Line.place_length_ofData]
  apply List.map_congr_left
  intro finding hf
  have hstage := SectionHistory.stage_closingFindings hf
  have hsame : finding.renumber (Line.place deleted) = finding := by
    apply Finding.renumber_of_not_rule
    rw [hstage]
    decide
  rw [Function.comp, Issue.relocate, Issue.renumber, hsame]

theorem remainder_without {data : Bytes} (hrejects : RejectsAll {} deleted (Line.ofData data)) :
    (start {}).remainder (Line.ofData (Line.without deleted data)) =
      (((start {}).remainder (Line.ofData data)).filter (!·.goesWith deleted)).map
        (·.relocate (Line.place deleted)) := by
  have hnone (lines : List Line) (number : Nat) (echo : Option Text) :
      ((start {}).run lines).boundaryIssues number echo = [] := by
    exact boundaryIssues_of_unordered (unordered_run lines) number echo
  rw [remainder, remainder, hnone, hnone, List.append_nil, List.append_nil, List.filter_append,
    List.map_append, filter_goesWith_trace, filter_goesWith_closingIssues,
    closingIssues_without hrejects, Line.ofData_without, trace_kept hrejects]

end Linter

namespace LintReport

variable {deleted : Nat → Bool}

theorem countP_isRule_kept {lines : List Line}
    (h : ∀ line ∈ lines, deleted line.number = true → line.kind = .rule) :
    (Line.kept deleted lines).countP (·.isRule) + lines.countP (deleted ·.number) =
      lines.countP (·.isRule) := by
  have hkept : (Line.kept deleted lines).countP (·.isRule) =
      (lines.filter (!deleted ·.number)).countP (·.isRule) := by
    rw [Line.kept, List.countP_map]
    rfl
  have hdeleted : (lines.filter (deleted ·.number)).countP (·.isRule) =
      lines.countP (deleted ·.number) := by
    rw [List.countP_eq_length_filter, List.countP_eq_length_filter, List.filter_eq_self.2]
    intro line hm
    obtain ⟨hm, hdel⟩ := List.mem_filter.1 hm
    exact Line.isRule_iff.2 (h line hm hdel)
  rw [hkept, ← hdeleted, Nat.add_comm]
  exact (List.countP_eq_countP_filter_add lines (·.isRule) (deleted ·.number)).symm

theorem not_isDoublette_of_kept {lines : List Line} (file : Text) (checks : Checks)
    (h : ∀ line ∈ lines, line.IsDoublette (ofLines lines file checks).issues →
      deleted line.number = true)
    {issue : Issue} (hm : issue ∈ (ofLines lines file checks).issues)
    (hkept : issue.goesWith deleted = false) : issue.finding.isDoublette = false := by
  by_contra hdoublette
  rw [Bool.not_eq_false] at hdoublette
  have hstage := Finding.stage_of_isDoublette hdoublette
  have hplace : ∃ line ∈ lines, issue.line = line.number := by
    apply Linter.line_of_mem_remainder ((issues_ofLines lines file checks) ▸ hm)
    · rw [hstage]
      decide
    · rw [hstage]
      decide
  obtain ⟨line, hline, hnumber⟩ := hplace
  have hdeleted := h line hline ⟨issue, hm, hnumber, hdoublette⟩
  rw [Issue.goesWith, hnumber, hdeleted, hstage] at hkept
  cases hkept

/-- Taking out lines that are reported as rejected, where groups are not checked, takes out the
issues that these lines were reported for, and nothing else. -/
theorem rejected_lines_removable (data : Bytes) (file file' : Text) (deleted : Nat → Bool)
    (rejected : ∀ line ∈ Line.ofData data, deleted line.number = true →
      line.IsRejected (ofBytes data file { order := false }).issues) :
    let old := ofBytes data file { order := false }
    let new := ofBytes (Line.without deleted data) file' { order := false }
    let removed := (Line.ofData data).countP (deleted ·.number)
    Line.ofData (Line.without deleted data) = Line.kept deleted (Line.ofData data) ∧
      new.issues = (old.issues.filter (!·.goesWith deleted)).map
        (·.relocate (Line.place deleted)) ∧
      new.summary.rules + removed = old.summary.rules ∧
      new.summary.lines + removed = old.summary.lines ∧
      new.summary.lines = Line.place deleted old.summary.lines ∧
      ((∀ line ∈ Line.ofData data, line.IsDoublette old.issues → deleted line.number = true) →
        ∀ issue ∈ new.issues, issue.finding.isDoublette = false) := by
  intro old new removed
  have hkept := Line.ofData_without deleted data
  have hissues : new.issues = (old.issues.filter (!·.goesWith deleted)).map
      (·.relocate (Line.place deleted)) := by
    have hrejects := Linter.rejectsAll_of_isRejected file _ (Line.increasing_ofData data) rejected
    have hremainder := Linter.remainder_without hrejects
    rw [← issues_ofLines _ file', ← issues_ofLines _ file] at hremainder
    exact hremainder
  refine ⟨hkept, hissues, ?_, ?_, ?_, ?_⟩
  · have hrules : ∀ line ∈ Line.ofData data, deleted line.number = true → line.kind = .rule :=
      fun line hm hdeleted => (rejected line hm hdeleted).1
    have hcount := countP_isRule_kept hrules
    rw [← hkept, ← rules_ofLines _ file' { order := false },
      ← rules_ofLines _ file { order := false }] at hcount
    exact hcount
  · rw [lines_ofBytes, lines_ofBytes, hkept]
    exact Line.length_kept (Line.ofData data)
  · rw [lines_ofBytes, lines_ofBytes, Line.place_length_ofData]
  · intro hall issue hm
    rw [hissues] at hm
    obtain ⟨origin, horigin, rfl⟩ := List.mem_map.1 hm
    obtain ⟨horigin, hkept⟩ := List.mem_filter.1 horigin
    rw [Bool.not_eq_true'] at hkept
    have hnot := not_isDoublette_of_kept file { order := false } hall horigin hkept
    exact (Finding.isDoublette_renumber _).trans hnot

/-- A doublette and a rule that is given up stand before a comment, which is the second line without
them. -/
theorem rejected_lines_removable_before_comment :
    let data := Utf8.encode "a\n*.a\n*.!b\n// c".toList
    let deleted (number : Nat) := number == 2 || number == 3
    let old := ofBytes data [] { order := false }
    let new := ofBytes (Utf8.encode "a\n// c".toList) [] { order := false }
    (∀ line ∈ Line.ofData data, deleted line.number = true → line.IsRejected old.issues) ∧
      Line.without deleted data = Utf8.encode "a\n// c".toList ∧
      new.issues = (old.issues.filter (!·.goesWith deleted)).map
        (·.relocate (Line.place deleted)) ∧
      new.summary.rules + 2 = old.summary.rules ∧
      new.summary.lines + 2 = old.summary.lines ∧
      ∀ issue ∈ new.issues, issue.finding.isDoublette = false := by
  intro data deleted old new
  let plain := Line.ofBytes 1 (Utf8.encode "a".toList)
  let wildcard := Line.ofBytes 2 (Utf8.encode "*.a".toList)
  let skipped := Line.ofBytes 3 (Utf8.encode "*.!b".toList)
  let comment := Line.ofBytes 4 (Utf8.encode "// c".toList)
  have hlines : Line.ofData data = [plain, wildcard, skipped, comment] := by decide
  have hdoublette {before after : List Line} {line : Line}
      (he : Line.ofData data = before ++ line :: after) :=
    Line.isDoublette_iff [] { order := false } (Line.increasing_ofData data) he
  have hfirst : Line.ofData data = [] ++ plain :: [wildcard, skipped, comment] := hlines
  have hsecond : Line.ofData data = [plain] ++ wildcard :: [skipped, comment] := hlines
  have hlast : Line.ofData data = [plain, wildcard, skipped] ++ comment :: [] := hlines
  have hrejected : ∀ line ∈ Line.ofData data, deleted line.number = true →
      line.IsRejected old.issues := by
    intro line hm hdeleted
    rw [hlines] at hm
    simp only [List.mem_cons, List.not_mem_nil, or_false] at hm
    rcases hm with rfl | rfl | rfl | rfl
    · cases hdeleted
    · exact ⟨by decide, .inr ((hdoublette hsecond).2 (by decide))⟩
    · exact ⟨by decide, .inl (by decide)⟩
    · cases hdeleted
  have hall : ∀ line ∈ Line.ofData data, line.IsDoublette old.issues →
      deleted line.number = true := by
    intro line hm hreported
    rw [hlines] at hm
    simp only [List.mem_cons, List.not_mem_nil, or_false] at hm
    rcases hm with rfl | rfl | rfl | rfl
    · exact absurd ((hdoublette hfirst).1 hreported) (by decide)
    · rfl
    · rfl
    · exact absurd ((hdoublette hlast).1 hreported) (by decide)
  have hwithout : Line.without deleted data = Utf8.encode "a\n// c".toList := by decide
  have hremoved : (Line.ofData data).countP (deleted ·.number) = 2 := by decide
  have hnew := rejected_lines_removable data [] [] deleted hrejected
  rw [hwithout, hremoved] at hnew
  obtain ⟨_, hissues, hrules, hlines, _, hnone⟩ := hnew
  exact ⟨hrejected, hwithout, hissues, hrules, hlines, hnone hall⟩

end LintReport
end SuffixLint
