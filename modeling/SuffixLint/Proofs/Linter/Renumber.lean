import SuffixLint.Proofs.Linter.Run
import SuffixLint.Proofs.Registry.Renumber

namespace SuffixLint

variable {renumbering : Nat → Nat}

namespace Linter

/-- Two linters know the same sections, and the same domains of rules at lines numbered anew. -/
structure Mirrors (renumbering : Nat → Nat) (a b : Linter) : Prop where
  sections : b.sections = a.sections
  registry : Registry.Mirrors renumbering a.registry b.registry

/-- Two linters are at one place of a registry and know the same of the lines before it, but for
the group under way and for the numbers of lines. -/
structure Alike (renumbering : Nat → Nat) (a b : Linter) : Prop where
  checks : b.checks = a.checks
  sections : b.sections = a.sections
  registry : Registry.Renumbered renumbering a.registry b.registry
  lines : b.lines = a.lines

/-- Two linters have the same group under way besides. -/
structure Renumbered (renumbering : Nat → Nat) (a b : Linter) : Prop
    extends Alike renumbering a b where
  group : b.group = a.group
  tainted : b.log.tainted = a.log.tainted

theorem renumbered_start (checks : Checks) :
    Renumbered renumbering (start checks) (start checks) where
  checks := rfl
  sections := rfl
  registry := .empty
  lines := rfl
  group := rfl
  tainted := rfl

section Reports

variable (linter : Linter)

theorem renumber_boundaryIssues (number : Nat) (echo : Option Text) :
    (linter.boundaryIssues number echo).map (·.renumber renumbering) =
      linter.boundaryIssues number echo := by
  refine map_renumber_of_not_rule ?_
  intro issue h hrule
  cases (mem_boundaryIssues h).1.symm.trans hrule

theorem renumber_spaceIssues (line : Line) :
    line.spaceIssues.map (·.renumber renumbering) = line.spaceIssues := by
  refine map_renumber_of_not_rule ?_
  intro issue h hrule
  rw [Line.mem_spaceIssues h] at hrule
  cases hrule

theorem renumber_closingIssues :
    linter.closingIssues.map (·.renumber renumbering) = linter.closingIssues := by
  refine map_renumber_of_not_rule ?_
  intro issue h hrule
  cases (stage_of_mem_closingIssues h).symm.trans hrule

end Reports

variable {a b : Linter}

theorem Mirrors.ownFindings (h : Mirrors renumbering a b) (line : Line) :
    b.ownFindings line = (a.ownFindings line).map (·.renumber renumbering) := by
  cases hk : line.kind with
  | blank => simp only [Linter.ownFindings, hk, List.map_nil]
  | comment =>
    simp only [Linter.ownFindings, hk, markerFindings, h.sections]
    refine (Finding.map_renumber_of_not_rule ?_).symm
    intro finding hf hrule
    cases (stage_markerFindings hf).symm.trans hrule
  | rule =>
    simp only [Linter.ownFindings, hk, ruleFindings, h.sections, List.map_append,
      h.registry.check_findings a.sections.current]
    congr 1
    split <;> rfl

theorem Alike.ownFindings (h : Alike renumbering a b) (line : Line) :
    b.ownFindings line = (a.ownFindings line).map (·.renumber renumbering) :=
  Mirrors.ownFindings ⟨h.sections, h.registry.mirrors⟩ line

theorem Alike.step (h : Alike renumbering a b) {line : Line}
    (hline : renumbering line.number = line.number) :
    Alike renumbering (a.step line) (b.step line) where
  checks := by rw [checks_step, checks_step, h.checks]
  sections := by rw [sections_step, sections_step, h.sections]
  registry := by
    rw [registry_step, registry_step, h.sections]
    split
    · exact h.registry.check_registry _ hline
    · exact h.registry
  lines := by rw [lines_step, lines_step]

theorem Alike.any_isError (h : Alike renumbering a b) (line : Line) :
    (b.ownFindings line).any (·.isError) = (a.ownFindings line).any (·.isError) := by
  rw [h.ownFindings, List.any_map]
  congr 1
  funext finding
  cases finding <;> rfl

/-- A line that ends the group leaves the two with the same group, whatever the groups before. -/
theorem Alike.step_of_boundary (h : Alike renumbering a b) (order : a.checks.order = true)
    {line : Line} (hline : renumbering line.number = line.number) (hkind : line.kind ≠ .rule) :
    Renumbered renumbering (a.step line) (b.step line) where
  toAlike := h.step hline
  group := by
    have order' : b.checks.order = true := by
      rw [h.checks]
      exact order
    rw [group_step, group_step, if_neg hkind, if_neg hkind, if_pos order, if_pos order']
  tainted := by
    have order' : b.checks.order = true := by
      rw [h.checks]
      exact order
    rw [tainted_step, tainted_step, order, order', Line.not_isRule_iff.2 hkind, h.any_isError]
    simp only [Bool.not_true, Bool.or_false, Bool.and_false]

theorem Renumbered.step (h : Renumbered renumbering a b) {line : Line}
    (hline : renumbering line.number = line.number) :
    Renumbered renumbering (a.step line) (b.step line) where
  toAlike := h.toAlike.step hline
  group := by rw [group_step, group_step, h.group, h.checks]
  tainted := by rw [tainted_step, tainted_step, h.tainted, h.checks, h.any_isError]

theorem Renumbered.boundaryIssues (h : Renumbered renumbering a b) (number : Nat)
    (echo : Option Text) : b.boundaryIssues number echo = a.boundaryIssues number echo := by
  rw [Linter.boundaryIssues, Linter.boundaryIssues, h.checks, h.group, h.tainted]

theorem Alike.ownIssues (h : Alike renumbering a b) (line : Line) :
    (b.ownFindings line).map line.issue =
      ((a.ownFindings line).map line.issue).map (·.renumber renumbering) := by
  rw [h.ownFindings, List.map_map, List.map_map]
  refine List.map_congr_left ?_
  intro finding _
  exact (Line.renumber_issue line finding).symm

theorem Renumbered.lineIssues (h : Renumbered renumbering a b) (line : Line) :
    b.lineIssues line = (a.lineIssues line).map (·.renumber renumbering) := by
  have hgroup : b.groupIssues line = (a.groupIssues line).map (·.renumber renumbering) := by
    rw [groupIssues, groupIssues, h.boundaryIssues]
    split
    · rfl
    · rw [renumber_boundaryIssues]
  rw [Linter.lineIssues, Linter.lineIssues, List.map_append, List.map_append,
    renumber_spaceIssues, hgroup, h.ownIssues]

theorem Renumbered.run (h : Renumbered renumbering a b) {lines : List Line}
    (hlines : ∀ line ∈ lines, renumbering line.number = line.number) :
    Renumbered renumbering (a.run lines) (b.run lines) := by
  induction lines generalizing a b with
  | nil => exact h
  | cons line rest ih =>
    obtain ⟨hline, hrest⟩ := List.forall_mem_cons.1 hlines
    exact ih (h.step hline) hrest

theorem Renumbered.trace (h : Renumbered renumbering a b) {lines : List Line}
    (hlines : ∀ line ∈ lines, renumbering line.number = line.number) :
    b.trace lines = (a.trace lines).map (·.renumber renumbering) := by
  induction lines generalizing a b with
  | nil => rfl
  | cons line rest ih =>
    obtain ⟨hline, hrest⟩ := List.forall_mem_cons.1 hlines
    rw [Linter.trace, Linter.trace, List.map_append, h.lineIssues, ih (h.step hline) hrest]

theorem Alike.closingIssues (h : Alike renumbering a b) : b.closingIssues = a.closingIssues := by
  rw [Linter.closingIssues, Linter.closingIssues, h.sections, h.lines]

theorem Renumbered.remainder (h : Renumbered renumbering a b) {rest : List Line}
    (hrest : ∀ line ∈ rest, renumbering line.number = line.number) :
    b.remainder rest = (a.remainder rest).map (·.renumber renumbering) := by
  have hrun := h.run hrest
  rw [Linter.remainder, Linter.remainder, List.map_append, List.map_append, h.trace hrest,
    renumber_boundaryIssues, renumber_closingIssues, hrun.boundaryIssues, hrun.lines,
    hrun.closingIssues]

end Linter

end SuffixLint
