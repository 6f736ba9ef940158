import Mathlib.Data.List.DropRight
import SuffixLint.Proofs.Linter.Run

namespace SuffixLint

namespace Line

def trailingRules (lines : List Line) : List Line := lines.rtakeWhile (·.isRule)

def beforeRules (lines : List Line) : List Line := lines.rdropWhile (·.isRule)

theorem beforeRules_append_trailingRules (lines : List Line) :
    beforeRules lines ++ trailingRules lines = lines :=
  List.rdropWhile_append_rtakeWhile

theorem kind_of_mem_trailingRules {lines : List Line} {line : Line}
    (h : line ∈ trailingRules lines) : line.kind = .rule :=
  isRule_iff.1 (List.mem_rtakeWhile_imp h)

theorem trailingRules_append_singleton (lines : List Line) (line : Line) :
    trailingRules (lines ++ [line]) =
      if line.kind = .rule then trailingRules lines ++ [line] else [] := by
  rw [trailingRules, List.rtakeWhile_concat]
  simp only [isRule_iff]
  rfl

theorem beforeRules_append_singleton (lines : List Line) (line : Line) :
    beforeRules (lines ++ [line]) =
      if line.kind = .rule then beforeRules lines else lines ++ [line] := by
  rw [beforeRules, List.rdropWhile_concat]
  simp only [isRule_iff]
  rfl

theorem trailingRules_append (before : List Line) {rules : List Line}
    (h : ∀ line ∈ rules, line.kind = .rule) :
    trailingRules (before ++ rules) = trailingRules before ++ rules ∧
      beforeRules (before ++ rules) = beforeRules before := by
  induction rules using List.reverseRecOn with
  | nil => simp only [List.append_nil, and_self]
  | append_singleton rules line ih =>
    obtain ⟨htake, hdrop⟩ := ih fun earlier hm => h earlier (List.mem_append_left _ hm)
    have hline : line.kind = .rule := h line (List.mem_append_right _ (List.mem_singleton_self _))
    rw [← List.append_assoc, trailingRules_append_singleton, beforeRules_append_singleton,
      if_pos hline, if_pos hline, htake, List.append_assoc]
    exact ⟨rfl, hdrop⟩

theorem not_isRule_of_getLast?_beforeRules {lines : List Line} {line : Line}
    (h : (beforeRules lines).getLast? = some line) : line.kind ≠ .rule := by
  induction lines using List.reverseRecOn with
  | nil => cases h
  | append_singleton lines last ih =>
    rw [beforeRules_append_singleton] at h
    split at h
    · exact ih h
    · rw [List.getLast?_concat] at h
      obtain rfl := Option.some.inj h
      assumption

theorem beforeRules_beforeRules (lines : List Line) :
    beforeRules (beforeRules lines) = beforeRules lines :=
  List.rdropWhile_idempotent _ _

theorem trailingRules_beforeRules (lines : List Line) : trailingRules (beforeRules lines) = [] := by
  have h := beforeRules_append_trailingRules (beforeRules lines)
  rw [beforeRules_beforeRules] at h
  exact List.append_right_eq_self.1 h

end Line

namespace Linter

variable {checks : Checks}

theorem group_run (order : checks.order = true) (lines : List Line) :
    ((start checks).run lines).group.entries.toList =
      (Line.trailingRules lines).map fun line => Entry.ofRule line.text := by
  induction lines using List.reverseRecOn with
  | nil => rfl
  | append_singleton lines line ih =>
    rw [run_append_singleton, group_step, Line.trailingRules_append_singleton, checks_run]
    by_cases h : line.kind = .rule
    · rw [if_pos h, if_pos h, Group.entries_push, ih, List.map_append]
      rfl
    · have hstart : (start checks).checks.order = true := order
      rw [if_neg h, if_neg h, if_pos hstart]
      rfl

/-- The group under way is untainted exactly when none of its rules was reported in itself, and
neither was the line before them. -/
theorem untainted_run_iff (order : checks.order = true) (lines : List Line) :
    ((start checks).run lines).log.tainted = false ↔
      ((start checks).run (Line.beforeRules lines)).Clean (Line.trailingRules lines) ∧
      ∀ before line, Line.beforeRules lines = before ++ [line] →
        ((start checks).run before).ownFindings line = [] := by
  induction lines using List.reverseRecOn with
  | nil =>
    refine iff_of_true rfl ⟨.nil _, ?_⟩
    intro before line he
    exact absurd he.symm (by simp [Line.beforeRules])
  | append_singleton lines last ih =>
    have hown : ((((start checks).run lines).ownFindings last).any (·.isError)) = false ↔
        ((start checks).run lines).ownFindings last = [] := by
      rw [← Bool.not_eq_true, any_isError_ownFindings, ne_eq, not_not]
    rw [run_append_singleton, tainted_step, order_run order, Bool.not_true, Bool.or_false,
      Line.trailingRules_append_singleton, Line.beforeRules_append_singleton,
      Bool.or_eq_false_iff, hown]
    by_cases h : last.kind = .rule
    · rw [if_pos h, if_pos h, Line.isRule_iff.2 h, Bool.and_true, ih, clean_append_singleton,
        ← run_append, Line.beforeRules_append_trailingRules]
      constructor
      · rintro ⟨⟨hrules, hbefore⟩, hlast⟩
        exact ⟨⟨hrules, hlast⟩, hbefore⟩
      · rintro ⟨⟨hrules, hlast⟩, hbefore⟩
        exact ⟨⟨hrules, hbefore⟩, hlast⟩
    · -- A boundary clears the taint first, so only what it is reported for itself is left.
      rw [if_neg h, if_neg h, Line.not_isRule_iff.2 h, Bool.and_false]
      constructor
      · rintro ⟨_, hlast⟩
        refine ⟨.nil _, ?_⟩
        intro before line he
        obtain ⟨rfl, hline⟩ := List.append_inj' he rfl
        obtain rfl := List.singleton_inj.1 hline
        exact hlast
      · rintro ⟨_, hbefore⟩
        exact ⟨rfl, hbefore lines last rfl⟩

end Linter
end SuffixLint
