import SuffixLint.Proofs.Linter.Attribution
import SuffixLint.Proofs.Linter.Clean
import SuffixLint.Proofs.Registry.Origin

namespace SuffixLint

namespace Line

/-- Whether a line is a rule that is registered under a domain, unless an earlier one is. -/
def isFor (domain : Text) (line : Line) : Bool :=
  line.isRule && !Rule.isSkipped line && line.domain == domain

def firstFor? (domain : Text) (lines : List Line) : Option Line := lines.find? (·.isFor domain)

def IsDoublette (issues : List Issue) (line : Line) : Prop :=
  ∃ issue ∈ issues, issue.line = line.number ∧ issue.finding.isDoublette = true

theorem isFor_iff {domain : Text} {line : Line} :
    line.isFor domain = true ↔
      line.kind = .rule ∧ Rule.isSkipped line = false ∧ line.domain = domain := by
  simp only [isFor, Bool.and_eq_true, isRule_iff, Bool.not_eq_true', beq_iff_eq, and_assoc]

theorem exists_split_of_firstFor? {domain : Text} {lines : List Line} {first : Line}
    (h : firstFor? domain lines = some first) :
    ∃ older newer, lines = older ++ first :: newer ∧ first.isFor domain = true ∧
      firstFor? domain older = none := by
  obtain ⟨hfor, older, newer, he, holder⟩ := List.find?_eq_some_iff_append.1 h
  refine ⟨older, newer, he, hfor, List.find?_eq_none.2 ?_⟩
  intro earlier hm hearlier
  have hnot := holder earlier hm
  rw [hearlier] at hnot
  cases hnot

theorem firstFor?_candidates (history : SectionHistory) (lines : List Line) (domain : Text) :
    ((candidates history lines).find? (·.isFor domain)).map (·.line) =
      firstFor? domain lines := by
  have hfor : (fun candidate : Candidate => candidate.isFor domain) =
      (fun line : Line => !Rule.isSkipped line && line.domain == domain) ∘ Candidate.line := rfl
  rw [hfor, ← List.find?_map, map_line_candidates, List.find?_filter, firstFor?]
  apply List.find?_congr
  intro line _
  rw [isFor, Bool.and_assoc, Bool.decide_and, Bool.decide_eq_true, Bool.decide_eq_true]

end Line

theorem Linter.origin?_run (checks : Checks) (lines : List Line) (domain : Text) :
    ((start checks).run lines).registry.origin? domain =
      (Line.firstFor? domain lines).map (·.origin) := by
  have hget : ((start checks).run lines).registry.get? domain =
      ((Line.candidates {} lines).find? (·.isFor domain)).map (·.registration) := by
    rw [registry_run]
    exact Registry.get?_takeAll_empty _ _
  rw [Registry.origin?, hget, ← Line.firstFor?_candidates {}, Option.map_map, Option.map_map]
  rfl

theorem Linter.isSome_get?_run (checks : Checks) (lines : List Line) (domain : Text) :
    (((start checks).run lines).registry.get? domain).isSome =
      (Line.firstFor? domain lines).isSome := by
  rw [← Registry.isSome_origin?, origin?_run, Option.isSome_map]

theorem Rule.exists_isDoublette_check_iff (registry : Registry) (region : Region) (line : Line) :
    (∃ finding ∈ (check registry region line).findings, finding.isDoublette = true) ↔
      isSkipped line = false ∧ (registry.get? line.domain).isSome = true := by
  rw [← List.length_filter_pos_iff, doublettes_check]
  cases isSkipped line with
  | true => simp
  | false =>
    have hlength := length_doubletteFindings registry (domain line.text)
    rw [if_neg Bool.false_ne_true, hlength, Line.domain]
    cases (registry.get? (domain line.text)).isSome <;> simp

namespace Linter

theorem exists_isDoublette_ownFindings_iff {linter : Linter} {line : Line} :
    (∃ finding ∈ linter.ownFindings line, finding.isDoublette = true) ↔
      line.kind = .rule ∧ Rule.isSkipped line = false ∧
        (linter.registry.get? line.domain).isSome = true := by
  rw [← Rule.exists_isDoublette_check_iff _ linter.sections.current, ownFindings]
  cases hk : line.kind with
  | blank => simp
  | comment =>
    apply iff_of_false
    · rintro ⟨finding, hf, hdoublette⟩
      cases (stage_markerFindings hf).symm.trans (Finding.stage_of_isDoublette hdoublette)
    · rintro ⟨hrule, _⟩
      cases hrule
  | rule =>
    simp only [true_and]
    constructor
    · rintro ⟨finding, hf, hdoublette⟩
      refine ⟨finding, ?_, hdoublette⟩
      rcases List.mem_append.1 hf with hf | hf
      · split at hf
        · rw [List.mem_singleton.1 hf] at hdoublette
          cases hdoublette
        · cases hf
      · exact hf
    · rintro ⟨finding, hf, hdoublette⟩
      exact ⟨finding, List.mem_append_right _ hf, hdoublette⟩

end Linter

/-- A rule is reported as a doublette exactly when it is not given up and an earlier line was
registered for its domain. -/
theorem Line.isDoublette_iff {lines before after : List Line} {line : Line} (file : Text)
    (checks : Checks) (increasing : Increasing lines) (he : lines = before ++ line :: after) :
    line.IsDoublette (LintReport.ofLines lines file checks).issues ↔
      line.kind = .rule ∧ Rule.isSkipped line = false ∧
        (firstFor? line.domain before).isSome = true := by
  rw [← Linter.isSome_get?_run checks, ← Linter.exists_isDoublette_ownFindings_iff,
    ← LintReport.exists_own_issue_iff file checks increasing he]
  constructor
  · rintro ⟨issue, hm, hline, hdoublette⟩
    have hown := Finding.isOwn_iff.2 (.inr (Finding.stage_of_isDoublette hdoublette))
    exact ⟨issue, hm, hline, hown, hdoublette⟩
  · rintro ⟨issue, hm, hline, _, hdoublette⟩
    exact ⟨issue, hm, hline, hdoublette⟩

end SuffixLint
