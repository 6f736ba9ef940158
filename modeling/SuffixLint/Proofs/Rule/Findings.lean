import SuffixLint.Proofs.Stage
import SuffixLint.Rule.Check

namespace SuffixLint

namespace Finding

def isDoublette : Finding → Bool
  | .doublette _ => true
  | _ => false

theorem stage_of_isDoublette {finding : Finding} (h : finding.isDoublette = true) :
    finding.stage = .rule := by
  cases finding with
  | doublette earlierLine => rfl
  | _ => cases h

structure IsPrior (finding : Finding) : Prop where
  stage : finding.stage = .rule
  not_doublette : finding.isDoublette = false

end Finding

namespace Rule

variable {finding : Finding}

theorem eq_of_mem_textFindings {text : Text} (h : finding ∈ textFindings text) :
    finding = .notNfkc ∨ finding = .notLowercase := by
  rcases List.mem_append.1 h with h | h
  · split at h
    · cases h
    · exact .inl (List.mem_singleton.1 h)
  · split at h
    · cases h
    · exact .inr (List.mem_singleton.1 h)

theorem eq_of_mem_parentFindings {registry : Registry} {kind : RuleKind} {labels : List Text}
    (h : finding ∈ parentFindings registry kind labels) :
    finding = .exceptionWithoutWildcard := by
  unfold parentFindings at h
  split at h
  · split at h
    · cases h
    · exact List.mem_singleton.1 h
  · cases h

theorem mem_of_mem_labelFindings {labels : List Text} (h : finding ∈ labelFindings labels) :
    finding ∈ [Finding.emptyLabel, .punycode, .doubleMinus, .illegalCharacter] := by
  obtain ⟨label, _, hfault⟩ := List.mem_filterMap.1 h
  rw [labelFault] at hfault
  repeat' split at hfault
  all_goals cases hfault
  all_goals decide

def priorFindings (registry : Registry) (line : Line) : List Finding :=
  if !line.isUtf8 then [.invalidEncoding]
  else textFindings line.text ++
    if isWildcardException line.text then [.wildcardAndException]
    else parentFindings registry (kind line.text) (labels (domain line.text)) ++
      labelFindings (labels (domain line.text))

def priorKinds : List Finding :=
  [.invalidEncoding, .notNfkc, .notLowercase, .wildcardAndException, .exceptionWithoutWildcard,
    .emptyLabel, .punycode, .doubleMinus, .illegalCharacter]

theorem mem_priorKinds {registry : Registry} {line : Line}
    (h : finding ∈ priorFindings registry line) : finding ∈ priorKinds := by
  rw [priorFindings] at h
  split at h
  · rw [List.mem_singleton.1 h]
    decide
  · rcases List.mem_append.1 h with h | h
    · rcases eq_of_mem_textFindings h with rfl | rfl
      · decide
      · decide
    · split at h
      · rw [List.mem_singleton.1 h]
        decide
      · rcases List.mem_append.1 h with h | h
        · rw [eq_of_mem_parentFindings h]
          decide
        · have hfaults : [Finding.emptyLabel, .punycode, .doubleMinus, .illegalCharacter] ⊆
              priorKinds := by
            decide
          exact hfaults (mem_of_mem_labelFindings h)

theorem isPrior_of_mem_priorFindings {registry : Registry} {line : Line}
    (h : finding ∈ priorFindings registry line) : finding.IsPrior := by
  have hkinds : ∀ prior ∈ priorKinds, prior.stage = .rule ∧ prior.isDoublette = false := by
    decide
  obtain ⟨hstage, hdoublette⟩ := hkinds finding (mem_priorKinds h)
  exact ⟨hstage, hdoublette⟩

theorem mem_doubletteFindings {registry : Registry} {domain : Text} :
    finding ∈ doubletteFindings registry domain ↔
      ∃ earlier, registry.get? domain = some earlier ∧ finding = .doublette earlier.line := by
  rw [doubletteFindings]
  cases registry.get? domain with
  | none => simp
  | some earlier => simp

theorem length_doubletteFindings (registry : Registry) (domain : Text) :
    (doubletteFindings registry domain).length =
      if (registry.get? domain).isSome then 1 else 0 := by
  rw [doubletteFindings]
  cases registry.get? domain <;> rfl

/-- The last thing a check finds is a doublette, and a line that is given up is not looked at for
one. -/
theorem check_findings_eq (registry : Registry) (region : Region) (line : Line) :
    (check registry region line).findings =
      priorFindings registry line ++
        if isSkipped line then [] else doubletteFindings registry (domain line.text) := by
  rw [isSkipped, priorFindings]
  cases hu : line.isUtf8 with
  | false => simp [check, hu]
  | true => cases hw : isWildcardException line.text <;> simp [check, hu, hw]

theorem stage_check {registry : Registry} {region : Region} {line : Line}
    (h : finding ∈ (check registry region line).findings) : finding.stage = .rule := by
  rw [check_findings_eq] at h
  rcases List.mem_append.1 h with h | h
  · exact (isPrior_of_mem_priorFindings h).stage
  · split at h
    · cases h
    · obtain ⟨earlier, _, rfl⟩ := mem_doubletteFindings.1 h
      rfl

theorem doublettes_check (registry : Registry) (region : Region) (line : Line) :
    (check registry region line).findings.filter (·.isDoublette) =
      if isSkipped line then [] else doubletteFindings registry (domain line.text) := by
  have hprior : (priorFindings registry line).filter (·.isDoublette) = [] := by
    rw [List.filter_eq_nil_iff]
    intro finding h
    rw [(isPrior_of_mem_priorFindings h).not_doublette]
    exact Bool.false_ne_true
  rw [check_findings_eq, List.filter_append, hprior, List.nil_append]
  split
  · rfl
  · rw [List.filter_eq_self]
    intro finding h
    obtain ⟨earlier, _, rfl⟩ := mem_doubletteFindings.1 h
    rfl

end Rule
end SuffixLint
