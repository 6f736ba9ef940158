import SuffixLint.Proofs.Rule.Findings
import SuffixLint.Proofs.Rule.Grammar
import SuffixLint.Proofs.Text.Lowercase
import SuffixLint.Proofs.Text.Parts

namespace SuffixLint

namespace Rule

open Text (ownSmallLetters isLowercase_iff isLowercase_append)

theorem isLowercase_sign (kind : RuleKind) : kind.sign.isLowercase = true := by
  cases kind with
  | plain => rfl
  | wildcard => decide
  | exception => decide

theorem isLowercase_iff_domain (rule : Text) :
    rule.isLowercase = true ↔ (domain rule).isLowercase = true := by
  calc
    rule.isLowercase = true ↔ ((kind rule).sign ++ domain rule).isLowercase = true := by
      rw [sign_append_domain]
    _ ↔ (kind rule).sign.isLowercase = true ∧ (domain rule).isLowercase = true :=
      isLowercase_append _ _
    _ ↔ (domain rule).isLowercase = true := and_iff_right (isLowercase_sign (kind rule))

theorem isLowercase_iff_labels (domain : Text) :
    domain.isLowercase = true ↔ ∀ label ∈ labels domain, label.isLowercase = true := by
  simp only [isLowercase_iff]
  constructor
  · intro h label hlabel c hc
    exact h c (Text.mem_and_ne_of_mem_splitOn hlabel hc).1
  · intro h c hc
    rw [← ofLabels_labels domain] at hc
    rcases mem_ofLabels hc with rfl | ⟨label, hlabel, hc⟩
    · decide
    · exact h label hlabel c hc

theorem notLowercase_mem_textFindings_iff (text : Text) :
    .notLowercase ∈ textFindings text ↔ text.isLowercase = false := by
  rw [textFindings]
  cases text.isNfkc <;> cases text.isLowercase <;> simp

/-- A check looks at the case of every rule that it can decode, also of those it gives up later. -/
theorem notLowercase_mem_check_iff (registry : Registry) (region : Region) (line : Line) :
    .notLowercase ∈ (check registry region line).findings ↔
      line.isUtf8 = true ∧ line.text.isLowercase = false := by
  have hparent : .notLowercase ∉
      parentFindings registry (kind line.text) (labels (domain line.text)) :=
    fun h => nomatch eq_of_mem_parentFindings h
  have hlabels : .notLowercase ∉ labelFindings (labels (domain line.text)) :=
    fun h => absurd (mem_of_mem_labelFindings h) (by decide)
  have hdoublette : .notLowercase ∉ doubletteFindings registry (domain line.text) := by
    intro h
    obtain ⟨earlier, _, he⟩ := mem_doubletteFindings.1 h
    cases he
  rw [check]
  cases hutf8 : line.isUtf8 with
  | false => simp
  | true =>
    cases hgiven : isWildcardException line.text with
    | true => simp [notLowercase_mem_textFindings_iff]
    | false => simp [notLowercase_mem_textFindings_iff, hparent, hlabels, hdoublette]

/-- Whether a rule is in small letters can be asked of its parts: of two texts that it is put
together from, of its domain, of its labels, or of its characters, and so it is for what a check
reports. The small letters themselves are not put together like that: those of a capital sigma
depend on what is around it, and a character may have two. -/
theorem isLowercase_local (registry : Registry) (region : Region) (line : Line) :
    (∀ front back : Text,
      (front ++ back).isLowercase = true ↔ front.isLowercase = true ∧ back.isLowercase = true) ∧
    (∀ rule : Text,
      (rule.isLowercase = true ↔ (domain rule).isLowercase = true) ∧
      (rule.isLowercase = true ↔ ∀ label ∈ labels (domain rule), label.isLowercase = true) ∧
      (rule.isLowercase = true ↔ ∀ c ∈ rule, ownSmallLetters c = [c])) ∧
    (∀ c : Char, Text.lowercase [c] = ownSmallLetters c) ∧
    (.notLowercase ∈ (check registry region line).findings ↔
      line.isUtf8 = true ∧ ∃ c ∈ line.text, ownSmallLetters c ≠ [c]) ∧
    (∃ front back : Text, Text.lowercase (front ++ back) ≠ front.lowercase ++ back.lowercase) ∧
    ∃ c, (ownSmallLetters c).length = 2 := by
  refine ⟨isLowercase_append, fun rule => ⟨isLowercase_iff_domain rule, ?labels,
    isLowercase_iff rule⟩, Text.lowercase_singleton, ?check, ?sigma, ?two⟩
  case labels => exact (isLowercase_iff_domain rule).trans (isLowercase_iff_labels (domain rule))
  case check =>
    rw [notLowercase_mem_check_iff, ← Bool.not_eq_true, isLowercase_iff]
    simp only [Classical.not_forall, exists_prop, ne_eq]
  case sigma => exact ⟨"Α".toList, "Σ".toList, by decide +kernel⟩
  case two => exact ⟨'İ', by decide⟩

/-- A capital sigma has another small letter at the end of a word, and is none in either place. -/
example :
    Text.lowercase "ΑΣ".toList = "ας".toList ∧ Text.lowercase "ΑΣΑ".toList = "ασα".toList ∧
      Text.isLowercase "ΑΣ".toList = false ∧ Text.isLowercase "ΑΣΑ".toList = false := by
  decide +kernel

end Rule
end SuffixLint
