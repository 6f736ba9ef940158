import SuffixLint.Proofs.Text.Parts
import SuffixLint.Rule.Check

namespace SuffixLint

namespace RuleKind

def sign : RuleKind → Text
  | .plain => []
  | .wildcard => "*.".toList
  | .exception => "!".toList

end RuleKind

namespace Rule

/-- A label that is not empty, holds no two hyphens in a row, and of ASCII only letters, digits and
hyphens. -/
structure WellSpeltLabel (label : Text) : Prop where
  nonempty : label ≠ []
  no_double_minus : ¬ "--".toList <:+: label
  ascii : ∀ c ∈ label, c.toNat < 0x80 → c.isAlphanum = true ∨ c = '-'

/-- A prefix, which may be empty, and then labels separated by dots. -/
def WellSpelt (text : Text) : Prop :=
  ∃ kind labels, labels ≠ [] ∧ (∀ label ∈ labels, WellSpeltLabel label) ∧
    text = RuleKind.sign kind ++ ofLabels labels

theorem ofLabels_singleton (label : Text) : ofLabels [label] = label :=
  Text.join_singleton '.' label

theorem ofLabels_cons_cons (label next : Text) (others : List Text) :
    ofLabels (label :: next :: others) = label ++ '.' :: ofLabels (next :: others) :=
  Text.join_cons_cons '.' label next others

theorem labelFault_eq_none_iff {label : Text} :
    labelFault label = none ↔ WellSpeltLabel label := by
  have hascii : label.any (fun c => decide (c.toNat < 0x80) && !isLabelCharacter c) = false ↔
      ∀ c ∈ label, c.toNat < 0x80 → c.isAlphanum = true ∨ c = '-' := by
    rw [List.any_eq_false]
    simp only [isLabelCharacter, Bool.and_eq_true, decide_eq_true_eq, Bool.not_eq_true',
      not_and, Bool.not_eq_false, Bool.or_eq_true, beq_iff_eq]
  constructor
  · intro h
    rw [labelFault] at h
    repeat' split at h
    all_goals try cases h
    next hempty _ hminus hany =>
    refine ⟨?_, ?_, hascii.1 (Bool.eq_false_iff.2 hany)⟩
    · intro he
      exact hempty (List.isEmpty_iff.2 he)
    · intro hinfix
      exact hminus (Text.hasInfix_iff.2 hinfix)
  · intro h
    have hempty : label.isEmpty ≠ true := fun he => h.nonempty (List.isEmpty_iff.1 he)
    have hminus : Text.hasInfix "--".toList label ≠ true :=
      fun he => h.no_double_minus (Text.hasInfix_iff.1 he)
    have hpunycode : punycodeMark.isPrefixOf label ≠ true := by
      intro he
      have hmark : "--".toList <:+: punycodeMark := ⟨"xn".toList, [], rfl⟩
      exact h.no_double_minus (hmark.trans (List.isPrefixOf_iff_prefix.1 he).isInfix)
    rw [labelFault, if_neg hempty, if_neg hpunycode, if_neg hminus,
      hascii.2 h.ascii, if_neg Bool.false_ne_true]

theorem labelFindings_eq_nil_iff {labels : List Text} :
    labelFindings labels = [] ↔ ∀ label ∈ labels, WellSpeltLabel label := by
  rw [labelFindings, List.filterMap_eq_nil_iff]
  exact forall₂_congr fun _ _ => labelFault_eq_none_iff

theorem WellSpeltLabel.dot_free {label : Text} (h : WellSpeltLabel label) : '.' ∉ label := by
  intro hdot
  rcases h.ascii '.' hdot (by decide) with hc | hc
  · exact absurd hc (by decide)
  · exact absurd hc (by decide)

theorem ofLabels_eq_cons_of_wellSpelt {labels : List Text} (hne : labels ≠ [])
    (h : ∀ label ∈ labels, WellSpeltLabel label) :
    ∃ c rest, ofLabels labels = c :: rest ∧ c ≠ '*' ∧ c ≠ '!' := by
  obtain ⟨label, others, rfl⟩ := List.exists_cons_of_ne_nil hne
  have hlabel := h label List.mem_cons_self
  obtain ⟨c, tail, rfl⟩ := List.exists_cons_of_ne_nil hlabel.nonempty
  have hc := hlabel.ascii c List.mem_cons_self
  obtain ⟨rest, hrest⟩ : ∃ rest, ofLabels ((c :: tail) :: others) = c :: rest := by
    cases others with
    | nil => exact ⟨tail, ofLabels_singleton _⟩
    | cons next others =>
      exact ⟨tail ++ '.' :: ofLabels (next :: others), ofLabels_cons_cons _ next others⟩
  refine ⟨c, rest, hrest, ?_, ?_⟩
  · rintro rfl
    exact absurd (hc (by decide)) (by decide)
  · rintro rfl
    exact absurd (hc (by decide)) (by decide)

theorem sign_append_domain (text : Text) : (kind text).sign ++ domain text = text := by
  unfold kind domain kindAndDomain
  split <;> rfl

theorem kindAndDomain_sign_append {kind : RuleKind} {c : Char} {rest : Text} (h : c ≠ '*')
    (h' : c ≠ '!') : kindAndDomain (kind.sign ++ c :: rest) = (kind, c :: rest) := by
  cases kind with
  | wildcard => rfl
  | exception => rfl
  | plain =>
    simp only [RuleKind.sign, List.nil_append]
    unfold kindAndDomain
    split
    · next he => exact absurd (List.cons.inj he).1 h
    · next he => exact absurd (List.cons.inj he).1 h'
    · rfl

theorem wellSpelt_iff {text : Text} :
    WellSpelt text ↔ labelFindings (labels (domain text)) = [] := by
  rw [labelFindings_eq_nil_iff]
  constructor
  · rintro ⟨kind, parts, hne, hparts, rfl⟩
    obtain ⟨c, rest, he, hstar, hmark⟩ := ofLabels_eq_cons_of_wellSpelt hne hparts
    have hdomain : domain (kind.sign ++ ofLabels parts) = ofLabels parts := by
      rw [he, domain, kindAndDomain_sign_append hstar hmark]
    rw [hdomain, labels_ofLabels (fun l hl => (hparts l hl).dot_free) hne]
    exact hparts
  · intro h
    refine ⟨kind text, labels (domain text), labels_ne_nil _, h, ?_⟩
    rw [ofLabels_labels, sign_append_domain]

theorem WellSpelt.not_isWildcardException {text : Text} (h : WellSpelt text) :
    isWildcardException text = false := by
  rw [Bool.eq_false_iff]
  intro hw
  obtain ⟨rest, rfl⟩ := List.isPrefixOf_iff_prefix.1 hw
  have hlabels := labelFindings_eq_nil_iff.1 (wellSpelt_iff.1 h)
  obtain ⟨c, rest', he, _, hmark⟩ :=
    ofLabels_eq_cons_of_wellSpelt (labels_ne_nil _) hlabels
  rw [ofLabels_labels] at he
  exact hmark (List.cons.inj he).1.symm

theorem mem_ofLabels {ls : List Text} {c : Char} (h : c ∈ ofLabels ls) :
    c = '.' ∨ ∃ label ∈ ls, c ∈ label := by
  induction ls with
  | nil => cases h
  | cons label rest ih =>
    cases rest with
    | nil =>
      rw [ofLabels_singleton] at h
      exact .inr ⟨label, List.mem_cons_self, h⟩
    | cons next rest =>
      rw [ofLabels_cons_cons, List.mem_append, List.mem_cons] at h
      rcases h with h | h | h
      · exact .inr ⟨label, List.mem_cons_self, h⟩
      · exact .inl h
      · rcases ih h with hdot | ⟨other, hother, hc⟩
        · exact .inl hdot
        · exact .inr ⟨other, List.mem_cons_of_mem _ hother, hc⟩

theorem WellSpelt.newline_free {text : Text} (h : WellSpelt text) : '\n' ∉ text := by
  obtain ⟨kind, ls, _, hlabels, rfl⟩ := h
  intro hm
  rcases List.mem_append.1 hm with hsign | hrest
  · cases kind with
    | plain => cases hsign
    | wildcard => exact absurd hsign (by decide)
    | exception => exact absurd hsign (by decide)
  · rcases mem_ofLabels hrest with hdot | ⟨label, hlabel, hc⟩
    · exact absurd hdot (by decide)
    · rcases (hlabels label hlabel).ascii '\n' hc (by decide) with hletter | hhyphen
      · exact absurd hletter (by decide)
      · exact absurd hhyphen (by decide)

/-- Whether a rule is an exception and another one the wildcard it asks for. -/
def AsksFor (exception wildcard : Text) : Prop :=
  ∃ x above, '.' ∉ x ∧ exception = '!' :: (x ++ '.' :: above) ∧ wildcard = '*' :: '.' :: above

theorem not_asksFor_self (text : Text) : ¬ AsksFor text text := by
  rintro ⟨x, above, _, hexception, hwildcard⟩
  cases hexception.symm.trans hwildcard

theorem labels_append_dot {x above : Text} (h : '.' ∉ x) :
    labels (x ++ '.' :: above) = x :: labels above :=
  List.splitOn_append_cons_self_of_not_mem h _

theorem parentFindings_exception {registry : Registry} {text x above : Text}
    (he : text = '!' :: (x ++ '.' :: above)) (h : '.' ∉ x) :
    parentFindings registry (kind text) (labels (domain text)) =
      if registry.holdsWildcard above then [] else [.exceptionWithoutWildcard] := by
  subst he
  have hkind : kindAndDomain ('!' :: (x ++ '.' :: above)) = (.exception, x ++ '.' :: above) := rfl
  rw [kind, domain, hkind, labels_append_dot h]
  obtain ⟨parent, others, hlabels⟩ := List.exists_cons_of_ne_nil (labels_ne_nil above)
  have habove : ofLabels (parent :: others) = above := by
    rw [← hlabels, ofLabels_labels]
  rw [hlabels]
  simp only [parentFindings, habove]

theorem parentFindings_eq_nil {registry : Registry} {text : Text}
    (h : ∀ x above, '.' ∉ x → text ≠ '!' :: (x ++ '.' :: above)) :
    parentFindings registry (kind text) (labels (domain text)) = [] := by
  cases hk : kind text with
  | plain => rfl
  | wildcard => rfl
  | exception =>
    have htext : text = '!' :: domain text := by
      have hs := sign_append_domain text
      rw [hk] at hs
      exact hs.symm
    have hdot : '.' ∉ domain text := by
      intro hm
      obtain ⟨x, above, hd, hx⟩ := List.eq_append_cons_of_mem hm
      exact h x above hx (by rw [← hd]; exact htext)
    have hlabels : labels (domain text) = [domain text] := List.splitOn_eq_singleton hdot
    rw [hlabels]
    rfl

theorem parentFindings_eq_nil_iff {registry : Registry} {text : Text} :
    parentFindings registry (kind text) (labels (domain text)) = [] ↔
      ∀ x above, '.' ∉ x → text = '!' :: (x ++ '.' :: above) →
        registry.holdsWildcard above = true := by
  constructor
  · intro h x above hx htext
    rw [parentFindings_exception htext hx] at h
    cases hwild : registry.holdsWildcard above with
    | true => rfl
    | false =>
      rw [hwild] at h
      cases h
  · intro h
    by_cases hexception : ∃ x above, '.' ∉ x ∧ text = '!' :: (x ++ '.' :: above)
    · obtain ⟨x, above, hx, htext⟩ := hexception
      rw [parentFindings_exception htext hx, if_pos (h x above hx htext)]
    · refine parentFindings_eq_nil ?_
      intro x above hx htext
      exact hexception ⟨x, above, hx, htext⟩

end Rule

structure Line.Spelt (line : Line) : Prop where
  utf8 : line.isUtf8 = true
  nfkc : line.text.isNfkc = true
  lowercase : line.text.isLowercase = true
  rule : Rule.WellSpelt line.text

theorem Line.Spelt.not_isSkipped {line : Line} (h : line.Spelt) :
    Rule.isSkipped line = false := by
  rw [Rule.isSkipped, h.utf8, h.rule.not_isWildcardException]
  rfl

/-- A rule is accepted when it is spelt well, has the wildcard it asks for, and is new. -/
theorem Rule.check_findings_eq_nil_iff {registry : Registry} {region : Region} {line : Line} :
    (check registry region line).findings = [] ↔
      line.Spelt ∧
        parentFindings registry (kind line.text) (labels (domain line.text)) = [] ∧
        registry.get? (domain line.text) = none := by
  have htext : textFindings line.text = [] ↔
      line.text.isNfkc = true ∧ line.text.isLowercase = true := by
    simp [textFindings]
  have hdouble : doubletteFindings registry (domain line.text) = [] ↔
      registry.get? (domain line.text) = none := by
    rw [doubletteFindings]
    cases registry.get? (domain line.text) <;> simp
  have hspelt (h : line.Spelt) := Bool.or_eq_false_iff.1 h.not_isSkipped
  cases hu : line.isUtf8 with
  | false =>
    have hno : ¬ line.Spelt := fun h => Bool.false_ne_true (hu.symm.trans h.utf8)
    simp [check, hu, hno]
  | true =>
    cases hw : isWildcardException line.text with
    | true =>
      have hno : ¬ line.Spelt := fun h => Bool.false_ne_true ((hspelt h).2.symm.trans hw)
      simp [check, hu, hw, hno]
    | false =>
      simp only [check, hu, hw, Bool.not_true, Bool.false_eq_true, ↓reduceIte,
        List.append_eq_nil_iff, htext, hdouble, and_assoc]
      constructor
      · rintro ⟨hn, hl, hp, hf, hd⟩
        exact ⟨⟨hu, hn, hl, wellSpelt_iff.2 hf⟩, hp, hd⟩
      · rintro ⟨⟨_, hn, hl, hf⟩, hp, hd⟩
        exact ⟨hn, hl, hp, wellSpelt_iff.1 hf, hd⟩

end SuffixLint
