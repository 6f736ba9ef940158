import Mathlib.Data.List.Forall2
import SuffixLint.Proofs.Rule.Findings
import SuffixLint.Proofs.Rule.Grammar
import SuffixLint.Proofs.Text.Parts

namespace SuffixLint.Rule

theorem dot_not_mem_of_mem_labels {domain label : Text} (h : label ∈ labels domain) :
    '.' ∉ label :=
  Text.not_mem_of_mem_splitOn h

/-- A block without a dot stands in a domain exactly where it stands in one of the labels. -/
theorem infix_ofLabels_iff {part : Text} {ls : List Text} (hdot : '.' ∉ part) (hne : part ≠ []) :
    part <:+: ofLabels ls ↔ ∃ label ∈ ls, part <:+: label := by
  induction ls with
  | nil => simpa [ofLabels, Text.join] using hne
  | cons label others ih =>
    cases others with
    | nil => simp [ofLabels_singleton]
    | cons next others =>
      rw [ofLabels_cons_cons, Text.infix_append_cons_iff hdot, ih]
      exact (List.exists_mem_cons_iff _ _ _).symm

section Dots

variable {label rest : Text}

theorem dot_prefix_append_iff (h : '.' ∉ label) :
    ".".toList <+: label ++ '.' :: rest ↔ label = [] := by
  cases label with
  | nil => simp
  | cons c label => simpa using List.ne_of_not_mem_cons h

theorem dot_suffix_append_iff :
    ".".toList <:+ label ++ '.' :: rest ↔ rest = [] ∨ ".".toList <:+ rest := by
  rcases List.eq_nil_or_concat rest with rfl | ⟨front, c, rfl⟩
  · simp
  · have hassoc : label ++ '.' :: (front ++ [c]) = (label ++ '.' :: front) ++ [c] := by simp
    have hdot : ".".toList = ['.'] := rfl
    have hne : front ++ [c] ≠ [] := List.append_ne_nil_of_right_ne_nil _ (List.cons_ne_nil _ _)
    rw [List.concat_eq_append, or_iff_right hne, hassoc, hdot,
      List.singleton_suffix_append_singleton_iff, List.singleton_suffix_append_singleton_iff]

theorem double_dot_infix_append_iff (h : '.' ∉ label) :
    "..".toList <:+: label ++ '.' :: rest ↔ ".".toList <+: rest ∨ "..".toList <:+: rest := by
  induction label with
  | nil => simp [List.infix_cons_iff]
  | cons c label ih =>
    rw [List.mem_cons, not_or] at h
    rw [List.cons_append, List.infix_cons_iff, ih h.2]
    simp [h.1]

end Dots

/-- A label is empty exactly where a dot of the domain does not stand between two characters of
labels, or where there is no character at all. -/
theorem nil_mem_iff {ls : List Text} (hdot : ∀ label ∈ ls, '.' ∉ label) (hne : ls ≠ []) :
    [] ∈ ls ↔ ofLabels ls = [] ∨ ".".toList <:+ ofLabels ls ∨ ".".toList <+: ofLabels ls ∨
      "..".toList <:+: ofLabels ls := by
  induction ls with
  | nil => exact absurd rfl hne
  | cons label others ih =>
    have hlabel : '.' ∉ label := hdot label List.mem_cons_self
    cases others with
    | nil =>
      have hno : ∀ part : Text, '.' ∈ part → ¬ part <:+: label :=
        fun part hpart h => hlabel (h.subset hpart)
      have hstart : ¬ ".".toList <+: label := fun h => hno _ (by decide) h.isInfix
      have hsuffix : ¬ ".".toList <:+ label := fun h => hno _ (by decide) h.isInfix
      have hinfix : ¬ "..".toList <:+: label := hno _ (by decide)
      simp only [ofLabels_singleton, List.mem_singleton, hstart, hsuffix, hinfix, or_false]
      exact eq_comm
    | cons next others =>
      have ih := ih (fun l hl => hdot l (List.mem_cons_of_mem _ hl)) (List.cons_ne_nil _ _)
      have hne' : label ++ '.' :: ofLabels (next :: others) ≠ [] := by simp
      rw [ofLabels_cons_cons, dot_prefix_append_iff hlabel, dot_suffix_append_iff,
        double_dot_infix_append_iff hlabel, List.mem_cons, ih, @eq_comm _ [] label]
      rw [or_iff_right hne', or_left_comm (b := label = []), or_assoc]

/-- How a domain is spelt well, said of its text and not of its labels. -/
structure WellSpeltDomain (domain : Text) : Prop where
  nonempty : domain ≠ []
  not_dot_first : ¬ ".".toList <+: domain
  not_dot_last : ¬ ".".toList <:+ domain
  no_double_dot : ¬ "..".toList <:+: domain
  no_double_minus : ¬ "--".toList <:+: domain
  ascii : ∀ c ∈ domain, c.toNat < 0x80 → c.isAlphanum = true ∨ c = '-' ∨ c = '.'

theorem wellSpeltDomain_iff {domain : Text} :
    WellSpeltDomain domain ↔ ∀ label ∈ labels domain, WellSpeltLabel label := by
  have hdots : [] ∈ labels domain ↔ _ :=
    nil_mem_iff (fun _ => dot_not_mem_of_mem_labels) (labels_ne_nil domain)
  have hminus : "--".toList <:+: domain ↔ ∃ label ∈ labels domain, "--".toList <:+: label := by
    conv_lhs => rw [← ofLabels_labels domain]
    exact infix_ofLabels_iff (by decide) (by decide)
  rw [ofLabels_labels] at hdots
  constructor
  · intro h label hlabel
    refine ⟨?nonempty, fun hinfix => h.no_double_minus (hminus.2 ⟨label, hlabel, hinfix⟩), ?ascii⟩
    case nonempty =>
      rintro rfl
      rcases hdots.1 hlabel with hnil | hlast | hfirst | hdouble
      · exact h.nonempty hnil
      · exact h.not_dot_last hlast
      · exact h.not_dot_first hfirst
      · exact h.no_double_dot hdouble
    case ascii =>
      intro c hc hascii
      have hfree : '.' ∉ [c] := by
        rw [List.mem_singleton]
        rintro rfl
        exact dot_not_mem_of_mem_labels hlabel hc
      obtain ⟨front, back, hsplit⟩ := List.append_of_mem hc
      have hblock : [c] <:+: ofLabels (labels domain) :=
        (infix_ofLabels_iff hfree (List.cons_ne_nil c [])).2
          ⟨label, hlabel, front, back, by rw [hsplit, List.append_assoc, List.singleton_append]⟩
      rw [ofLabels_labels] at hblock
      rcases h.ascii c (hblock.subset List.mem_cons_self) hascii with hletter | hhyphen | rfl
      · exact .inl hletter
      · exact .inr hhyphen
      · exact absurd hc (dot_not_mem_of_mem_labels hlabel)
  · intro h
    have hnil : ¬ ([] : Text) ∈ labels domain := fun hm => (h [] hm).nonempty rfl
    rw [hdots] at hnil
    push Not at hnil
    obtain ⟨hne, hlast, hfirst, hdouble⟩ := hnil
    refine ⟨hne, hfirst, hlast, hdouble, ?_, ?_⟩
    · rw [hminus]
      rintro ⟨label, hlabel, hinfix⟩
      exact (h label hlabel).no_double_minus hinfix
    · intro c hc hascii
      rw [← ofLabels_labels domain] at hc
      rcases mem_ofLabels hc with hdot | ⟨label, hlabel, hmem⟩
      · exact .inr (.inr hdot)
      · rcases (h label hlabel).ascii c hmem hascii with hletter | hhyphen
        · exact .inl hletter
        · exact .inr (.inl hhyphen)

/-- What is reported of a label, by the first of four faults that it has. -/
inductive LabelFault : Text → Finding → Prop
  | emptyLabel : LabelFault [] .emptyLabel
  | punycode {label : Text} (starts : "xn--".toList <+: label) : LabelFault label .punycode
  | doubleMinus {label : Text} (starts : ¬ "xn--".toList <+: label)
      (holds : "--".toList <:+: label) : LabelFault label .doubleMinus
  | illegalCharacter {label : Text} (no_double_minus : ¬ "--".toList <:+: label) {c : Char}
      (mem : c ∈ label) (ascii : c.toNat < 0x80) (no_letter : c.isAlphanum = false)
      (no_hyphen : c ≠ '-') : LabelFault label .illegalCharacter

theorem labelFault_of_eq_some {label : Text} {finding : Finding}
    (h : labelFault label = some finding) : LabelFault label finding := by
  rw [labelFault] at h
  split at h
  · next hempty =>
    cases h
    rw [List.isEmpty_iff.1 hempty]
    exact .emptyLabel
  · split at h
    · next hstarts =>
      cases h
      exact .punycode (List.isPrefixOf_iff_prefix.1 hstarts)
    · next hstarts =>
      rw [punycodeMark, List.isPrefixOf_iff_prefix] at hstarts
      split at h
      · next hminus =>
        cases h
        exact .doubleMinus hstarts (Text.hasInfix_iff.1 hminus)
      · next hminus =>
        rw [Text.hasInfix_iff] at hminus
        split at h
        · next hany =>
          cases h
          obtain ⟨c, hc, hbad⟩ := List.any_eq_true.1 hany
          simp only [isLabelCharacter, Bool.and_eq_true, decide_eq_true_eq, Bool.not_eq_true',
            Bool.or_eq_false_iff, beq_eq_false_iff_ne] at hbad
          exact .illegalCharacter hminus hc hbad.1 hbad.2.1 hbad.2.2
        · cases h

instance (label : Text) : Decidable (WellSpeltLabel label) :=
  decidable_of_iff (labelFault label = none) labelFault_eq_none_iff

theorem forall₂_labelFindings (ls : List Text) :
    List.Forall₂ LabelFault (ls.filter (¬ WellSpeltLabel ·)) (labelFindings ls) := by
  induction ls with
  | nil => exact .nil
  | cons label ls ih =>
    rw [labelFindings, List.filterMap_cons]
    cases hfault : labelFault label with
    | none =>
      rw [List.filter_cons_of_neg]
      · exact ih
      · simpa using labelFault_eq_none_iff.1 hfault
    | some finding =>
      have hbad : ¬ WellSpeltLabel label := by
        rw [← labelFault_eq_none_iff, hfault]
        exact Option.some_ne_none finding
      rw [List.filter_cons_of_pos (by simpa using hbad)]
      exact .cons (labelFault_of_eq_some hfault) ih

def spellingFaults : List Finding := [.emptyLabel, .punycode, .doubleMinus, .illegalCharacter]

theorem filter_check_findings {registry : Registry} {region : Region} {line : Line}
    (hutf8 : line.isUtf8 = true) (hkept : isWildcardException line.text = false) :
    (check registry region line).findings.filter (· ∈ spellingFaults) =
      labelFindings (labels (domain line.text)) := by
  have htext : (textFindings line.text).filter (· ∈ spellingFaults) = [] := by
    rw [List.filter_eq_nil_iff]
    intro finding h
    rcases eq_of_mem_textFindings h with rfl | rfl <;> decide
  have hparent : (parentFindings registry (kind line.text) (labels (domain line.text))).filter
      (· ∈ spellingFaults) = [] := by
    rw [List.filter_eq_nil_iff]
    intro finding h
    rw [eq_of_mem_parentFindings h]
    decide
  have hlabels : (labelFindings (labels (domain line.text))).filter (· ∈ spellingFaults) =
      labelFindings (labels (domain line.text)) := by
    rw [List.filter_eq_self]
    intro finding h
    exact decide_eq_true (mem_of_mem_labelFindings h)
  have hdoublette : (doubletteFindings registry (domain line.text)).filter
      (· ∈ spellingFaults) = [] := by
    rw [List.filter_eq_nil_iff]
    intro finding h
    obtain ⟨earlier, _, rfl⟩ := mem_doubletteFindings.1 h
    simp [spellingFaults]
  simp only [check, hutf8, hkept, Bool.not_true, Bool.false_eq_true, ↓reduceIte,
    List.filter_append, htext, hparent, hlabels, hdoublette, List.nil_append, List.append_nil]

/-- A check of a rule that is not given up finds no fault of spelling exactly where the text of the
domain shows none, and otherwise one for each label that is not spelt well, from left to right. The
domain is the rule without `*.` or `!` in front. -/
theorem spellingFaults_exact {registry : Registry} {region : Region} {line : Line}
    (hutf8 : line.isUtf8 = true) (hkept : ¬ "*.!".toList <+: line.text) :
    let found := (check registry region line).findings.filter (· ∈ spellingFaults)
    (found = [] ↔ WellSpeltDomain (domain line.text)) ∧
      List.Forall₂ LabelFault ((labels (domain line.text)).filter (¬ WellSpeltLabel ·)) found ∧
      (∀ d, kindAndDomain line.text = (.wildcard, d) ↔ line.text = '*' :: '.' :: d) ∧
      (∀ d, kindAndDomain line.text = (.exception, d) ↔ line.text = '!' :: d) ∧
      (∀ d, kindAndDomain line.text = (.plain, d) ↔
        d = line.text ∧ (∀ rest, line.text ≠ '*' :: '.' :: rest) ∧
          ∀ rest, line.text ≠ '!' :: rest) ∧
      (kind line.text).sign ++ ofLabels (labels (domain line.text)) = line.text ∧
      ∀ label ∈ labels (domain line.text), '.' ∉ label := by
  intro found
  have hfound : found = labelFindings (labels (domain line.text)) :=
    filter_check_findings hutf8 (Bool.eq_false_iff.2 (mt List.isPrefixOf_iff_prefix.1 hkept))
  refine ⟨?spelt, ?faults, fun _ => kindAndDomain_eq_wildcard_iff,
    fun _ => kindAndDomain_eq_exception_iff, fun _ => kindAndDomain_eq_plain_iff, ?parts,
    fun _ => dot_not_mem_of_mem_labels⟩
  case spelt => rw [hfound, labelFindings_eq_nil_iff, wellSpeltDomain_iff]
  case faults =>
    rw [hfound]
    exact forall₂_labelFindings _
  case parts => rw [ofLabels_labels, sign_append_domain]

/-- All four faults in one exception, one of them after the last dot; a label of which two could be
reported has the first. -/
theorem spellingFaults_exact_every_fault :
    let line := Line.ofBytes 1 (Utf8.encode "!a_b.xn--c--_.ok.d--_.".toList)
    let found := (check .empty .outside line).findings.filter (· ∈ spellingFaults)
    line.isUtf8 = true ∧ ¬ "*.!".toList <+: line.text ∧
      found = [.illegalCharacter, .punycode, .doubleMinus, .emptyLabel] ∧
      ¬ WellSpeltDomain (domain line.text) := by
  intro line found
  have hutf8 : line.isUtf8 = true := by decide
  have hkept : ¬ "*.!".toList <+: line.text := by decide
  have hfound : found = [.illegalCharacter, .punycode, .doubleMinus, .emptyLabel] := by
    refine (filter_check_findings hutf8 (by decide)).trans ?_
    decide
  have hspelt : found = [] ↔ WellSpeltDomain (domain line.text) :=
    (spellingFaults_exact hutf8 hkept).1
  refine ⟨hutf8, hkept, hfound, fun h => ?_⟩
  exact absurd (hfound.symm.trans (hspelt.2 h)) (List.cons_ne_nil _ _)

end SuffixLint.Rule
