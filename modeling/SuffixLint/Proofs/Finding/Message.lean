import Mathlib.Data.List.Nodup
import SuffixLint.Finding

namespace SuffixLint

namespace Text

theorem isDigit_of_mem_ofNat {n : Nat} {c : Char} (h : c ∈ ofNat n) : c.isDigit = true :=
  Nat.isDigit_of_mem_toDigits (by decide) (by decide) h

theorem not_mem_ofNat {c : Char} (h : c.isDigit = false) (n : Nat) : c ∉ ofNat n := by
  intro hm
  rw [isDigit_of_mem_ofNat hm] at h
  cases h

theorem filter_not_isDigit_ofNat (n : Nat) : (ofNat n).filter (!·.isDigit) = [] := by
  rw [List.filter_eq_nil_iff]
  intro c hm
  rw [isDigit_of_mem_ofNat hm]
  exact Bool.false_ne_true

theorem ofNat_injective : Function.Injective ofNat := by
  intro n m h
  calc
    n = Nat.ofDigitChars 10 (ofNat n) 0 := Nat.ofDigitChars_ten_toDigits.symm
    _ = Nat.ofDigitChars 10 (ofNat m) 0 := by rw [h]
    _ = m := Nat.ofDigitChars_ten_toDigits

end Text

namespace Finding

def withNumber : Finding → Nat → Finding
  | repeatedSection region _, n => repeatedSection region n
  | doublette _, n => doublette n
  | finding, _ => finding

def number : Finding → Nat
  | repeatedSection _ n => n
  | doublette n => n
  | _ => 0

def unnumbered (finding : Finding) : Finding := finding.withNumber 0

theorem withNumber_number (finding : Finding) : finding.withNumber finding.number = finding := by
  cases finding <;> rfl

theorem withNumber_unnumbered (finding : Finding) (n : Nat) :
    finding.unnumbered.withNumber n = finding.withNumber n := by
  cases finding <;> rfl

/-- A finding has no number, or its message is the same for all numbers up to the number itself. -/
theorem withNumber_const_or_message (finding : Finding) :
    (∀ n, finding.withNumber n = finding) ∨
      ∃ front rest : Text, ∀ n, (finding.withNumber n).message = front ++ Text.ofNat n ++ rest := by
  cases finding with
  | repeatedSection region _ =>
    exact .inr ⟨[], _, fun n => (List.append_assoc _ _ _).trans (List.append_assoc _ _ _)⟩
  | doublette _ => exact .inr ⟨_, _, fun n => rfl⟩
  | _ => exact .inl fun n => rfl

def regions : List Region := .outside :: Section.all.map .inside

theorem mem_regions (region : Region) : region ∈ regions := by
  cases region with
  | outside => exact List.mem_cons_self
  | inside s => exact List.mem_cons_of_mem _ (List.mem_map_of_mem (Section.mem_all s))

def regional : List Finding :=
  regions.flatMap fun region =>
    [sectionNotClosed region, missingSection region, repeatedSection region 0]

def unnumberedAll : List Finding :=
  [outerSpace, unknownSection, endWithoutBegin, unexpectedBegin, unexpectedEnd, ruleOutsideSection,
    invalidEncoding, notNfkc, notLowercase, wildcardAndException, exceptionWithoutWildcard,
    emptyLabel, punycode, doubleMinus, illegalCharacter, doublette 0, inconsistentTopLevel,
    unsortedGroup] ++ regional

theorem unnumbered_mem_unnumberedAll (finding : Finding) :
    finding.unnumbered ∈ unnumberedAll := by
  have hregional {region : Region} {f : Finding}
      (h : f ∈ [sectionNotClosed region, missingSection region, repeatedSection region 0]) :
      f ∈ unnumberedAll :=
    List.mem_append_right _ (List.mem_flatMap.2 ⟨region, mem_regions region, h⟩)
  cases finding with
  | sectionNotClosed region => exact hregional (.head _)
  | missingSection region => exact hregional (.tail _ (.head _))
  | repeatedSection region n => exact hregional (.tail _ (.tail _ (.head _)))
  | doublette n =>
    change doublette 0 ∈ unnumberedAll
    decide
  | _ => decide

/-- What a message says apart from its digits. -/
def wording (finding : Finding) : Text := finding.message.filter (!·.isDigit)

theorem wording_unnumbered (finding : Finding) : finding.unnumbered.wording = finding.wording := by
  obtain hconst | ⟨front, rest, hmessage⟩ := finding.withNumber_const_or_message
  · rw [unnumbered, hconst]
  · have hwording (n : Nat) :
        (finding.withNumber n).wording = (front ++ rest).filter (!·.isDigit) := by
      rw [wording, hmessage, List.filter_append, List.filter_append,
        Text.filter_not_isDigit_ofNat, List.append_nil, List.filter_append]
    calc
      finding.unnumbered.wording = (front ++ rest).filter (!·.isDigit) := hwording 0
      _ = (finding.withNumber finding.number).wording := (hwording _).symm
      _ = finding.wording := by rw [withNumber_number]

/-- No two wordings are the same, and none holds a colon or a line feed. -/
theorem wordings_apart : (unnumberedAll.map wording).Nodup ∧
    ∀ text ∈ unnumberedAll.map wording, ':' ∉ text ∧ Text.newline ∉ text := by
  decide +kernel

theorem wording_mem (finding : Finding) : finding.wording ∈ unnumberedAll.map wording := by
  rw [← wording_unnumbered]
  exact List.mem_map_of_mem (unnumbered_mem_unnumberedAll finding)

theorem mem_wording {c : Char} (hdigit : c.isDigit = false) {finding : Finding}
    (h : c ∈ finding.message) : c ∈ finding.wording := by
  refine List.mem_filter.2 ⟨h, ?_⟩
  rw [hdigit]
  rfl

theorem colon_not_mem_message (finding : Finding) : ':' ∉ finding.message := by
  intro h
  exact (wordings_apart.2 _ finding.wording_mem).1 (mem_wording (by decide) h)

theorem newline_not_mem_message (finding : Finding) : Text.newline ∉ finding.message := by
  intro h
  exact (wordings_apart.2 _ finding.wording_mem).2 (mem_wording (by decide) h)

theorem unnumbered_eq_of_message_eq {a b : Finding} (h : a.message = b.message) :
    a.unnumbered = b.unnumbered := by
  have hwording : a.unnumbered.wording = b.unnumbered.wording := by
    rw [wording_unnumbered, wording_unnumbered, wording, wording, h]
  exact List.inj_on_of_nodup_map wordings_apart.1 a.unnumbered_mem_unnumberedAll
    b.unnumbered_mem_unnumberedAll hwording

theorem withNumber_eq_of_message_eq (finding : Finding) {n m : Nat}
    (h : (finding.withNumber n).message = (finding.withNumber m).message) :
    finding.withNumber n = finding.withNumber m := by
  obtain hconst | ⟨front, rest, hmessage⟩ := finding.withNumber_const_or_message
  · rw [hconst, hconst]
  · rw [hmessage, hmessage] at h
    have hnumbers : Text.ofNat n = Text.ofNat m :=
      List.append_cancel_left (List.append_cancel_right h)
    rw [Text.ofNat_injective hnumbers]

theorem message_injective : Function.Injective message := by
  intro a b h
  have hb : a.withNumber b.number = b := by
    rw [← withNumber_unnumbered, unnumbered_eq_of_message_eq h, withNumber_unnumbered,
      withNumber_number]
  have hnumbers : (a.withNumber a.number).message = (a.withNumber b.number).message := by
    rw [hb, withNumber_number]
    exact h
  calc
    a = a.withNumber a.number := a.withNumber_number.symm
    _ = a.withNumber b.number := withNumber_eq_of_message_eq a hnumbers
    _ = b := hb

end Finding
end SuffixLint
