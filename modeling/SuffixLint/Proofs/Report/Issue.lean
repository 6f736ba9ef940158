import Mathlib.Data.List.TakeWhile
import SuffixLint.Proofs.Finding.Message
import SuffixLint.Report.Human

namespace SuffixLint

namespace Text

/-- Whether a text is at its end or goes on with the given character. -/
def IsCutBy (c : Char) (text : Text) : Prop := ∀ d ∈ text.head?, d = c

theorem isCutBy_nil (c : Char) : IsCutBy c [] := by
  intro d h
  cases h

theorem isCutBy_cons (c : Char) (rest : Text) : IsCutBy c (c :: rest) := by
  intro d h
  exact (Option.some.inj h).symm

theorem takeWhile_append_of_isCutBy {c : Char} {part rest : Text} (hpart : c ∉ part)
    (hrest : IsCutBy c rest) : (part ++ rest).takeWhile (· ≠ c) = part := by
  have hall : ∀ d ∈ part, decide (d ≠ c) = true := by
    intro d hd
    exact decide_eq_true fun h => hpart (h ▸ hd)
  have hnone : rest.takeWhile (· ≠ c) = [] := by
    cases rest with
    | nil => rfl
    | cons d rest =>
      obtain rfl := hrest d rfl
      exact List.takeWhile_cons_of_neg (by simp)
  rw [List.takeWhile_append_of_pos hall, hnone, List.append_nil]

theorem append_inj_of_isCutBy {c : Char} {a b x y : Text} (ha : c ∉ a) (hb : c ∉ b)
    (hx : IsCutBy c x) (hy : IsCutBy c y) (h : a ++ x = b ++ y) : a = b ∧ x = y := by
  have hab : a = b := by
    rw [← takeWhile_append_of_isCutBy ha hx, h, takeWhile_append_of_isCutBy hb hy]
  subst hab
  exact ⟨rfl, List.append_cancel_left h⟩

end Text

theorem isCutBy_partSeparator_append (rest : Text) : Text.IsCutBy ':' (partSeparator ++ rest) :=
  Text.isCutBy_cons ':' (' ' :: rest)

namespace Severity

theorem colon_not_mem_word (severity : Severity) : ':' ∉ severity.word := by
  cases severity <;> decide

end Severity

namespace Issue

def quoted : Option Text → Text
  | none => []
  | some echo => partSeparator ++ ("'".toList ++ (echo ++ "'".toList))

theorem isCutBy_quoted (echo : Option Text) : Text.IsCutBy ':' (quoted echo) := by
  cases echo with
  | none => exact Text.isCutBy_nil ':'
  | some echo => exact isCutBy_partSeparator_append _

theorem quoted_injective : Function.Injective quoted := by
  intro a b h
  cases a with
  | none =>
    cases b with
    | none => rfl
    | some b => exact absurd h (List.cons_ne_nil _ _).symm
  | some a =>
    cases b with
    | none => exact absurd h (List.cons_ne_nil _ _)
    | some b =>
      have hquotes := List.append_cancel_left (List.append_cancel_left h)
      rw [List.append_cancel_right hquotes]

theorem render_plain (issue : Issue) :
    issue.render false = Text.ofNat issue.line ++ (partSeparator ++ (issue.severity.word ++
      (partSeparator ++ (issue.message ++ quoted issue.echo)))) := by
  obtain ⟨line, finding, echo, details⟩ := issue
  cases echo <;> simp only [render, quoted, Severity.render, List.append_assoc] <;> rfl

/-- The plain line about an issue shows its place, its finding and its echo, and no two of these
read alike, whatever the echo holds. -/
theorem render_plain_eq_iff (a b : Issue) :
    a.render false = b.render false ↔
      a.line = b.line ∧ a.finding = b.finding ∧ a.echo = b.echo := by
  constructor
  · intro h
    rw [render_plain, render_plain] at h
    have hdigits (n : Nat) : ':' ∉ Text.ofNat n := Text.not_mem_ofNat (by decide) n
    obtain ⟨hline, h⟩ := Text.append_inj_of_isCutBy (hdigits _) (hdigits _)
      (isCutBy_partSeparator_append _) (isCutBy_partSeparator_append _) h
    obtain ⟨-, h⟩ := Text.append_inj_of_isCutBy (Severity.colon_not_mem_word _)
      (Severity.colon_not_mem_word _) (isCutBy_partSeparator_append _)
      (isCutBy_partSeparator_append _) (List.append_cancel_left h)
    obtain ⟨hmessage, hecho⟩ := Text.append_inj_of_isCutBy (Finding.colon_not_mem_message _)
      (Finding.colon_not_mem_message _) (isCutBy_quoted _) (isCutBy_quoted _)
      (List.append_cancel_left h)
    exact ⟨Text.ofNat_injective hline, Finding.message_injective hmessage,
      quoted_injective hecho⟩
  · rintro ⟨hline, hfinding, hecho⟩
    rw [render_plain, render_plain, severity, severity, message, message, hline, hfinding, hecho]

end Issue
end SuffixLint
