import Mathlib.Order.Lattice
import SuffixLint.Proofs.Submission.Order

namespace SuffixLint

/-- Labels, in the order of reading, of which the last is a top level. -/
def HasTopLevel (labels : List Text) : Prop := ∃ top, labels.getLast? = some top ∧ top ≠ []

/-- One domain comes at or before another: it is the other or one above it, or the two part below a
domain that they share and it has the smaller label there. -/
def DomainLE (a b : List Text) : Prop :=
  a <:+ b ∨ ∃ shared x y, x :: shared <:+ a ∧ y :: shared <:+ b ∧ x < y

theorem reverse_le_reverse_iff {a b : List Text} : a.reverse ≤ b.reverse ↔ DomainLE a b := by
  rw [list_le_iff, List.reverse_prefix, DomainLE]
  refine or_congr_right ?_
  have hreverse (shared labels : List Text) (x : Text) :
      shared.reverse ++ [x] <+: labels.reverse ↔ x :: shared <:+ labels := by
    rw [← List.reverse_cons, List.reverse_prefix]
  constructor
  · rintro ⟨shared, x, y, hx, hy, hlt⟩
    rw [← shared.reverse_reverse, hreverse] at hx hy
    exact ⟨shared.reverse, x, y, hx, hy, hlt⟩
  · rintro ⟨shared, x, y, hx, hy, hlt⟩
    exact ⟨shared.reverse, x, y, (hreverse _ _ _).2 hx, (hreverse _ _ _).2 hy, hlt⟩

theorem lacksTopLevel_eq_true_iff {labels : List Text} :
    lacksTopLevel labels = true ↔ labels = [] ∨ labels.getLast? = some [] := by
  rw [lacksTopLevel, ← List.getLast?_eq_none_iff]
  cases labels.getLast? with
  | none => simp
  | some top => simp [List.isEmpty_iff]

theorem lacksTopLevel_eq_false_iff {labels : List Text} :
    lacksTopLevel labels = false ↔ HasTopLevel labels := by
  rw [lacksTopLevel, HasTopLevel]
  cases labels.getLast? with
  | none => simp
  | some top => simp [List.isEmpty_eq_false_iff]

section Order

variable {a b c : List Text}

theorem suffixMayPrecede_iff :
    suffixMayPrecede a b = true ↔
      lacksTopLevel a = true ∨ lacksTopLevel b = true ∨ a.reverse ≤ b.reverse := by
  rw [suffixMayPrecede, Bool.or_eq_true, Bool.or_eq_true, suffixLE_iff, or_assoc]

theorem suffixMayPrecede_iff_reverse_le (ha : HasTopLevel a) (hb : HasTopLevel b) :
    suffixMayPrecede a b = true ↔ a.reverse ≤ b.reverse := by
  rw [← lacksTopLevel_eq_false_iff] at ha hb
  rw [suffixMayPrecede_iff, ha, hb]
  simp

theorem suffixMayPrecede_total (a b : List Text) :
    suffixMayPrecede a b = true ∨ suffixMayPrecede b a = true := by
  rw [suffixMayPrecede_iff, suffixMayPrecede_iff]
  rcases le_total a.reverse b.reverse with h | h
  · exact .inl (.inr (.inr h))
  · exact .inr (.inr (.inr h))

/-- Two lists of labels may stand in either order only where they are the same or one of them lacks
a top level. -/
theorem suffixMayPrecede_and_swap_iff :
    suffixMayPrecede a b = true ∧ suffixMayPrecede b a = true ↔
      a = b ∨ lacksTopLevel a = true ∨ lacksTopLevel b = true := by
  rw [suffixMayPrecede_iff, suffixMayPrecede_iff]
  constructor
  · rintro ⟨ha | hb | hab, h⟩
    · exact .inr (.inl ha)
    · exact .inr (.inr hb)
    · rcases h with hb | ha | hba
      · exact .inr (.inr hb)
      · exact .inr (.inl ha)
      · exact .inl (List.reverse_injective (le_antisymm hab hba))
  · rintro (rfl | ha | hb)
    · exact ⟨.inr (.inr le_rfl), .inr (.inr le_rfl)⟩
    · exact ⟨.inl ha, .inr (.inl ha)⟩
    · exact ⟨.inr (.inl hb), .inl hb⟩

theorem suffixMayPrecede_trans (ha : HasTopLevel a) (hb : HasTopLevel b) (hc : HasTopLevel c)
    (hab : suffixMayPrecede a b = true) (hbc : suffixMayPrecede b c = true) :
    suffixMayPrecede a c = true := by
  rw [suffixMayPrecede_iff_reverse_le ha hb] at hab
  rw [suffixMayPrecede_iff_reverse_le hb hc] at hbc
  exact (suffixMayPrecede_iff_reverse_le ha hc).2 (hab.trans hbc)

theorem suffixMayPrecede_antisymm (ha : HasTopLevel a) (hb : HasTopLevel b)
    (hab : suffixMayPrecede a b = true) (hba : suffixMayPrecede b a = true) : a = b := by
  rw [← lacksTopLevel_eq_false_iff, ← Bool.not_eq_true] at ha hb
  exact (suffixMayPrecede_and_swap_iff.1 ⟨hab, hba⟩).resolve_right (not_or.2 ⟨ha, hb⟩)

theorem HasTopLevel.append (h : HasTopLevel a) (below : List Text) : HasTopLevel (below ++ a) := by
  obtain ⟨top, hlast, htop⟩ := h
  exact ⟨top, by rw [List.getLast?_append, hlast, Option.some_or], htop⟩

theorem suffixMayPrecede_below (h : HasTopLevel a) {below : List Text} (hbelow : below ≠ []) :
    suffixMayPrecede a (below ++ a) = true ∧ suffixMayPrecede (below ++ a) a = false := by
  have hfirst : suffixMayPrecede a (below ++ a) = true := by
    rw [suffixMayPrecede_iff_reverse_le h (h.append below), reverse_le_reverse_iff]
    exact .inl (List.suffix_append below a)
  refine ⟨hfirst, ?_⟩
  rw [← Bool.not_eq_true]
  intro hlast
  have hself : a = below ++ a := suffixMayPrecede_antisymm h (h.append below) hfirst hlast
  exact hbelow (List.self_eq_append_left.1 hself)

end Order

/-- On labels with a top level the order is the lexicographic one from the top level inward, which
puts every domain before those below it. Of any two lists of labels one may stand before the other,
and both only where the lists are the same or one of them has no top level. -/
theorem suffixMayPrecede_lexicographic :
    (∀ a b : List Text, HasTopLevel a → HasTopLevel b →
      (suffixMayPrecede a b = true ↔ a.reverse ≤ b.reverse) ∧
      (suffixMayPrecede a b = true ↔ DomainLE a b) ∧
      suffixMayPrecede a a = true ∧
      (suffixMayPrecede a b = true ∨ suffixMayPrecede b a = true) ∧
      (suffixMayPrecede a b = true → suffixMayPrecede b a = true → a = b) ∧
      (∀ c, HasTopLevel c → suffixMayPrecede a b = true → suffixMayPrecede b c = true →
        suffixMayPrecede a c = true) ∧
      ∀ below, below ≠ [] →
        suffixMayPrecede a (below ++ a) = true ∧ suffixMayPrecede (below ++ a) a = false) ∧
    ∀ a b : List Text,
      (suffixMayPrecede a b = true ∨ suffixMayPrecede b a = true) ∧
      (suffixMayPrecede a b = true ∧ suffixMayPrecede b a = true ↔
        a = b ∨ (a = [] ∨ a.getLast? = some []) ∨ b = [] ∨ b.getLast? = some []) := by
  constructor
  · intro a b ha hb
    have hle := suffixMayPrecede_iff_reverse_le ha hb
    refine ⟨hle, hle.trans reverse_le_reverse_iff, ?refl, suffixMayPrecede_total a b,
      suffixMayPrecede_antisymm ha hb, ?trans, ?below⟩
    case refl => exact (suffixMayPrecede_iff_reverse_le ha ha).2 le_rfl
    case trans =>
      intro c hc hab hbc
      exact suffixMayPrecede_trans ha hb hc hab hbc
    case below =>
      intro below hbelow
      exact suffixMayPrecede_below ha hbelow
  · intro a b
    refine ⟨suffixMayPrecede_total a b, ?_⟩
    rw [suffixMayPrecede_and_swap_iff, lacksTopLevel_eq_true_iff, lacksTopLevel_eq_true_iff]

/-- The order is by labels and not by letters: `a-b.com` comes after all of `a.com`, though a hyphen
comes before a point. -/
theorem suffixMayPrecede_lexicographic_hyphen :
    let parent := ["a".toList, "com".toList]
    let below := ["z".toList]
    let beside := ["a-b".toList, "com".toList]
    HasTopLevel parent ∧ HasTopLevel beside ∧ HasTopLevel (below ++ parent) ∧ below ≠ [] ∧
      suffixMayPrecede parent (below ++ parent) = true ∧
      suffixMayPrecede (below ++ parent) parent = false ∧
      suffixMayPrecede (below ++ parent) beside = true := by
  intro parent below beside
  have hparent : HasTopLevel parent := ⟨"com".toList, by decide, by decide⟩
  have hbeside : HasTopLevel beside := ⟨"com".toList, by decide, by decide⟩
  have hbelow : HasTopLevel (below ++ parent) := ⟨"com".toList, by decide, by decide⟩
  have hne : below ≠ [] := by decide
  obtain ⟨_, _, _, _, _, _, hstrict⟩ :=
    suffixMayPrecede_lexicographic.1 parent beside hparent hbeside
  obtain ⟨hfirst, hlast⟩ := hstrict below hne
  have hpart : DomainLE (below ++ parent) beside :=
    .inr ⟨["com".toList], "a".toList, "a-b".toList, ⟨["z".toList], by decide⟩, ⟨[], by decide⟩,
      by decide⟩
  exact ⟨hparent, hbeside, hbelow, hne, hfirst, hlast,
    (suffixMayPrecede_lexicographic.1 (below ++ parent) beside hbelow hbeside).2.1.2 hpart⟩

/-- A list without a top level breaks transitivity. -/
example :
    suffixMayPrecede ["b".toList] [[]] = true ∧ suffixMayPrecede [[]] ["a".toList] = true ∧
      suffixMayPrecede ["b".toList] ["a".toList] = false := by
  decide

end SuffixLint
