import Mathlib.Data.List.Lex
import Mathlib.Order.Lattice
import SuffixLint.Text.Basic

namespace SuffixLint

/-- Where a comparison of members agrees with a relation, that of lists agrees with the relation
taken lexicographically. -/
theorem compareLex_eq_lt_iff {α : Type} {cmp : α → α → Ordering} [Std.LawfulEqCmp cmp]
    {r : α → α → Prop} (h : ∀ x y, cmp x y = .lt ↔ r x y) (a b : List α) :
    List.compareLex cmp a b = .lt ↔ List.Lex r a b := by
  induction a generalizing b with
  | nil =>
    cases b with
    | nil => exact iff_of_false (fun hlt => nomatch hlt) List.not_lex_nil
    | cons y b => exact iff_of_true rfl .nil
  | cons x a ih =>
    cases b with
    | nil => exact iff_of_false (fun hlt => nomatch hlt) List.not_lex_nil
    | cons y b =>
      rw [List.compareLex_cons_cons, Ordering.then_eq_lt, h, ih, List.cons_lex_cons_iff,
        Std.LawfulEqCmp.compare_eq_iff_eq]

theorem compare_list_eq_lt_iff {α : Type} [Ord α] [LT α] [Std.LawfulEqOrd α]
    (h : ∀ x y : α, compare x y = .lt ↔ x < y) (a b : List α) : compare a b = .lt ↔ a < b :=
  compareLex_eq_lt_iff h a b

theorem Text.compare_eq_lt_iff (a b : Text) : compare a b = .lt ↔ a < b :=
  compare_list_eq_lt_iff (fun _ _ => compareOfLessAndEq_eq_lt) a b

theorem list_cons_le_cons_iff {α : Type} [LinearOrder α] {x y : α} {a b : List α} :
    x :: a ≤ y :: b ↔ x < y ∨ x = y ∧ a ≤ b := by
  rw [le_iff_lt_or_eq, le_iff_lt_or_eq, List.cons_lt_cons_iff, List.cons.injEq, and_or_left,
    or_assoc]

/-- A list is no greater than another exactly when the other starts with it, or when it has the
smaller member at the first place where the two differ. -/
theorem list_le_iff {α : Type} [LinearOrder α] {a b : List α} :
    a ≤ b ↔ a <+: b ∨ ∃ shared x y, shared ++ [x] <+: a ∧ shared ++ [y] <+: b ∧ x < y := by
  induction a generalizing b with
  | nil => exact iff_of_true (not_lt.1 (List.not_lt_nil b)) (.inl List.nil_prefix)
  | cons head a ih =>
    cases b with
    | nil =>
      refine iff_of_false (List.nil_lt_cons _ _).not_ge ?_
      rintro (h | ⟨shared, x, y, _, h, _⟩)
      · exact absurd (List.prefix_nil.1 h) (List.cons_ne_nil _ _)
      · exact absurd (List.prefix_nil.1 h) (List.concat_ne_nil _ _)
    | cons other b =>
      rw [list_cons_le_cons_iff, ih]
      constructor
      · rintro (hlt | ⟨rfl, h | ⟨shared, x, y, hx, hy, hlt⟩⟩)
        · exact .inr ⟨[], head, other, ⟨a, rfl⟩, ⟨b, rfl⟩, hlt⟩
        · exact .inl ((List.prefix_cons_inj _).2 h)
        · exact .inr ⟨head :: shared, x, y, (List.prefix_cons_inj _).2 hx,
            (List.prefix_cons_inj _).2 hy, hlt⟩
      · rintro (h | ⟨shared, x, y, hx, hy, hlt⟩)
        · obtain ⟨rfl, hrest⟩ := List.cons_prefix_cons.1 h
          exact .inr ⟨rfl, .inl hrest⟩
        · cases shared with
          | nil =>
            obtain ⟨rfl, _⟩ := List.cons_prefix_cons.1 hx
            obtain ⟨rfl, _⟩ := List.cons_prefix_cons.1 hy
            exact .inl hlt
          | cons first shared =>
            obtain ⟨rfl, hxrest⟩ := List.cons_prefix_cons.1 hx
            obtain ⟨rfl, hyrest⟩ := List.cons_prefix_cons.1 hy
            exact .inr ⟨rfl, .inr ⟨shared, x, y, hxrest, hyrest, hlt⟩⟩

end SuffixLint
