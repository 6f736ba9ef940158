import Mathlib.Data.Char
import Mathlib.Data.List.Lex
import Mathlib.Data.Prod.Lex
import SuffixLint.Proofs.Group.Order

namespace SuffixLint

namespace Entry

/-- What an entry is sorted by: how many labels it has, the rank of the leftmost one, and then the
labels themselves from the top level inward. -/
def key (entry : Entry) : Nat ×ₗ Nat ×ₗ List Text :=
  toLex (entry.length, toLex (entry.rank, entry))

theorem key_injective : Function.Injective key := by
  intro a b h
  exact congrArg (fun k => (ofLex (ofLex k).2).2) h

theorem key_lt_iff {a b : Entry} :
    a.key < b.key ↔
      a.length < b.length ∨ a.length = b.length ∧ (a.rank < b.rank ∨ a.rank = b.rank ∧ a < b) := by
  rw [key, key, Prod.Lex.toLex_lt_toLex, Prod.Lex.toLex_lt_toLex]

theorem le_iff_key_le {a b : Entry} : le a b = true ↔ a.key ≤ b.key := by
  rw [le, Ordering.isLE_iff_ne_gt, Std.OrientedCmp.gt_iff_lt, order_eq_lt_iff, ← key_lt_iff, not_lt]

theorem pairwise_le_iff {entries : List Entry} :
    entries.Pairwise (le · ·) ↔ entries.Pairwise (·.key ≤ ·.key) := by
  simp only [le_iff_key_le]

theorem pairwise_key_sort (entries : List Entry) : (sort entries).Pairwise (·.key ≤ ·.key) :=
  pairwise_le_iff.1 (pairwise_sort entries)

/-- Two arrangements of the same entries are one and the same if neither has keys that descend:
entries with the same key are the same. -/
theorem eq_of_perm_of_pairwise {a b : List Entry} (hperm : a.Perm b)
    (ha : a.Pairwise (·.key ≤ ·.key)) (hb : b.Pairwise (·.key ≤ ·.key)) : a = b := by
  apply List.Perm.eq_of_pairwise _ ha hb hperm
  intro x y _ _ hxy hyx
  exact key_injective (le_antisymm hxy hyx)

theorem eq_sort_iff {entries other : List Entry} :
    other = sort entries ↔ other.Perm entries ∧ other.Pairwise (·.key ≤ ·.key) := by
  constructor
  · rintro rfl
    exact ⟨sort_perm entries, pairwise_key_sort entries⟩
  · rintro ⟨hperm, hsorted⟩
    have hsame : other.Perm (sort entries) := hperm.trans (sort_perm entries).symm
    exact eq_of_perm_of_pairwise hsame hsorted (pairwise_key_sort entries)

theorem sort_eq_sort_iff {entries other : List Entry} :
    sort other = sort entries ↔ other.Perm entries := by
  constructor
  · intro h
    calc
      other.Perm (sort other) := (sort_perm other).symm
      (sort other).Perm (sort entries) := .of_eq h
      (sort entries).Perm entries := sort_perm entries
  · intro hperm
    rw [eq_sort_iff]
    exact ⟨(sort_perm other).trans hperm, pairwise_key_sort other⟩

theorem sort_ne_self_iff {entries : List Entry} :
    sort entries ≠ entries ↔ ∃ a b, [a, b] <:+: entries ∧ b.key < a.key := by
  rw [ne_eq, sort_eq_self_iff, ← List.isChain_iff_pairwise, isChain_iff_forall_infix]
  simp only [le_iff_key_le, not_forall, not_le, exists_prop]

/-- The first character of the leftmost label. -/
def sign? (entry : Entry) : Option Char := entry.getLast?.bind (·.head?)

theorem rank_lt_iff {a b : Entry} :
    a.rank < b.rank ↔
      a.sign? = some '*' ∧ b.sign? ≠ some '*' ∨
        a.sign? = some '!' ∧ b.sign? ≠ some '*' ∧ b.sign? ≠ some '!' :=
  RuleKind.rankOf_lt_iff

/-- Among entries with as many labels, wildcards come first and exceptions before all others. -/
theorem pairwise_sign_sort (entries : List Entry) :
    (sort entries).Pairwise fun a b => a.length = b.length →
      (b.sign? = some '*' → a.sign? = some '*') ∧
      (b.sign? = some '!' → a.sign? = some '*' ∨ a.sign? = some '!') := by
  refine (pairwise_key_sort entries).imp ?_
  intro a b hkey hlength
  have hrank : ¬ b.rank < a.rank := by
    intro h
    exact not_lt.2 hkey (key_lt_iff.2 (.inr ⟨hlength.symm, .inl h⟩))
  rw [rank_lt_iff, not_or] at hrank
  obtain ⟨hwildcard, hexception⟩ := hrank
  constructor
  · intro hb
    by_contra ha
    exact hwildcard ⟨hb, ha⟩
  · intro hb
    by_contra ha
    exact hexception ⟨hb, not_or.1 ha⟩

/-- Sorting gives the entries in the one arrangement in which their keys do not descend. It gives
the same whenever the entries are the same, changes nothing the second time, and changes anything at
all only where two neighbours descend. Among entries with as many labels, wildcards come first and
exceptions before all others. -/
theorem sort_unique_arrangement (entries : List Entry) :
    ((sort entries).Perm entries ∧ (sort entries).Pairwise (·.key ≤ ·.key)) ∧
      (∀ other, other = sort entries ↔ other.Perm entries ∧ other.Pairwise (·.key ≤ ·.key)) ∧
      (∀ other, sort other = sort entries ↔ other.Perm entries) ∧
      sort (sort entries) = sort entries ∧
      (sort entries ≠ entries ↔ ∃ a b, [a, b] <:+: entries ∧ b.key < a.key) ∧
      (sort entries).Pairwise fun a b => a.length = b.length →
        (b.sign? = some '*' → a.sign? = some '*') ∧
        (b.sign? = some '!' → a.sign? = some '*' ∨ a.sign? = some '!') := by
  refine ⟨⟨sort_perm entries, pairwise_key_sort entries⟩, ?unique, ?same, ?again, ?changes,
    pairwise_sign_sort entries⟩
  case unique =>
    intro other
    exact eq_sort_iff
  case same =>
    intro other
    exact sort_eq_sort_iff
  case again => exact sort_of_pairwise (pairwise_sort entries)
  case changes => exact sort_ne_self_iff

/-- The rule with fewer labels comes first, and the wildcard comes before the exception although
its sign is the later character. -/
example :
    let plain := ofRule "example.com".toList
    let wildcard := ofRule "*.example.com".toList
    let exception := ofRule "!a.example.com".toList
    [plain, wildcard, exception] = sort [exception, wildcard, plain] := by
  intro plain wildcard exception
  refine eq_sort_iff.2 ⟨?_, ?_⟩
  · decide
  · decide

end Entry
end SuffixLint
