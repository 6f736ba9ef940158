import Mathlib.Data.List.Chain
import SuffixLint.Group
import SuffixLint.Proofs.Lexicographic
import SuffixLint.Proofs.Rule.Grammar

namespace SuffixLint

namespace Rule

def rank (text : Text) : Nat := RuleKind.rankOf ((labels text).head?.bind (·.head?))

/-- Whether a rule belongs before another in a group: fewer labels come first, then the lower rank
of the leftmost label, and then the labels decide, from the top level inward. -/
def BelongsBefore (a b : Text) : Prop :=
  (labels a).length < (labels b).length ∨
    (labels a).length = (labels b).length ∧
      (rank a < rank b ∨ rank a = rank b ∧ (labels a).reverse < (labels b).reverse)

def topLevel (text : Text) : Option Text := (labels text).getLast?

theorem belongsBefore_of_asksFor {exception wildcard : Text} (h : AsksFor exception wildcard) :
    BelongsBefore wildcard exception := by
  obtain ⟨x, above, hx, rfl, rfl⟩ := h
  have hstar : '.' ∉ ['*'] := by decide
  have hmark : '.' ∉ '!' :: x := List.not_mem_cons_of_ne_of_not_mem (by decide) hx
  have hwildcard : labels ('*' :: '.' :: above) = ['*'] :: labels above := labels_append_dot hstar
  have hexception : labels ('!' :: (x ++ '.' :: above)) = ('!' :: x) :: labels above :=
    labels_append_dot hmark
  refine .inr ⟨?_, .inl ?_⟩
  · rw [hwildcard, hexception, List.length_cons, List.length_cons]
  · rw [rank, rank, hwildcard, hexception]
    exact RuleKind.rankOf_lt_iff.2 (.inl ⟨rfl, by simp⟩)

def sorted (texts : List Text) : List Text :=
  (Entry.sort (texts.map Entry.ofRule)).map Entry.domain

end Rule

theorem isChain_iff_forall_infix {α : Type} {R : α → α → Prop} {items : List α} :
    items.IsChain R ↔ ∀ a b, [a, b] <:+: items → R a b := by
  rw [List.isChain_iff_forall_rel_of_append_cons_cons]
  constructor
  · rintro h a b ⟨front, back, he⟩
    rw [List.append_assoc] at he
    exact h he.symm
  · intro h a b front back he
    refine h a b ⟨front, back, ?_⟩
    rw [he, List.append_assoc]
    rfl

namespace Entry

theorem length_ofRule (text : Text) : (ofRule text).length = (Rule.labels text).length :=
  List.length_reverse

theorem rank_ofRule (text : Text) : (ofRule text).rank = Rule.rank text := by
  rw [rank, ofRule, List.getLast?_reverse, Rule.rank]

theorem head?_ofRule (text : Text) : (ofRule text).head? = Rule.topLevel text :=
  List.head?_reverse

theorem order_eq_lt_iff {a b : Entry} :
    order a b = .lt ↔
      a.length < b.length ∨ a.length = b.length ∧ (a.rank < b.rank ∨ a.rank = b.rank ∧ a < b) := by
  rw [order, Ordering.then_eq_lt, Ordering.then_eq_lt, Nat.compare_eq_lt, Nat.compare_eq_eq,
    Nat.compare_eq_lt, Nat.compare_eq_eq, compare_list_eq_lt_iff Text.compare_eq_lt_iff]

theorem order_ofRule_eq_lt_iff (a b : Text) :
    order (ofRule a) (ofRule b) = .lt ↔ Rule.BelongsBefore a b := by
  rw [order_eq_lt_iff, length_ofRule, length_ofRule, rank_ofRule, rank_ofRule]
  rfl

theorem le_ofRule_iff (a b : Text) :
    le (ofRule a) (ofRule b) = true ↔ ¬ Rule.BelongsBefore b a := by
  rw [← order_ofRule_eq_lt_iff, le, Ordering.isLE_iff_ne_gt, ← Std.OrientedCmp.gt_iff_lt]

instance : IsTrans Entry (le · ·) := ⟨le_trans⟩

theorem sort_eq_self_iff {entries : List Entry} :
    sort entries = entries ↔ entries.Pairwise (le · ·) := by
  constructor
  · intro h
    rw [← h]
    exact pairwise_sort entries
  · exact sort_of_pairwise

theorem sort_map_ofRule_eq_self_iff (texts : List Text) :
    sort (texts.map ofRule) = texts.map ofRule ↔
      ∀ a b, [a, b] <:+: texts → ¬ Rule.BelongsBefore b a := by
  rw [sort_eq_self_iff, ← List.isChain_iff_pairwise, List.isChain_map, isChain_iff_forall_infix]
  simp only [le_ofRule_iff]

theorem exists_of_mem_sort {texts : List Text} {entry : Entry}
    (h : entry ∈ sort (texts.map ofRule)) : ∃ text ∈ texts, ofRule text = entry :=
  List.mem_map.1 ((sort_perm _).mem_iff.1 h)

theorem map_ofRule_sorted (texts : List Text) :
    (Rule.sorted texts).map ofRule = sort (texts.map ofRule) := by
  rw [Rule.sorted, List.map_map]
  refine (List.map_congr_left ?_).trans (List.map_id _)
  intro entry h
  obtain ⟨text, _, rfl⟩ := exists_of_mem_sort h
  rw [Function.comp_apply, domain_ofRule, id_eq]

end Entry

namespace Rule

theorem sorted_perm (texts : List Text) : (sorted texts).Perm texts := by
  have h := (Entry.sort_perm (texts.map Entry.ofRule)).map Entry.domain
  rw [List.map_map] at h
  refine h.trans (.of_eq ?_)
  refine (List.map_congr_left ?_).trans (List.map_id _)
  intro text _
  exact Entry.domain_ofRule text

theorem pairwise_sorted (texts : List Text) :
    (sorted texts).Pairwise fun a b => ¬ BelongsBefore b a := by
  have h := Entry.pairwise_sort (texts.map Entry.ofRule)
  rw [← Entry.map_ofRule_sorted, List.pairwise_map] at h
  exact h.imp (Entry.le_ofRule_iff _ _).1

/-- No exception comes before the wildcard it asks for. -/
theorem pairwise_not_asksFor_sorted (texts : List Text) :
    (sorted texts).Pairwise fun a b => ¬ AsksFor a b :=
  (pairwise_sorted texts).imp fun h hasks => h (belongsBefore_of_asksFor hasks)

end Rule

namespace Group

theorem sameTopLevel_map_ofRule_iff (texts : List Text) :
    sameTopLevel (texts.map Entry.ofRule) = true ↔
      ∀ a ∈ texts, ∀ b ∈ texts, Rule.topLevel a = Rule.topLevel b := by
  cases texts with
  | nil => exact iff_of_true rfl (fun _ h => nomatch h)
  | cons first rest =>
    rw [List.map_cons, sameTopLevel, List.all_eq_true, List.forall_mem_map]
    simp only [beq_iff_eq, Entry.head?_ofRule]
    constructor
    · intro h
      have hfirst : ∀ a ∈ first :: rest, Rule.topLevel a = Rule.topLevel first := by
        intro a ha
        rcases List.mem_cons.1 ha with rfl | ha
        · rfl
        · exact h a ha
      intro a ha b hb
      exact (hfirst a ha).trans (hfirst b hb).symm
    · intro h a ha
      exact h a (List.mem_cons_of_mem _ ha) first List.mem_cons_self

theorem indented_ne_suggestionHeading (text : Text) :
    "  ".toList ++ text ≠ suggestionHeading := by
  intro he
  exact absurd (List.cons.inj he).1 (by decide)

end Group

/-- The rules that an issue suggests, in the order it suggests. -/
def Issue.suggested (issue : Issue) : List Text :=
  (issue.details.dropWhile (· ≠ Group.suggestionHeading)).tail

theorem Issue.suggested_of_details {issue : Issue} {texts : List Text}
    (h : issue.details = Group.suggestion (texts.map Entry.ofRule)) :
    issue.suggested = Rule.sorted texts := by
  rw [suggested, h, Group.suggestion]
  simp only [List.cons_append, List.nil_append, List.dropWhile_cons, ne_eq,
    Group.indented_ne_suggestionHeading, not_false_eq_true, not_true, decide_true, decide_false,
    if_true, Bool.false_eq_true, if_false, List.tail_cons]
  rfl

end SuffixLint
