import Mathlib.Data.Char
import Mathlib.Data.List.Lex
import SuffixLint.Proofs.Group.Order
import SuffixLint.Submission

namespace SuffixLint

theorem suffixLE_iff_not_lt {a b : Entry} : suffixLE a b = true ↔ ¬ b < a := by
  induction a generalizing b with
  | nil => exact iff_of_true rfl (List.not_lt_nil b)
  | cons x a ih =>
    cases b with
    | nil => exact iff_of_false Bool.false_ne_true (fun h => h (List.nil_lt_cons _ _))
    | cons y b =>
      rw [List.cons_lt_cons_iff, ← Text.compare_eq_lt_iff, ← Std.OrientedCmp.gt_iff_lt, suffixLE]
      cases h : compare x y with
      | lt =>
        refine iff_of_true rfl ?_
        rintro (hgt | ⟨rfl, _⟩)
        · cases hgt
        · have hself : compare y y = .eq := Std.LawfulEqCmp.compare_eq_iff_eq.2 rfl
          cases h.symm.trans hself
      | eq =>
        obtain rfl : x = y := Std.LawfulEqCmp.compare_eq_iff_eq.1 h
        simp [ih]
      | gt => exact iff_of_false Bool.false_ne_true (fun h => h (.inl rfl))

theorem suffixLE_iff {a b : Entry} : suffixLE a b = true ↔ a ≤ b :=
  suffixLE_iff_not_lt.trans not_lt

namespace Rule

def mayPrecede (a b : Text) : Bool := suffixMayPrecede (labels a) (labels b)

theorem lacksTopLevel_labels_iff {text : Text} :
    lacksTopLevel (labels text) = true ↔ text = [] ∨ text.getLast? = some '.' := by
  by_cases hdot : '.' ∈ text
  · obtain ⟨last, rest, he, hlast⟩ := List.eq_append_cons_of_mem (List.mem_reverse.2 hdot)
    have htext : text = rest.reverse ++ '.' :: last.reverse := by
      rw [← List.reverse_reverse text, he, List.reverse_append, List.reverse_cons,
        List.append_assoc, List.singleton_append]
    have hlabels : (labels text).getLast? = some last.reverse := by
      have hfree : '.' ∉ last.reverse := mt List.mem_reverse.1 hlast
      rw [labels, htext, List.splitOn_append_cons_self, List.splitOn_eq_singleton hfree,
        List.getLast?_concat]
    rw [lacksTopLevel, hlabels, htext]
    cases last with
    | nil => simp
    | cons c last =>
      have hc : c ≠ '.' := fun h => hlast (h ▸ List.mem_cons_self)
      have hend : ('.' :: (last.reverse ++ [c])).getLast? = some c := by
        rw [← List.cons_append, List.getLast?_concat]
      simp [List.getLast?_append, hend, hc]
  · have hlabels : labels text = [text] := List.splitOn_eq_singleton hdot
    have hlast : text.getLast? ≠ some '.' := fun h => hdot (List.mem_of_getLast? h)
    rw [lacksTopLevel, hlabels, or_iff_left hlast]
    exact List.isEmpty_iff

/-- Where both rules have a top level, one may precede the other exactly when its labels, read from
the top level inward, do not come after. -/
theorem mayPrecede_iff {a b : Text} (ha : lacksTopLevel (labels a) = false)
    (hb : lacksTopLevel (labels b) = false) :
    mayPrecede a b = true ↔ (labels a).reverse ≤ (labels b).reverse := by
  rw [mayPrecede, suffixMayPrecede, ha, hb, Bool.false_or, Bool.false_or, suffixLE_iff]

end Rule

namespace Submission

def titleMayPrecede (a b : Text) : Bool := decide (a.lowercase ≤ b.lowercase)

theorem compare_title_eq_gt_iff {a b : Text} :
    compare a.lowercase b.lowercase = .gt ↔ titleMayPrecede a b = false := by
  rw [titleMayPrecede, decide_eq_false_iff_not, Std.OrientedCmp.gt_iff_lt, Text.compare_eq_lt_iff]
  exact not_le.symm

end Submission

namespace Inversion

variable {α : Type} (mayPrecede : Text → Text → Bool) (line : α → Nat) (text : α → Text)

/-- The neighbours that are out of order, each with the line of the second. -/
def among (items : List α) : List Inversion :=
  (items.zip items.tail).flatMap fun (a, b) =>
    if mayPrecede (text a) (text b) then []
    else [{ line := line b, before := text a, after := text b }]

/-- Any two items that are out of order have neighbours between them that are reported. -/
def ReportsBetween (R : α → α → Prop) (reported : List Inversion) (items : List α) : Prop :=
  ∀ front a middle b back, items = front ++ a :: (middle ++ b :: back) → ¬ R a b →
    ∃ x y, [x, y] <:+: a :: (middle ++ [b]) ∧
      { line := line y, before := text x, after := text y } ∈ reported

def withPrevious (previous : Option Text) (line : Nat) (text : Text) : List Inversion :=
  match previous with
  | none => []
  | some earlier =>
    if mayPrecede earlier text then [] else [{ line, before := earlier, after := text }]

def following (previous : Option Text) : List α → List Inversion
  | [] => []
  | item :: rest =>
    withPrevious mayPrecede previous (line item) (text item) ++ following (some (text item)) rest

theorem reverse_withPrevious (previous : Option Text) (line : Nat) (text : Text) :
    (withPrevious mayPrecede previous line text).reverse =
      withPrevious mayPrecede previous line text := by
  cases previous with
  | none => rfl
  | some earlier =>
    rw [withPrevious]
    split <;> rfl

theorem following_none (items : List α) :
    following mayPrecede line text none items = among mayPrecede line text items := by
  cases items with
  | nil => rfl
  | cons item rest =>
    rw [following, among, List.tail_cons]
    change following mayPrecede line text (some (text item)) rest = _
    induction rest generalizing item with
    | nil => rfl
    | cons next rest ih =>
      rw [following, ih, List.zip_cons_cons, List.flatMap_cons]
      rfl

theorem mem_zip_tail_iff {items : List α} {a b : α} :
    (a, b) ∈ items.zip items.tail ↔ [a, b] <:+: items := by
  induction items with
  | nil => simp
  | cons item rest ih =>
    cases rest with
    | nil => simp [List.infix_cons_iff]
    | cons next rest =>
      rw [List.tail_cons, List.zip_cons_cons, List.mem_cons, List.infix_cons_iff, ← ih]
      simp [List.prefix_cons_iff]

theorem mem_among_iff {items : List α} {inversion : Inversion} :
    inversion ∈ among mayPrecede line text items ↔
      ∃ a b, [a, b] <:+: items ∧ mayPrecede (text a) (text b) = false ∧
        inversion = { line := line b, before := text a, after := text b } := by
  simp only [among, List.mem_flatMap, Prod.exists, mem_zip_tail_iff]
  refine exists_congr fun a => exists_congr fun b => and_congr_right fun _ => ?_
  cases mayPrecede (text a) (text b) <;> simp

variable {mayPrecede line text} {R : α → α → Prop} [IsTrans α R]

theorem pairwise_of_among_eq_nil {items : List α}
    (hR : ∀ a ∈ items, ∀ b ∈ items, mayPrecede (text a) (text b) = true → R a b)
    (h : among mayPrecede line text items = []) : items.Pairwise R := by
  rw [← List.isChain_iff_pairwise, isChain_iff_forall_infix]
  intro a b hab
  refine hR a (hab.subset (by simp)) b (hab.subset (by simp)) ?_
  by_contra hfalse
  have hm := (mem_among_iff mayPrecede line text).2 ⟨a, b, hab, by simpa using hfalse, rfl⟩
  rw [h] at hm
  cases hm

theorem reportsBetween_among {items : List α}
    (hR : ∀ a ∈ items, ∀ b ∈ items, mayPrecede (text a) (text b) = true → R a b) :
    ReportsBetween line text R (among mayPrecede line text items) items := by
  intro front a middle b back hitems hab
  -- If the part from the one to the other had no inversion, the two would be in order.
  have hsegment : a :: (middle ++ [b]) <:+: items := ⟨front, back, by simp [hitems]⟩
  have hne : among mayPrecede line text (a :: (middle ++ [b])) ≠ [] := by
    intro hnil
    have hsorted : (a :: (middle ++ [b])).Pairwise R :=
      pairwise_of_among_eq_nil
        (fun x hx y hy => hR x (hsegment.subset hx) y (hsegment.subset hy)) hnil
    exact hab ((List.pairwise_cons.1 hsorted).1 b (by simp))
  obtain ⟨inversion, hm⟩ := List.exists_mem_of_ne_nil _ hne
  obtain ⟨x, y, hxy, hout, rfl⟩ := (mem_among_iff mayPrecede line text).1 hm
  exact ⟨x, y, hxy,
    (mem_among_iff mayPrecede line text).2 ⟨x, y, hxy.trans hsegment, hout, rfl⟩⟩

end Inversion
end SuffixLint
