import Mathlib.Data.List.Induction

namespace SuffixLint

variable {α : Type}

/-- Every member of a list satisfies `P` after the members before it. -/
def EachAfter (P : List α → α → Prop) (items : List α) : Prop :=
  ∀ before item after, items = before ++ item :: after → P before item

theorem EachAfter.nil (P : List α → α → Prop) : EachAfter P [] := by
  intro before item after h
  exact absurd h.symm (by simp)

theorem EachAfter.of_append {P : List α → α → Prop} {a b : List α} (h : EachAfter P (a ++ b)) :
    EachAfter P a := by
  intro before item after ha
  apply h before item (after ++ b)
  rw [ha, List.append_assoc, List.cons_append]

theorem eachAfter_append_singleton {P : List α → α → Prop} {items : List α} {item : α} :
    EachAfter P (items ++ [item]) ↔ EachAfter P items ∧ P items item := by
  constructor
  · intro h
    exact ⟨h.of_append, h items item [] rfl⟩
  · rintro ⟨h, hlast⟩ before x after he
    rcases List.eq_nil_or_concat after with rfl | ⟨rest, y, rfl⟩
    · obtain ⟨rfl, hx⟩ := List.append_inj' he rfl
      obtain rfl := List.singleton_inj.1 hx
      exact hlast
    · have he' : items ++ [item] = (before ++ x :: rest) ++ [y] := by
        rw [he, List.append_assoc, List.cons_append, List.concat_eq_append]
      exact h before x rest (List.append_inj' he' rfl).1

theorem pairwise_iff_eachAfter {R : α → α → Prop} {items : List α} :
    items.Pairwise R ↔ EachAfter (fun before item => ∀ earlier ∈ before, R earlier item) items := by
  induction items using List.reverseRecOn with
  | nil => exact ⟨fun _ => .nil _, fun _ => .nil⟩
  | append_singleton items item ih =>
    rw [List.pairwise_append, eachAfter_append_singleton, ih]
    constructor
    · rintro ⟨h, _, hlast⟩
      exact ⟨h, fun earlier hm => hlast earlier hm item (List.mem_singleton_self item)⟩
    · rintro ⟨h, hlast⟩
      refine ⟨h, List.pairwise_singleton _ _, ?_⟩
      intro earlier hm x hx
      obtain rfl := List.mem_singleton.1 hx
      exact hlast earlier hm

/-- A member of a list with the members before it and after it. -/
structure Place (α : Type) where
  before : List α
  item : α
  after : List α

namespace Place

/-- The places of some members, where others come before them. -/
def allAfter (before : List α) : List α → List (Place α)
  | [] => []
  | item :: rest => { before, item, after := rest } :: allAfter (before ++ [item]) rest

def all (items : List α) : List (Place α) := allAfter [] items

theorem mem_allAfter {before items : List α} {place : Place α} :
    place ∈ allAfter before items ↔
      ∃ front, place.before = before ++ front ∧ items = front ++ place.item :: place.after := by
  induction items generalizing before with
  | nil =>
    refine iff_of_false List.not_mem_nil ?_
    rintro ⟨front, _, h⟩
    exact absurd h.symm (by simp)
  | cons item rest ih =>
    rw [allAfter, List.mem_cons, ih]
    constructor
    · rintro (rfl | ⟨front, hbefore, hrest⟩)
      · exact ⟨[], (List.append_nil _).symm, rfl⟩
      · refine ⟨item :: front, ?_, by rw [hrest, List.cons_append]⟩
        rw [hbefore, List.append_assoc, List.singleton_append]
    · rintro ⟨front, hbefore, hitems⟩
      cases front with
      | nil =>
        obtain ⟨rfl, rfl⟩ := List.cons.inj hitems
        rw [List.append_nil] at hbefore
        exact .inl (by rw [← hbefore])
      | cons first front =>
        obtain ⟨rfl, hrest⟩ := List.cons.inj hitems
        refine .inr ⟨front, ?_, hrest⟩
        rw [hbefore, List.append_assoc, List.singleton_append]

theorem mem_all {items : List α} {place : Place α} :
    place ∈ all items ↔ items = place.before ++ place.item :: place.after := by
  rw [all, mem_allAfter]
  constructor
  · rintro ⟨front, hbefore, hitems⟩
    rw [hbefore]
    exact hitems
  · intro h
    exact ⟨place.before, rfl, h⟩

theorem pairwise_allAfter (before items : List α) :
    (allAfter before items).Pairwise fun a b => b.item ∈ a.after := by
  induction items generalizing before with
  | nil => exact .nil
  | cons item rest ih =>
    refine .cons ?_ (ih _)
    intro place h
    obtain ⟨front, _, hrest⟩ := mem_allAfter.1 h
    rw [hrest]
    exact List.mem_append_right _ List.mem_cons_self

theorem allAfter_append_singleton (before items : List α) (item : α) :
    allAfter before (items ++ [item]) =
      (allAfter before items).map (fun place => { place with after := place.after ++ [item] }) ++
        [{ before := before ++ items, item, after := [] }] := by
  induction items generalizing before with
  | nil => rw [List.append_nil]; rfl
  | cons first rest ih =>
    rw [List.cons_append, allAfter, ih, allAfter, List.append_assoc, List.singleton_append]
    rfl

theorem countP_all_append_singleton (P : List α → α → Bool) (items : List α) (item : α) :
    (all (items ++ [item])).countP (fun place => P place.before place.item) =
      (all items).countP (fun place => P place.before place.item) +
        if P items item then 1 else 0 := by
  rw [all, allAfter_append_singleton, List.countP_append, List.countP_map, List.countP_singleton]
  rfl

end Place

theorem eachAfter_iff_all {P : List α → α → Prop} {items : List α} :
    EachAfter P items ↔ ∀ place ∈ Place.all items, P place.before place.item := by
  simp only [Place.mem_all]
  constructor
  · intro h place he
    exact h place.before place.item place.after he
  · intro h before item after he
    exact h { before, item, after } he

instance {P : List α → α → Prop} [∀ before item, Decidable (P before item)] (items : List α) :
    Decidable (EachAfter P items) :=
  decidable_of_iff _ eachAfter_iff_all.symm

end SuffixLint
