import Mathlib.Data.List.Forall2

namespace SuffixLint

variable {α β ε : Type} {read : α → Except ε β} {items : List α}

theorem mapM_cons_of_ok {item : α} {value : β} (h : read item = .ok value) :
    (item :: items).mapM read = (items.mapM read).map (value :: ·) := by
  rw [List.mapM_cons, h]
  cases items.mapM read <;> rfl

theorem mapM_cons_of_error {item : α} {error : ε} (h : read item = .error error) :
    (item :: items).mapM read = .error error := by
  rw [List.mapM_cons, h]
  rfl

theorem mapM_eq_ok_iff {values : List β} :
    items.mapM read = .ok values ↔
      List.Forall₂ (fun item value => read item = .ok value) items values := by
  induction items generalizing values with
  | nil => simp [List.forall₂_nil_left_iff, pure, Except.pure, eq_comm]
  | cons item items ih =>
    rw [List.forall₂_cons_left_iff]
    cases h : read item with
    | error error => simp [mapM_cons_of_error h]
    | ok value =>
      rw [mapM_cons_of_ok h]
      cases hrest : items.mapM read with
      | error error => simp [← ih, hrest, Except.map]
      | ok rest => simp [← ih, hrest, Except.map, eq_comm]

theorem exists_forall₂ {R : α → β → Prop} (h : ∀ item ∈ items, ∃ value, R item value) :
    ∃ values, List.Forall₂ R items values := by
  induction items with
  | nil => exact ⟨[], .nil⟩
  | cons item items ih =>
    obtain ⟨⟨value, hvalue⟩, hrest⟩ := List.forall_mem_cons.1 h
    obtain ⟨values, hvalues⟩ := ih hrest
    exact ⟨value :: values, .cons hvalue hvalues⟩

theorem exists_mem_of_forall₂ {R : α → β → Prop} {values : List β} {value : β}
    (h : List.Forall₂ R items values) (hvalue : value ∈ values) : ∃ item ∈ items, R item value := by
  induction h with
  | nil => cases hvalue
  | cons hfirst _ ih =>
    rcases List.mem_cons.1 hvalue with rfl | hvalue
    · exact ⟨_, List.mem_cons_self, hfirst⟩
    · obtain ⟨item, hitem, hread⟩ := ih hvalue
      exact ⟨item, List.mem_cons_of_mem _ hitem, hread⟩

theorem forall₂_append_cons {R : α → β → Prop} {before after : List α} {item : α}
    {values : List β} (h : List.Forall₂ R (before ++ item :: after) values) :
    ∃ first value rest, values = first ++ value :: rest ∧ List.Forall₂ R before first ∧
      R item value ∧ List.Forall₂ R after rest := by
  induction before generalizing values with
  | nil =>
    obtain ⟨value, rest, hvalue, hrest, rfl⟩ := List.forall₂_cons_left_iff.1 h
    exact ⟨[], value, rest, rfl, .nil, hvalue, hrest⟩
  | cons other before ih =>
    obtain ⟨value, values, hvalue, hvalues, rfl⟩ := List.forall₂_cons_left_iff.1 h
    obtain ⟨first, mid, rest, rfl, hbefore, hitem, hafter⟩ := ih hvalues
    exact ⟨value :: first, mid, rest, rfl, .cons hvalue hbefore, hitem, hafter⟩

/-- What fails is the first that fails. -/
theorem mapM_eq_error_iff {error : ε} :
    items.mapM read = .error error ↔
      ∃ before item after, items = before ++ item :: after ∧
        (∀ earlier ∈ before, ∃ value, read earlier = .ok value) ∧ read item = .error error := by
  induction items with
  | nil => simp [pure, Except.pure]
  | cons item items ih =>
    cases h : read item with
    | error other =>
      rw [mapM_cons_of_error h, Except.error.injEq]
      constructor
      · rintro rfl
        exact ⟨[], item, items, rfl, fun _ hm => absurd hm List.not_mem_nil, h⟩
      · rintro ⟨before, failing, after, he, hbefore, hfailing⟩
        cases before with
        | nil =>
          obtain ⟨rfl, rfl⟩ := List.cons.inj he
          exact Except.error.inj (h.symm.trans hfailing)
        | cons first before =>
          obtain ⟨rfl, rfl⟩ := List.cons.inj he
          obtain ⟨value, hvalue⟩ := hbefore item List.mem_cons_self
          cases h.symm.trans hvalue
    | ok value =>
      have hmap : (items.mapM read).map (value :: ·) = .error error ↔
          items.mapM read = .error error := by
        cases items.mapM read <;> simp [Except.map]
      rw [mapM_cons_of_ok h, hmap, ih]
      constructor
      · rintro ⟨before, failing, after, rfl, hbefore, hfailing⟩
        refine ⟨item :: before, failing, after, rfl, ?_, hfailing⟩
        exact List.forall_mem_cons.2 ⟨⟨value, h⟩, hbefore⟩
      · rintro ⟨before, failing, after, he, hbefore, hfailing⟩
        cases before with
        | nil =>
          obtain ⟨rfl, rfl⟩ := List.cons.inj he
          cases h.symm.trans hfailing
        | cons first before =>
          obtain ⟨rfl, rfl⟩ := List.cons.inj he
          exact ⟨before, failing, after, rfl, (List.forall_mem_cons.1 hbefore).2, hfailing⟩

end SuffixLint
