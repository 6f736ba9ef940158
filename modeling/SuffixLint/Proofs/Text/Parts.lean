import SuffixLint.Text.Basic

namespace SuffixLint.Text

theorem mem_and_ne_of_mem_splitOn {separator c : Char} {text part : Text}
    (h : part ∈ text.splitOn separator) (hc : c ∈ part) : c ∈ text ∧ c ≠ separator := by
  induction text generalizing part with
  | nil =>
    rw [List.splitOn_nil, List.mem_singleton] at h
    exact absurd hc (h ▸ List.not_mem_nil)
  | cons first text ih =>
    obtain ⟨start, others, hsplit⟩ :=
      List.exists_cons_of_ne_nil (List.splitOn_ne_nil separator text)
    rw [hsplit] at ih
    rw [List.splitOn_cons_eq_if_modifyHead, hsplit] at h
    split at h
    · rcases List.mem_cons.1 h with rfl | h
      · exact absurd hc List.not_mem_nil
      · exact ⟨List.mem_cons_of_mem _ (ih h hc).1, (ih h hc).2⟩
    · next hfirst =>
      rcases List.mem_cons.1 h with rfl | h
      · rcases List.mem_cons.1 hc with rfl | hc
        · exact ⟨List.mem_cons_self, fun he => hfirst (beq_iff_eq.2 he)⟩
        · obtain ⟨hmem, hne⟩ := ih List.mem_cons_self hc
          exact ⟨List.mem_cons_of_mem _ hmem, hne⟩
      · obtain ⟨hmem, hne⟩ := ih (List.mem_cons_of_mem _ h) hc
        exact ⟨List.mem_cons_of_mem _ hmem, hne⟩

theorem not_mem_of_mem_splitOn {separator : Char} {text part : Text}
    (h : part ∈ text.splitOn separator) : separator ∉ part :=
  fun hmem => (mem_and_ne_of_mem_splitOn h hmem).2 rfl

/-- A block without the separator stands on one side of it. -/
theorem infix_append_cons_iff {separator : Char} {part front back : Text}
    (h : separator ∉ part) :
    part <:+: front ++ separator :: back ↔ part <:+: front ∨ part <:+: back := by
  constructor
  · rintro hpart
    rcases List.infix_append_iff.1 hpart with hfront | hback | ⟨left, right, rfl, hleft, hright⟩
    · exact .inl hfront
    · rcases List.infix_cons_iff.1 hback with hback | hback
      · cases part with
        | nil => exact .inr (List.nil_infix)
        | cons c part =>
          exact absurd (List.cons_prefix_cons.1 hback).1 (fun he => h (he ▸ List.mem_cons_self))
      · exact .inr hback
    · cases right with
      | nil =>
        rw [List.append_nil]
        exact .inl hleft.isInfix
      | cons c right =>
        obtain rfl := (List.cons_prefix_cons.1 hright).1
        exact absurd (List.mem_append_right left List.mem_cons_self) h
  · rintro (hfront | hback)
    · exact List.infix_append_of_infix_left hfront
    · exact List.infix_append_of_infix_right (List.infix_cons hback)

theorem join_singleton (separator : Char) (part : Text) : join [separator] [part] = part := by
  simp [join]

theorem join_cons_cons (separator : Char) (part next : Text) (parts : List Text) :
    join [separator] (part :: next :: parts) =
      part ++ separator :: join [separator] (next :: parts) := by
  simp [join, List.intercalate_cons_cons]

theorem join_cons_of_ne_nil (separator : Char) (part : Text) {parts : List Text}
    (h : parts ≠ []) :
    join [separator] (part :: parts) = part ++ separator :: join [separator] parts := by
  obtain ⟨next, parts, rfl⟩ := List.exists_cons_of_ne_nil h
  exact join_cons_cons separator part next parts

theorem join_prefix {separator : Char} {front parts : List Text} (h : front <+: parts) :
    join [separator] front <+: join [separator] parts := by
  induction front generalizing parts with
  | nil => exact List.nil_prefix
  | cons part front ih =>
    obtain ⟨others, rfl, hothers⟩ : ∃ others, parts = part :: others ∧ front <+: others := by
      obtain ⟨back, rfl⟩ := h
      exact ⟨front ++ back, rfl, List.prefix_append _ _⟩
    by_cases hfront : front = []
    · subst hfront
      rw [join_singleton]
      by_cases hempty : others = []
      · simp [hempty, join_singleton]
      · rw [join_cons_of_ne_nil separator part hempty]
        exact List.prefix_append _ _
    · have hne : others ≠ [] := fun he => hfront (List.prefix_nil.1 (he ▸ hothers))
      rw [join_cons_of_ne_nil separator part hfront, join_cons_of_ne_nil separator part hne]
      exact (List.prefix_append_right_inj _).2 (List.cons_prefix_cons.2 ⟨rfl, ih hothers⟩)

theorem join_append_singleton (separator : Char) {parts : List Text} (part : Text)
    (h : parts ≠ []) :
    join [separator] (parts ++ [part]) = join [separator] parts ++ separator :: part := by
  induction parts with
  | nil => exact absurd rfl h
  | cons first parts ih =>
    by_cases hempty : parts = []
    · subst hempty
      rw [List.singleton_append, join_cons_cons, join_singleton, join_singleton]
    · rw [List.cons_append, join_cons_of_ne_nil separator first (by simp),
        join_cons_of_ne_nil separator first hempty, ih hempty, List.append_assoc, List.cons_append]

theorem getLast?_join_append_singleton (separator : Char) (parts : List Text) {last : Text}
    (h : last ≠ []) : (join [separator] (parts ++ [last])).getLast? = last.getLast? := by
  by_cases hempty : parts = []
  · rw [hempty, List.nil_append, join_singleton]
  · rw [join_append_singleton separator last hempty, List.append_cons, List.getLast?_append,
      List.getLast?_eq_some_getLast h, Option.some_or]

end SuffixLint.Text
