import SuffixLint.Proofs.Line.Rewrite

namespace SuffixLint.Text

/-- A text without the white space around it. -/
structure IsTrimOf (text trimmed : Text) : Prop where
  splits : ∃ left right, text = left ++ trimmed ++ right ∧
    (∀ c ∈ left, isWhiteSpace c = true) ∧ ∀ c ∈ right, isWhiteSpace c = true
  first : ∀ c, trimmed.head? = some c → isWhiteSpace c = false
  last : ∀ c, trimmed.getLast? = some c → isWhiteSpace c = false

theorem first_trimStart {text : Text} {c : Char} (h : (trimStart text).head? = some c) :
    isWhiteSpace c = false := by
  have hfirst := List.head?_dropWhile_not isWhiteSpace text
  rw [trimStart] at h
  rw [h] at hfirst
  simpa using hfirst

theorem last_trimEnd {text : Text} {c : Char} (h : (trimEnd text).getLast? = some c) :
    isWhiteSpace c = false := by
  rw [trimEnd, List.getLast?_reverse] at h
  exact first_trimStart h

theorem isTrimOf_trim (text : Text) : IsTrimOf text (trim text) where
  splits := by
    refine ⟨text.takeWhile isWhiteSpace, (trimStart text).rtakeWhile isWhiteSpace, ?_, ?_, ?_⟩
    · have hend : trim text ++ (trimStart text).rtakeWhile isWhiteSpace = trimStart text :=
        List.rdropWhile_append_rtakeWhile
      rw [List.append_assoc, hend]
      exact List.takeWhile_append_dropWhile.symm
    · intro c hc
      exact List.mem_takeWhile_imp hc
    · intro c hc
      exact List.mem_rtakeWhile_imp hc
  first := by
    intro c hc
    rw [← trimStart_trim] at hc
    exact first_trimStart hc
  last := fun _ => last_trimEnd

namespace IsTrimOf

variable {text trimmed : Text}

theorem sublist (h : IsTrimOf text trimmed) : trimmed.Sublist text := by
  obtain ⟨left, right, rfl, _, _⟩ := h.splits
  exact (List.sublist_append_right left trimmed).trans (List.sublist_append_left _ right)

theorem length_eq_iff (h : IsTrimOf text trimmed) :
    trimmed.length = text.length ↔ trimmed = text :=
  ⟨h.sublist.eq_of_length, congrArg List.length⟩

theorem mem_of_mem (h : IsTrimOf text trimmed) {c : Char} (hmem : c ∈ text)
    (hc : isWhiteSpace c = false) : c ∈ trimmed := by
  obtain ⟨left, right, rfl, hleft, hright⟩ := h.splits
  have hspace : ¬ isWhiteSpace c = true := Bool.eq_false_iff.1 hc
  rcases List.mem_append.1 hmem with hmem | hmem
  · rcases List.mem_append.1 hmem with hmem | hmem
    · exact absurd (hleft c hmem) hspace
    · exact hmem
  · exact absurd (hright c hmem) hspace

theorem ne_iff (h : IsTrimOf text trimmed) :
    trimmed ≠ text ↔
      text ≠ [] ∧
        ∃ c, (text.head? = some c ∨ text.getLast? = some c) ∧ isWhiteSpace c = true := by
  constructor
  · intro hne
    obtain ⟨left, right, rfl, hleft, hright⟩ := h.splits
    cases left with
    | cons c left =>
      exact ⟨by simp, c, .inl rfl, hleft c List.mem_cons_self⟩
    | nil =>
      rcases List.eq_nil_or_concat right with rfl | ⟨rest, c, rfl⟩
      · exact absurd (by simp) hne
      · refine ⟨by simp, c, .inr ?_, hright c (by simp)⟩
        rw [List.concat_eq_append, ← List.append_assoc, List.getLast?_concat]
  · rintro ⟨_, c, hend, hc⟩ rfl
    rcases hend with hend | hend
    · exact Bool.false_ne_true ((h.first c hend).symm.trans hc)
    · exact Bool.false_ne_true ((h.last c hend).symm.trans hc)

end IsTrimOf
end SuffixLint.Text
