import SuffixLint.Proofs.Text.Trim

namespace SuffixLint.Line

theorem eq_body_or (raw : Bytes) :
    raw = body raw ++ [feed] ∨ raw = body raw ∧ raw.getLast? ≠ some feed := by
  by_cases h : raw.getLast? = some feed
  · obtain ⟨front, rfl⟩ := List.getLast?_eq_some_iff.1 h
    exact .inl (by rw [body_append_feed])
  · exact .inr ⟨by rw [body, if_neg h], h⟩

/-- What a reader is shown for a character. -/
def visible (c : Char) : Text :=
  if c = '\t' then "\\t".toList else if c = '\r' then "^M".toList else [c]

theorem showControls_eq (text : Text) : showControls text = text.flatMap visible := by
  rw [showControls, Text.replace, Text.replace, List.flatMap_assoc]
  apply List.flatMap_congr
  intro c _
  rw [visible]
  split
  · rfl
  · rw [List.flatMap_singleton]

theorem not_mem_visible {c control : Char} (h : control = '\t' ∨ control = '\r') :
    control ∉ visible c := by
  rw [visible]
  split
  · rcases h with rfl | rfl
    · decide
    · decide
  · split
    · rcases h with rfl | rfl
      · decide
      · decide
    · next htab hreturn =>
      rw [List.mem_singleton]
      rintro rfl
      exact h.elim htab hreturn

theorem not_mem_showControls {text : Text} {control : Char}
    (h : control = '\t' ∨ control = '\r') : control ∉ showControls text := by
  rw [showControls_eq, List.mem_flatMap]
  rintro ⟨c, _, hc⟩
  exact not_mem_visible h hc

section OfBytes

variable (number : Nat) (raw : Bytes)

theorem isTrimOf_text :
    Text.IsTrimOf (Utf8.decodeLossy (body raw)) (ofBytes number raw).text :=
  Text.isTrimOf_trim _

theorem hasOuterSpace_iff_length_ne :
    (ofBytes number raw).hasOuterSpace = true ↔
      (ofBytes number raw).text.length ≠ (Utf8.decodeLossy (body raw)).length :=
  decide_eq_true_iff

theorem hasOuterSpace_iff_ne :
    (ofBytes number raw).hasOuterSpace = true ↔
      (ofBytes number raw).text ≠ Utf8.decodeLossy (body raw) := by
  rw [hasOuterSpace_iff_length_ne, ne_eq, (isTrimOf_text number raw).length_eq_iff]

theorem shown_of_outerSpace (h : (ofBytes number raw).hasOuterSpace = true) :
    (ofBytes number raw).shown = showControls (Utf8.decodeLossy (body raw)) :=
  if_pos ((hasOuterSpace_iff_length_ne number raw).1 h)

theorem shown_of_no_outerSpace (h : (ofBytes number raw).hasOuterSpace = false) :
    (ofBytes number raw).shown = (ofBytes number raw).text := by
  rw [← Bool.not_eq_true] at h
  have hshown : (ofBytes number raw).shown = Utf8.decodeLossy (body raw) :=
    if_neg (mt (hasOuterSpace_iff_length_ne number raw).2 h)
  rw [hasOuterSpace_iff_ne, not_not] at h
  rw [hshown, h]

theorem replacement_mem_text (h : (ofBytes number raw).isUtf8 = false) :
    '\uFFFD' ∈ (ofBytes number raw).text :=
  (isTrimOf_text number raw).mem_of_mem (Utf8.replacement_mem_decodeLossy h) (by decide)

end OfBytes

theorem getLast?_encode_ne_feed {text : Text} (h : text.getLast? ≠ some '\n') :
    (Utf8.encode text).getLast? ≠ some feed := by
  rcases List.eq_nil_or_concat text with rfl | ⟨front, c, rfl⟩
  · intro hlast
    cases hlast
  · rw [List.concat_eq_append] at h ⊢
    intro hlast
    rw [Utf8.encode_append] at hlast
    have hne : Utf8.encode [c] ≠ [] := mt Utf8.encode_eq_nil_iff.1 (List.cons_ne_nil c [])
    rw [List.getLast?_append_of_ne_nil _ hne] at hlast
    have hc : Char.ofNat feed.toNat ∈ [c] :=
      Utf8.mem_encode_ascii (by decide) (List.mem_of_getLast? hlast)
    rw [← List.mem_singleton.1 hc] at h
    exact h List.getLast?_concat

/-- A text without white space around it, written as a line, is read as itself. -/
theorem ofBytes_encode {text : Text} (trimmed : text.trim = text) (number : Nat) :
    ofBytes number (Utf8.encode text) = ofText number text := by
  have hlast : text.getLast? ≠ some '\n' := by
    intro hlast
    rw [← trimmed] at hlast
    exact Bool.false_ne_true ((Text.last_trimEnd hlast).symm.trans (by decide))
  rw [ofBytes, body, if_neg (getLast?_encode_ne_feed hlast)]
  simp only [Utf8.decodeLossy_encode, Utf8.isValid_encode, trimmed, ofText, ne_eq, not_true,
    decide_false, if_false]

end SuffixLint.Line
