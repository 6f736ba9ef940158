import SuffixLint.Proofs.Finding.Message
import SuffixLint.Proofs.Line.Numbering
import SuffixLint.Proofs.Line.Streaming
import SuffixLint.Proofs.Text.Ascii

namespace SuffixLint

namespace Text

def IsOneLine (text : Text) : Prop := newline ∉ text

namespace IsOneLine

instance (text : Text) : Decidable (IsOneLine text) :=
  inferInstanceAs (Decidable (newline ∉ text))

theorem nil : IsOneLine [] := List.not_mem_nil

theorem of_subset {part text : Text} (h : text.IsOneLine) (hsub : part ⊆ text) : part.IsOneLine :=
  fun hm => h (hsub hm)

theorem append {a b : Text} (ha : a.IsOneLine) (hb : b.IsOneLine) : IsOneLine (a ++ b) := by
  intro hm
  rcases List.mem_append.1 hm with hm | hm
  · exact ha hm
  · exact hb hm

theorem cons {c : Char} (hc : c ≠ newline) {rest : Text} (hrest : rest.IsOneLine) :
    IsOneLine (c :: rest) :=
  List.not_mem_cons_of_ne_of_not_mem (Ne.symm hc) hrest

theorem ofNat (n : Nat) : IsOneLine (Text.ofNat n) := not_mem_ofNat (by decide) n

theorem append_field {front name : Text} (hfront : front.IsOneLine) (hname : name.IsOneLine)
    (n : Nat) : IsOneLine (front ++ name ++ Text.ofNat n) :=
  (hfront.append hname).append (ofNat n)

theorem replace {text new : Text} (htext : text.IsOneLine) (old : Char) (hnew : new.IsOneLine) :
    IsOneLine (text.replace old new) := by
  intro hm
  obtain ⟨c, hc, hm⟩ := List.mem_flatMap.1 hm
  split at hm
  · exact hnew hm
  · exact htext (List.mem_singleton.1 hm ▸ hc)

theorem join {separator : Text} (hseparator : separator.IsOneLine) {parts : List Text}
    (hparts : ∀ part ∈ parts, part.IsOneLine) : IsOneLine (join separator parts) := by
  induction parts with
  | nil => exact nil
  | cons part rest ih =>
    obtain ⟨hpart, hrest⟩ := List.forall_mem_cons.1 hparts
    cases rest with
    | nil =>
      rw [Text.join, List.intercalate_singleton]
      exact hpart
    | cons next rest =>
      rw [Text.join, List.intercalate_cons_cons]
      exact (hpart.append hseparator).append (ih hrest)

theorem trim {text : Text} (h : text.IsOneLine) : IsOneLine text.trim := by
  apply h.of_subset
  intro c hc
  have hstart : c ∈ trimStart text :=
    List.mem_reverse.1 ((List.dropWhile_sublist _).subset (List.mem_reverse.1 hc))
  exact (List.dropWhile_sublist _).subset hstart

end IsOneLine
end Text

namespace Line

/-- A line of which all that is kept is on one line. -/
structure IsOneLine (line : Line) : Prop where
  text : line.text.IsOneLine
  shown : line.shown.IsOneLine

theorem isOneLine_ofBytes {raw : Bytes} (h : feed ∉ body raw) (number : Nat) :
    (ofBytes number raw).IsOneLine := by
  have hdecoded : (Utf8.decodeLossy (body raw)).IsOneLine :=
    mt Utf8.feed_mem_of_newline_mem_decodeLossy h
  constructor
  · exact hdecoded.trim
  · rw [ofBytes]
    dsimp only
    split
    · exact (hdecoded.replace '\t' (by decide)).replace '\r' (by decide)
    · exact hdecoded

theorem isOneLine_of_mem_ofData {data : Bytes} {line : Line} (h : line ∈ ofData data) :
    line.IsOneLine := by
  obtain ⟨raw, hraw, hline⟩ := exists_of_mem_numberFrom h
  rw [hline]
  exact isOneLine_ofBytes ((isCut_split data).feed_not_mem_body raw hraw) _

end Line
end SuffixLint
