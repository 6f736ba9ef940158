import SuffixLint.Proofs.Line.Rewrite
import SuffixLint.Proofs.Text.Ascii

namespace SuffixLint

namespace Text

theorem trim_append_whiteSpace {c : Char} (h : isWhiteSpace c = true) (text : Text) :
    trim (text ++ [c]) = trim text := by
  rw [trim, trim, trimStart, trimStart, List.dropWhile_append]
  split
  · next hnil =>
    rw [List.isEmpty_iff.1 hnil, List.dropWhile_cons_of_pos h, List.dropWhile_nil]
  · exact List.rdropWhile_concat_pos _ _ _ h

theorem length_trim_le (text : Text) : (trim text).length ≤ text.length := by
  have hstart : (trimStart text).length ≤ text.length := List.length_dropWhile_le _ _
  have hend : (trim text).length ≤ (trimStart text).length :=
    (List.rdropWhile_prefix _ _).length_le
  exact Nat.le_trans hend hstart

end Text

namespace Line

def carriageReturn : UInt8 := 0x0D

/-- Bytes with a carriage return before every line feed. -/
def withReturns (data : Bytes) : Bytes :=
  data.flatMap fun octet => if octet = feed then [carriageReturn, feed] else [octet]

theorem withReturns_append (a b : Bytes) : withReturns (a ++ b) = withReturns a ++ withReturns b :=
  List.flatMap_append

theorem withReturns_of_not_mem {data : Bytes} (h : feed ∉ data) : withReturns data = data := by
  induction data with
  | nil => rfl
  | cons octet data ih =>
    rw [List.mem_cons, not_or] at h
    rw [withReturns, List.flatMap_cons, if_neg (Ne.symm h.1), List.singleton_append]
    exact congrArg _ (ih h.2)

theorem withReturns_feed {content : Bytes} (h : feed ∉ content) :
    withReturns (content ++ [feed]) = content ++ [carriageReturn] ++ [feed] := by
  rw [withReturns_append, withReturns_of_not_mem h, List.append_assoc]
  rfl

theorem withReturns_flatten (raws : List Bytes) :
    withReturns raws.flatten = (raws.map withReturns).flatten := by
  induction raws with
  | nil => rfl
  | cons raw raws ih => rw [List.flatten_cons, withReturns_append, ih, List.map_cons,
      List.flatten_cons]

theorem IsCut.withReturns {raws : List Bytes} (h : IsCut raws) :
    IsCut (raws.map withReturns) := by
  induction h with
  | nil => exact .nil
  | last hne hbody =>
    rw [List.map_singleton, withReturns_of_not_mem hbody]
    exact .last hne hbody
  | cons hbody _ ih =>
    rw [List.map_cons, withReturns_feed hbody]
    refine .cons ?_ ih
    rw [List.mem_append, not_or]
    exact ⟨hbody, by decide⟩

theorem split_withReturns (data : Bytes) :
    split (withReturns data) = (split data).map withReturns := by
  have hdata : withReturns data = ((split data).map withReturns).flatten := by
    rw [← withReturns_flatten, flatten_split]
  rw [hdata]
  exact split_flatten (isCut_split data).withReturns

theorem IsCut.finished_or_not_mem {raws : List Bytes} (h : IsCut raws) {raw : Bytes}
    (hraw : raw ∈ raws) : (∃ content, feed ∉ content ∧ raw = content ++ [feed]) ∨ feed ∉ raw := by
  induction h with
  | nil => cases hraw
  | last _ hbody =>
    rw [List.mem_singleton.1 hraw]
    exact .inr hbody
  | cons hbody _ ih =>
    rcases List.mem_cons.1 hraw with rfl | hraw
    · exact .inl ⟨_, hbody, rfl⟩
    · exact ih hraw

/-- Two lines have the same number and are read as the same text, whatever white space they have
around it. -/
structure SameText (a b : Line) : Prop where
  number : b.number = a.number
  text : b.text = a.text
  isUtf8 : b.isUtf8 = a.isUtf8

theorem SameText.refl (line : Line) : SameText line line := ⟨rfl, rfl, rfl⟩

variable {a b : Line}

theorem SameText.kind (h : SameText a b) : b.kind = a.kind := by
  rw [Line.kind, Line.kind, h.text]

theorem decodeLossy_append_return (content : Bytes) :
    Utf8.decodeLossy (content ++ [carriageReturn]) = Utf8.decodeLossy content ++ ['\r'] :=
  Utf8.decodeLossy_append_ascii (by decide) content []

theorem isValid_append_return (content : Bytes) :
    Utf8.isValid (content ++ [carriageReturn]) = Utf8.isValid content := by
  rw [Utf8.isValid_append_ascii (by decide), Utf8.isValid_nil, Bool.and_true]

theorem trim_decodeLossy_append_return (content : Bytes) :
    (Utf8.decodeLossy (content ++ [carriageReturn])).trim = (Utf8.decodeLossy content).trim := by
  rw [decodeLossy_append_return, Text.trim_append_whiteSpace (by decide)]

variable (number : Nat) (content : Bytes)

/-- A carriage return before the line feed does not change what a line is read as. -/
theorem sameText_return :
    SameText (ofBytes number (content ++ [feed]))
      (ofBytes number (content ++ [carriageReturn] ++ [feed])) where
  number := rfl
  text := by
    simp only [ofBytes, body_append_feed]
    exact trim_decodeLossy_append_return content
  isUtf8 := by
    simp only [ofBytes, body_append_feed]
    exact isValid_append_return content

theorem hasOuterSpace_return :
    (ofBytes number (content ++ [carriageReturn] ++ [feed])).hasOuterSpace = true := by
  simp only [ofBytes, body_append_feed, trim_decodeLossy_append_return, decide_eq_true_eq]
  have hle := Text.length_trim_le (Utf8.decodeLossy content)
  rw [decodeLossy_append_return, List.length_append, List.length_singleton]
  omega

variable {data : Bytes}

theorem sameText_withReturns {raw : Bytes} (h : raw ∈ split data) :
    SameText (ofBytes number raw) (ofBytes number (withReturns raw)) := by
  rcases (isCut_split data).finished_or_not_mem h with ⟨content, hfree, rfl⟩ | hfree
  · rw [withReturns_feed hfree]
    exact sameText_return number content
  · rw [withReturns_of_not_mem hfree]
    exact .refl _

theorem hasOuterSpace_withReturns {raw : Bytes} (h : raw ∈ split data)
    (finished : raw.getLast? = some feed) :
    (ofBytes number (withReturns raw)).hasOuterSpace = true := by
  rcases (isCut_split data).finished_or_not_mem h with ⟨content, hfree, rfl⟩ | hfree
  · rw [withReturns_feed hfree]
    exact hasOuterSpace_return number content
  · exact absurd (List.mem_of_getLast? finished) hfree

theorem withReturns_of_unfinished {raw : Bytes} (h : raw ∈ split data)
    (unfinished : raw.getLast? ≠ some feed) : withReturns raw = raw := by
  rcases (isCut_split data).finished_or_not_mem h with ⟨content, _, rfl⟩ | hfree
  · exact absurd List.getLast?_concat unfinished
  · exact withReturns_of_not_mem hfree

theorem forall₂_sameText_numberFrom (first : Nat) {raws : List Bytes}
    (h : ∀ raw ∈ raws, raw ∈ split data) :
    List.Forall₂ SameText (numberFrom first raws) (numberFrom first (raws.map withReturns)) := by
  induction raws generalizing first with
  | nil => exact .nil
  | cons raw raws ih =>
    obtain ⟨hraw, hrest⟩ := List.forall_mem_cons.1 h
    exact .cons (sameText_withReturns first hraw) (ih (first + 1) hrest)

theorem forall₂_sameText_ofData (data : Bytes) :
    List.Forall₂ SameText (ofData data) (ofData (withReturns data)) := by
  rw [ofData, ofData, split_withReturns]
  exact forall₂_sameText_numberFrom 1 fun _ h => h

end Line
end SuffixLint
