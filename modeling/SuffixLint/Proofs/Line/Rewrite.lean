import Mathlib.Data.List.DropRight
import Mathlib.Data.List.Forall2
import SuffixLint.Line.Reader
import SuffixLint.Proofs.Text.Utf8

namespace SuffixLint

namespace Text

theorem trimStart_trim (text : Text) : trimStart (trim text) = trim text := by
  cases h : trim text with
  | nil => rfl
  | cons c rest =>
    have hprefix : trim text <+: trimStart text := List.rdropWhile_prefix _ _
    rw [h] at hprefix
    obtain ⟨tail, htail⟩ := hprefix
    have hhead := List.head?_dropWhile_not isWhiteSpace text
    rw [trimStart] at htail
    rw [← htail] at hhead
    exact List.dropWhile_cons_of_neg (Bool.eq_false_iff.1 hhead)

@[simp] theorem trim_trim (text : Text) : trim (trim text) = trim text := by
  rw [trim, trimStart_trim]
  exact List.rdropWhile_idempotent _ _

end Text

namespace Line

/-- Bytes cut into lines: each holds its line feed at its end and none before; only the last one may
lack it. -/
inductive IsCut : List Bytes → Prop where
  | nil : IsCut []
  | last {body : Bytes} : body ≠ [] → feed ∉ body → IsCut [body]
  | cons {body : Bytes} {rest : List Bytes} :
    feed ∉ body → IsCut rest → IsCut ((body ++ [feed]) :: rest)

theorem splitFrom_of_not_mem {body : Bytes} (h : feed ∉ body) (current : Bytes) :
    splitFrom current body =
      if current = [] ∧ body = [] then [] else [current.reverse ++ body] := by
  induction body generalizing current with
  | nil => cases current <;> simp [splitFrom]
  | cons octet body ih =>
    rw [List.mem_cons, not_or] at h
    rw [splitFrom, if_neg (Ne.symm h.1), ih h.2, if_neg (by simp), if_neg (by simp)]
    simp

theorem splitFrom_feed {body : Bytes} (h : feed ∉ body) (current rest : Bytes) :
    splitFrom current (body ++ feed :: rest) =
      (current.reverse ++ body ++ [feed]) :: splitFrom [] rest := by
  induction body generalizing current with
  | nil => simp [splitFrom]
  | cons octet body ih =>
    rw [List.mem_cons, not_or] at h
    rw [List.cons_append, splitFrom, if_neg (Ne.symm h.1), ih h.2]
    simp

theorem split_flatten {raws : List Bytes} (h : IsCut raws) : split raws.flatten = raws := by
  induction h with
  | nil => rfl
  | last hne hbody =>
    rw [List.flatten_singleton, split, splitFrom_of_not_mem hbody, if_neg fun he => hne he.2]
    rfl
  | cons hbody _ ih =>
    rw [List.flatten_cons, List.append_assoc, List.singleton_append, split, splitFrom_feed hbody]
    exact congrArg _ ih

theorem flatten_splitFrom (current data : Bytes) :
    (splitFrom current data).flatten = current.reverse ++ data := by
  induction data generalizing current with
  | nil => cases current <;> simp [splitFrom]
  | cons octet rest ih =>
    rw [splitFrom]
    split
    · rw [List.flatten_cons, ih, List.reverse_cons, List.append_assoc]
      rfl
    · rw [ih, List.reverse_cons, List.append_assoc, List.singleton_append]

@[simp] theorem flatten_split (data : Bytes) : (split data).flatten = data :=
  flatten_splitFrom [] data

theorem isCut_splitFrom {current : Bytes} (h : feed ∉ current) (data : Bytes) :
    IsCut (splitFrom current data) := by
  induction data generalizing current with
  | nil =>
    rw [splitFrom]
    split
    · exact .nil
    · next hne =>
      refine .last ?_ (mt List.mem_reverse.1 h)
      rw [ne_eq, List.reverse_eq_nil_iff]
      exact mt List.isEmpty_iff.2 hne
  | cons octet rest ih =>
    rw [splitFrom]
    split
    · next he =>
      subst he
      rw [List.reverse_cons]
      exact .cons (mt List.mem_reverse.1 h) (ih List.not_mem_nil)
    · next hne => exact ih (List.not_mem_cons_of_ne_of_not_mem (Ne.symm hne) h)

theorem isCut_split (data : Bytes) : IsCut (split data) := isCut_splitFrom List.not_mem_nil data

def ending (raw : Bytes) : Bytes := if raw.getLast? = some feed then [feed] else []

def rewrite (raw : Bytes) (text : Text) : Bytes := Utf8.encode text ++ ending raw

structure IsLineText (text : Text) : Prop where
  nonempty : text ≠ []
  trimmed : text.trim = text
  one_line : '\n' ∉ text

theorem IsLineText.feed_free {text : Text} (h : IsLineText text) : feed ∉ Utf8.encode text := by
  intro hm
  exact h.one_line (Utf8.mem_encode_ascii (by decide) hm)

theorem ending_of_not_mem {body : Bytes} (h : feed ∉ body) : ending body = [] := by
  refine if_neg ?_
  intro hlast
  exact h (List.mem_of_getLast? hlast)

theorem ending_feed (body : Bytes) : ending (body ++ [feed]) = [feed] := by
  rw [ending, List.getLast?_concat, if_pos rfl]

def ofText (number : Nat) (text : Text) : Line :=
  { number, shown := text, text, isUtf8 := true, hasOuterSpace := false }

def ofTexts (first : Nat) : List Text → List Line
  | [] => []
  | text :: rest => ofText first text :: ofTexts (first + 1) rest

theorem map_text_ofTexts (first : Nat) (texts : List Text) :
    (ofTexts first texts).map (·.text) = texts := by
  induction texts generalizing first with
  | nil => rfl
  | cons text rest ih => rw [ofTexts, List.map_cons, ih, ofText]

theorem map_number_ofTexts (first : Nat) {texts : List Text} {raws : List Bytes}
    (h : texts.length = raws.length) :
    (ofTexts first texts).map (·.number) = (numberFrom first raws).map (·.number) := by
  induction texts generalizing first raws with
  | nil =>
    rw [List.eq_nil_of_length_eq_zero h.symm]
    rfl
  | cons text rest ih =>
    cases raws with
    | nil => cases h
    | cons raw raws =>
      rw [ofTexts, numberFrom, List.map_cons, List.map_cons, ih _ (Nat.succ.inj h)]
      rfl

theorem eq_ofText_of_mem {first : Nat} {texts : List Text} {line : Line}
    (h : line ∈ ofTexts first texts) : line = ofText line.number line.text := by
  induction texts generalizing first with
  | nil => cases h
  | cons text rest ih =>
    rcases List.mem_cons.1 h with rfl | h
    · rfl
    · exact ih h

theorem ofBytes_rewrite (number : Nat) (raw : Bytes) {text : Text} (h : IsLineText text) :
    ofBytes number (rewrite raw text) = ofText number text := by
  have hbody : body (rewrite raw text) = Utf8.encode text := by
    rw [rewrite, ending]
    split
    · exact body_append_feed _
    · rw [List.append_nil, body, if_neg]
      intro hlast
      exact h.feed_free (List.mem_of_getLast? hlast)
  rw [ofBytes, hbody]
  simp only [Utf8.decodeLossy_encode, Utf8.isValid_encode, h.trimmed, ofText, ne_eq, not_true,
    decide_false, if_false]

def rewriteAll (raws : List Bytes) (texts : List Text) : List Bytes :=
  List.zipWith rewrite raws texts

theorem numberFrom_rewriteAll (first : Nat) {raws : List Bytes} {texts : List Text}
    (hlength : texts.length = raws.length) (h : ∀ text ∈ texts, IsLineText text) :
    numberFrom first (rewriteAll raws texts) = ofTexts first texts := by
  induction raws generalizing first texts with
  | nil =>
    rw [List.eq_nil_of_length_eq_zero hlength]
    rfl
  | cons raw raws ih =>
    cases texts with
    | nil => cases hlength
    | cons text texts =>
      obtain ⟨htext, hrest⟩ := List.forall_mem_cons.1 h
      rw [rewriteAll, List.zipWith_cons_cons, numberFrom, ofBytes_rewrite _ _ htext, ofTexts]
      exact congrArg _ (ih _ (Nat.succ.inj hlength) hrest)

/-- A line stands for another where it is the same or has another text. -/
inductive Rewritten : Bytes → Bytes → Prop where
  | same (raw : Bytes) : Rewritten raw raw
  | text (raw : Bytes) {text : Text} : IsLineText text → Rewritten raw (rewrite raw text)

theorem IsCut.of_rewritten {raws others : List Bytes} (h : IsCut raws)
    (hrewritten : List.Forall₂ Rewritten raws others) : IsCut others := by
  induction h generalizing others with
  | nil =>
    cases hrewritten
    exact .nil
  | last hne hbody =>
    obtain ⟨other, hother, rfl⟩ : ∃ other, Rewritten _ other ∧ others = [other] := by
      cases hrewritten with
      | cons hother hrest =>
        cases hrest
        exact ⟨_, hother, rfl⟩
    cases hother with
    | same => exact .last hne hbody
    | text htext =>
      rw [rewrite, ending_of_not_mem hbody, List.append_nil]
      exact .last (mt Utf8.encode_eq_nil_iff.1 htext.nonempty) htext.feed_free
  | cons hbody _ ih =>
    cases hrewritten with
    | cons hother hrest =>
      cases hother with
      | same => exact .cons hbody (ih hrest)
      | text htext =>
        rw [rewrite, ending_feed]
        exact .cons htext.feed_free (ih hrest)

theorem rewritten_rewriteAll {raws : List Bytes} {texts : List Text}
    (hlength : texts.length = raws.length) (h : ∀ text ∈ texts, IsLineText text) :
    List.Forall₂ Rewritten raws (rewriteAll raws texts) := by
  induction raws generalizing texts with
  | nil =>
    rw [List.eq_nil_of_length_eq_zero hlength]
    exact .nil
  | cons raw raws ih =>
    cases texts with
    | nil => cases hlength
    | cons text texts =>
      obtain ⟨htext, hrest⟩ := List.forall_mem_cons.1 h
      exact .cons (.text raw htext) (ih (Nat.succ.inj hlength) hrest)

theorem split_rewriteAll {data : Bytes} {before group after : List Bytes} {texts : List Text}
    (hsplit : split data = before ++ group ++ after) (hlength : texts.length = group.length)
    (h : ∀ text ∈ texts, IsLineText text) :
    split (before ++ rewriteAll group texts ++ after).flatten =
      before ++ rewriteAll group texts ++ after := by
  have hcut := isCut_split data
  rw [hsplit] at hcut
  have hsame (raws : List Bytes) : List.Forall₂ Rewritten raws raws :=
    List.forall₂_same.2 fun raw _ => .same raw
  exact split_flatten (hcut.of_rewritten
    (List.rel_append (List.rel_append (hsame before) (rewritten_rewriteAll hlength h))
      (hsame after)))

end Line
end SuffixLint
