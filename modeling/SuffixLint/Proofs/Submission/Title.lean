import Mathlib.Computability.Language
import SuffixLint.Proofs.Submission.Scan
import SuffixLint.Proofs.Text.Trim

namespace SuffixLint

open scoped Computability

namespace Text

def oneOf (p : Char → Prop) : Language Char := {word | ∃ c, p c ∧ word = [c]}

theorem mem_kstar_oneOf {p : Char → Prop} {word : Text} :
    word ∈ (oneOf p)∗ ↔ ∀ c ∈ word, p c := by
  rw [Language.mem_kstar]
  constructor
  · rintro ⟨words, rfl, hwords⟩ c hc
    obtain ⟨word, hword, hc⟩ := List.mem_flatten.1 hc
    obtain ⟨other, hp, rfl⟩ := hwords word hword
    exact List.mem_singleton.1 hc ▸ hp
  · intro h
    refine ⟨word.map fun c => [c], (List.flatMap_singleton' word).symm, ?_⟩
    intro part hpart
    obtain ⟨c, hc, rfl⟩ := List.mem_map.1 hpart
    exact ⟨c, h c hc, rfl⟩

theorem mem_kstar_oneOf_ne {c : Char} {word : Text} : word ∈ (oneOf (· ≠ c))∗ ↔ c ∉ word := by
  rw [mem_kstar_oneOf]
  exact List.forall_mem_ne'

end Text

namespace Submission

/-- The words that a header starts with: `// .* *: *https?://.*`, where a point is any character but
a line feed. -/
def headerPattern : Language Char :=
  {"// ".toList} * (Text.oneOf (· ≠ '\n'))∗ * (Text.oneOf (· = ' '))∗ * {":".toList} *
    (Text.oneOf (· = ' '))∗ * {"http".toList} * (1 + {"s".toList}) * {"://".toList} *
    (Text.oneOf (· ≠ '\n'))∗

/-- A text taken apart as a header: a colon on the first line, spaces, and an address of the web. -/
structure HeaderForm (text before spaces scheme rest : Text) : Prop where
  text_eq : text = "// ".toList ++ before ++ ":".toList ++ spaces ++ scheme ++ rest
  one_line : '\n' ∉ before
  blank : ∀ c ∈ spaces, c = ' '
  scheme : scheme = "http://".toList ∨ scheme = "https://".toList

theorem mem_headerPattern_iff {word : Text} :
    word ∈ headerPattern ↔
      ∃ name gap spaces secure host : Text, '\n' ∉ name ∧ (∀ c ∈ gap, c = ' ') ∧
        (∀ c ∈ spaces, c = ' ') ∧ (secure = [] ∨ secure = "s".toList) ∧ '\n' ∉ host ∧
        word = "// ".toList ++ name ++ gap ++ ":".toList ++ spaces ++ "http".toList ++ secure ++
          "://".toList ++ host := by
  constructor
  · intro hword
    -- The factors are taken off from the last one on.
    obtain ⟨_, haddressed, host, hhost, rfl⟩ := Language.mem_mul.1 hword
    obtain ⟨_, hsecured, _, rfl, rfl⟩ := Language.mem_mul.1 haddressed
    obtain ⟨_, hhttp, secure, hsecure, rfl⟩ := Language.mem_mul.1 hsecured
    obtain ⟨_, hspaced, _, rfl, rfl⟩ := Language.mem_mul.1 hhttp
    obtain ⟨_, hcolon, spaces, hspaces, rfl⟩ := Language.mem_mul.1 hspaced
    obtain ⟨_, hgapped, _, rfl, rfl⟩ := Language.mem_mul.1 hcolon
    obtain ⟨_, hnamed, gap, hgap, rfl⟩ := Language.mem_mul.1 hgapped
    obtain ⟨_, rfl, name, hname, rfl⟩ := Language.mem_mul.1 hnamed
    exact ⟨name, gap, spaces, secure, host, Text.mem_kstar_oneOf_ne.1 hname,
      Text.mem_kstar_oneOf.1 hgap, Text.mem_kstar_oneOf.1 hspaces, hsecure,
      Text.mem_kstar_oneOf_ne.1 hhost, rfl⟩
  · rintro ⟨name, gap, spaces, secure, host, hname, hgap, hspaces, hsecure, hhost, rfl⟩
    refine Language.append_mem_mul ?_ (Text.mem_kstar_oneOf_ne.2 hhost)
    refine Language.append_mem_mul ?_ rfl
    refine Language.append_mem_mul ?_ hsecure
    refine Language.append_mem_mul ?_ rfl
    refine Language.append_mem_mul ?_ (Text.mem_kstar_oneOf.2 hspaces)
    refine Language.append_mem_mul ?_ rfl
    refine Language.append_mem_mul ?_ (Text.mem_kstar_oneOf.2 hgap)
    exact Language.append_mem_mul rfl (Text.mem_kstar_oneOf_ne.2 hname)

theorem exists_match_iff {text : Text} :
    (∃ matched, matched <+: text ∧ matched ∈ headerPattern) ↔
      ∃ before spaces scheme rest, HeaderForm text before spaces scheme rest := by
  constructor
  · rintro ⟨_, ⟨behind, rfl⟩, hmatched⟩
    obtain ⟨name, gap, spaces, secure, host, hname, hgap, hspaces, hsecure, -, rfl⟩ :=
      mem_headerPattern_iff.1 hmatched
    refine ⟨name ++ gap, spaces, "http".toList ++ secure ++ "://".toList, host ++ behind, ?_⟩
    constructor
    case text_eq => simp only [List.append_assoc]
    case one_line =>
      rw [List.mem_append, not_or]
      exact ⟨hname, fun h => absurd (hgap _ h) (by decide)⟩
    case blank => exact hspaces
    case scheme =>
      rcases hsecure with rfl | rfl
      · exact .inl rfl
      · exact .inr rfl
  · rintro ⟨before, spaces, scheme, rest, h⟩
    obtain ⟨secure, hsecure, hscheme⟩ : ∃ secure : Text, (secure = [] ∨ secure = "s".toList) ∧
        scheme = "http".toList ++ secure ++ "://".toList := by
      rcases h.scheme with rfl | rfl
      · exact ⟨[], .inl rfl, rfl⟩
      · exact ⟨"s".toList, .inr rfl, rfl⟩
    refine ⟨"// ".toList ++ before ++ ":".toList ++ spaces ++ scheme, ⟨rest, h.text_eq.symm⟩, ?_⟩
    refine mem_headerPattern_iff.2 ⟨before, [], spaces, secure, [], h.one_line,
      fun _ hc => absurd hc List.not_mem_nil, h.blank, hsecure, List.not_mem_nil, ?_⟩
    rw [hscheme]
    simp only [List.append_assoc, List.append_nil]

theorem startsWithAddress_iff {text : Text} :
    startsWithAddress text = true ↔
      ∃ scheme rest, (scheme = "http://".toList ∨ scheme = "https://".toList) ∧
        text = scheme ++ rest := by
  rw [startsWithAddress, Bool.or_eq_true, List.isPrefixOf_iff_prefix, List.isPrefixOf_iff_prefix]
  constructor
  · rintro (⟨rest, rfl⟩ | ⟨rest, rfl⟩)
    · exact ⟨_, rest, .inl rfl, rfl⟩
    · exact ⟨_, rest, .inr rfl, rfl⟩
  · rintro ⟨scheme, rest, rfl | rfl, rfl⟩
    · exact .inl ⟨rest, rfl⟩
    · exact .inr ⟨rest, rfl⟩

theorem head?_of_startsWithAddress {text : Text} (h : startsWithAddress text = true) :
    text.head? = some 'h' := by
  obtain ⟨scheme, rest, rfl | rfl, rfl⟩ := startsWithAddress_iff.1 h
  · rfl
  · rfl

theorem dropWhile_space_append {spaces address : Text} (blank : ∀ c ∈ spaces, c = ' ')
    (h : startsWithAddress address = true) :
    (spaces ++ address).dropWhile (· = ' ') = address := by
  have hspaces : ∀ c ∈ spaces, decide (c = ' ') = true := by
    intro c hc
    exact decide_eq_true (blank c hc)
  rw [List.dropWhile_append_of_pos hspaces]
  have hfirst := head?_of_startsWithAddress h
  cases address with
  | nil => cases hfirst
  | cons c address =>
    obtain rfl := Option.some.inj hfirst
    exact List.dropWhile_cons_of_neg (by decide)

theorem announcesAddress_iff {text : Text} :
    announcesAddress text = true ↔
      ∃ before spaces address, '\n' ∉ before ∧ (∀ c ∈ spaces, c = ' ') ∧
        startsWithAddress address = true ∧ text = before ++ ':' :: (spaces ++ address) := by
  induction text with
  | nil =>
    refine iff_of_false Bool.false_ne_true ?_
    rintro ⟨before, spaces, address, _, _, _, h⟩
    exact absurd h.symm (by simp)
  | cons c text ih =>
    rw [announcesAddress]
    split
    · next hfeed =>
      refine iff_of_false Bool.false_ne_true ?_
      rintro ⟨before, spaces, address, hline, _, _, h⟩
      subst hfeed
      cases before with
      | nil => exact absurd (List.cons.inj h).1 (by decide)
      | cons first before => exact hline ((List.cons.inj h).1 ▸ List.mem_cons_self)
    · next hfeed =>
      rw [Bool.or_eq_true, Bool.and_eq_true, decide_eq_true_eq, ih]
      constructor
      · rintro (⟨rfl, haddress⟩ | ⟨before, spaces, address, hline, hblank, haddress, rfl⟩)
        · refine ⟨[], text.takeWhile (· = ' '), _, List.not_mem_nil, ?_, haddress, ?_⟩
          · intro c hc
            simpa using List.mem_takeWhile_imp hc
          · rw [List.takeWhile_append_dropWhile, List.nil_append]
        · exact ⟨c :: before, spaces, address,
            List.not_mem_cons_of_ne_of_not_mem (Ne.symm hfeed) hline, hblank, haddress, rfl⟩
      · rintro ⟨before, spaces, address, hline, hblank, haddress, h⟩
        cases before with
        | nil =>
          obtain ⟨rfl, rfl⟩ := List.cons.inj h
          rw [dropWhile_space_append hblank haddress]
          exact .inl ⟨rfl, haddress⟩
        | cons first before =>
          obtain ⟨rfl, rfl⟩ := List.cons.inj h
          exact .inr ⟨before, spaces, address, fun hm => hline (List.mem_cons_of_mem _ hm), hblank,
            haddress, rfl⟩

theorem isHeader_iff_exists_form {text : Text} :
    isHeader text = true ↔
      ∃ before spaces scheme rest, HeaderForm text before spaces scheme rest := by
  have hstart : isHeader text = true ↔
      ∃ rest, headerStart ++ rest = text ∧ announcesAddress rest = true := by
    rw [isHeader]
    cases h : headerStart.isPrefixOf? text with
    | none => simp [← List.isPrefixOf?_eq_some_iff_append_eq, h]
    | some rest => simp [← List.isPrefixOf?_eq_some_iff_append_eq, h]
  rw [hstart]
  constructor
  · rintro ⟨_, rfl, h⟩
    obtain ⟨before, spaces, address, hline, hblank, haddress, rfl⟩ := announcesAddress_iff.1 h
    obtain ⟨scheme, rest, hscheme, rfl⟩ := startsWithAddress_iff.1 haddress
    refine ⟨before, spaces, scheme, rest, ?_, hline, hblank, hscheme⟩
    simp [headerStart]
  · rintro ⟨before, spaces, scheme, rest, h⟩
    refine ⟨before ++ ':' :: (spaces ++ (scheme ++ rest)), ?_, announcesAddress_iff.2 ?_⟩
    · simp [headerStart, h.text_eq]
    · exact ⟨before, spaces, _, h.one_line, h.blank,
        startsWithAddress_iff.2 ⟨scheme, rest, h.scheme, rfl⟩, rfl⟩

theorem takeWhile_ne_append_cons {c : Char} {front back : Text} (h : c ∉ front) :
    (front ++ c :: back).takeWhile (· ≠ c) = front := by
  have hfront : ∀ x ∈ front, decide (x ≠ c) = true := by
    intro x hx
    exact decide_eq_true fun he => h (he ▸ hx)
  rw [List.takeWhile_append_of_pos hfront, List.takeWhile_cons_of_neg (by simp), List.append_nil]

theorem titleOf?_of_isHeader {part behind : Text} (hfree : ':' ∉ part)
    (h : isHeader ("//".toList ++ part ++ ':' :: behind) = true) :
    titleOf? ("//".toList ++ part ++ ':' :: behind) = some (Text.trim part) := by
  have hdrop : ("//".toList ++ part ++ ':' :: behind).drop Line.commentMark.length =
      part ++ ':' :: behind := by
    rw [List.append_assoc]
    exact List.drop_left
  rw [titleOf?, if_pos h, hdrop, takeWhile_ne_append_cons hfree]

namespace HeaderForm

variable {text before spaces scheme rest : Text}

theorem exists_behind (h : HeaderForm text before spaces scheme rest) :
    ∃ behind,
      text = "//".toList ++ (' ' :: before.takeWhile (· ≠ ':')) ++ ':' :: behind := by
  by_cases hcolon : ':' ∈ before
  · obtain ⟨name, others, he, hfree⟩ := List.eq_append_cons_of_mem hcolon
    refine ⟨others ++ ':' :: (spaces ++ scheme ++ rest), ?_⟩
    rw [h.text_eq, he, takeWhile_ne_append_cons hfree]
    simp
  · have hall : before.takeWhile (· ≠ ':') = before := by
      rw [List.takeWhile_eq_self_iff]
      intro c hc
      exact decide_eq_true fun heq => hcolon (heq ▸ hc)
    refine ⟨spaces ++ scheme ++ rest, ?_⟩
    rw [h.text_eq, hall]
    simp

theorem colon_not_mem_part : ':' ∉ ' ' :: before.takeWhile (· ≠ ':') := by
  refine List.not_mem_cons_of_ne_of_not_mem (by decide) fun hm => ?_
  simpa using List.mem_takeWhile_imp hm

theorem titleOf?_eq (h : HeaderForm text before spaces scheme rest) :
    titleOf? text = some (Text.trim (' ' :: before.takeWhile (· ≠ ':'))) := by
  have hheader : isHeader text = true := isHeader_iff_exists_form.2 ⟨_, _, _, _, h⟩
  obtain ⟨behind, he⟩ := h.exists_behind
  rw [he] at hheader ⊢
  exact titleOf?_of_isHeader colon_not_mem_part hheader

end HeaderForm

/-- A text has a title exactly where it has the form of a header, which is where it starts with a
word of the pattern. The title is what stands between the slashes and the first colon, trimmed,
whichever colon the address follows. -/
theorem titleOf?_recognises (text : Text) :
    ((titleOf? text).isSome = true ↔
      ∃ before spaces scheme rest, HeaderForm text before spaces scheme rest) ∧
    ((titleOf? text).isSome = true ↔ ∃ matched, matched <+: text ∧ matched ∈ headerPattern) ∧
    (∀ title, titleOf? text = some title →
      ∃ part behind, text = "//".toList ++ part ++ ':' :: behind ∧ ':' ∉ part ∧
        title = Text.trim part ∧ Text.IsTrimOf part title ∧ ':' ∉ title ∧ '\n' ∉ title) ∧
    ∀ before spaces scheme rest, HeaderForm text before spaces scheme rest →
      titleOf? text = some (Text.trim (before.takeWhile (· ≠ ':'))) := by
  have hform : (titleOf? text).isSome = true ↔
      ∃ before spaces scheme rest, HeaderForm text before spaces scheme rest := by
    rw [Line.isSome_titleOf?, isHeader_iff_exists_form]
  refine ⟨hform, hform.trans exists_match_iff.symm, ?title, ?independent⟩
  case title =>
    intro title htitle
    obtain ⟨before, spaces, scheme, rest, h⟩ := hform.1 (Option.isSome_of_eq_some htitle)
    obtain ⟨behind, he⟩ := h.exists_behind
    rw [h.titleOf?_eq] at htitle
    obtain rfl := Option.some.inj htitle
    have htrim := Text.isTrimOf_trim (' ' :: before.takeWhile (· ≠ ':'))
    refine ⟨_, behind, he, HeaderForm.colon_not_mem_part, rfl, htrim, ?_, ?_⟩
    · exact fun hm => HeaderForm.colon_not_mem_part (htrim.sublist.subset hm)
    · intro hm
      rcases List.mem_cons.1 (htrim.sublist.subset hm) with hm | hm
      · exact absurd hm (by decide)
      · exact h.one_line ((List.takeWhile_sublist _).subset hm)
  case independent =>
    intro before spaces scheme rest h
    exact h.titleOf?_eq

/-- A header that can be taken apart at two of its colons, neither of them the first. -/
theorem titleOf?_recognises_two_addresses :
    let text := "// a:b :  http://c:https://d\ne".toList
    HeaderForm text "a:b ".toList "  ".toList "http://".toList "c:https://d\ne".toList ∧
      HeaderForm text "a:b :  http://c".toList [] "https://".toList "d\ne".toList ∧
      titleOf? text = some "a".toList ∧
      ∃ matched, matched <+: text ∧ matched ∈ headerPattern := by
  intro text
  have hfirst :
      HeaderForm text "a:b ".toList "  ".toList "http://".toList "c:https://d\ne".toList :=
    ⟨by decide, by decide, fun _ => List.eq_of_mem_replicate (n := 2), by decide⟩
  have hsecond :
      HeaderForm text "a:b :  http://c".toList [] "https://".toList "d\ne".toList :=
    ⟨by decide, by decide, fun _ hc => absurd hc List.not_mem_nil, by decide⟩
  obtain ⟨hform, hmatch, _, htitle⟩ := titleOf?_recognises text
  refine ⟨hfirst, hsecond, ?_, hmatch.1 (hform.2 ⟨_, _, _, _, hfirst⟩)⟩
  exact (htitle _ _ _ _ hsecond).trans (by decide)

end Submission
end SuffixLint
