import SuffixLint.Glob.Expansion

namespace SuffixLint.Glob

/-- Whether a character stands for itself in a pattern. -/
def isPlain (c : Char) : Bool := c != '?' && c != '*' && c != '['

variable {position other : Nat} {before : Option Char} {text name front : Text}
  {tokens : List Token} {c : Char}

theorem parseFrom_cons_of_isPlain (h : isPlain c = true) :
    parseFrom position before (c :: text) =
      (parseFrom (position + 1) (some c) text).map (.char c :: ·) := by
  rw [isPlain, Bool.and_eq_true, Bool.and_eq_true, bne_iff_ne, bne_iff_ne, bne_iff_ne] at h
  obtain ⟨⟨hany, hstar⟩, hbracket⟩ := h
  rw [parseFrom]
  · rfl
  · exact hany
  · exact hstar
  · exact hbracket

theorem parseFrom_eq_of_isPlain (h : ∀ c ∈ name, isPlain c = true) :
    parseFrom position before name = .ok (name.map .char) := by
  induction name generalizing position before with
  | nil => rw [parseFrom, List.map_nil]
  | cons c name ih =>
    obtain ⟨hc, hname⟩ := List.forall_mem_cons.1 h
    rw [parseFrom_cons_of_isPlain hc, ih hname]
    rfl

/-- Whether a name starts after a character, so that recursive stars may stand there. -/
def startsName (before : Option Char) : Bool := !(before.isSome && before != some Path.separator)

theorem toOption_cons (token : Token) (rest : Except PatternError (List Token)) :
    (do return token :: (← rest) : Except PatternError (List Token)).toOption =
      rest.toOption.map (token :: ·) := by
  cases rest <;> rfl

theorem toOption_parseFrom_any :
    (parseFrom position before ('?' :: text)).toOption =
      (parseFrom (position + 1) (some '?') text).toOption.map (.anyChar :: ·) := by
  rw [parseFrom, toOption_cons]

theorem toOption_parseFrom_star :
    (parseFrom position before ('*' :: text)).toOption =
      if (text.takeWhile (· = '*')).length = 0 then
        (parseFrom (position + 1) (some '*') text).toOption.map (.anyText :: ·)
      else if 1 < (text.takeWhile (· = '*')).length || !startsName before then none
      else
        match text.dropWhile (· = '*') with
        | [] => some [.anyDirectories]
        | c :: after =>
          if c = Path.separator then
            (parseFrom (position + 3) (some c) after).toOption.map (.anyDirectories :: ·)
          else none := by
  rw [parseFrom, startsName, Bool.not_not]
  split
  · rw [toOption_cons]
  · split
    · next h => simp [h, Except.toOption]
    · next h =>
      split
      · next hbefore => simp [hbefore, Except.toOption]
      · next hbefore =>
        rw [if_neg (by simpa [h] using hbefore)]
        split
        · next hdrop => rw [hdrop]; rfl
        · next hdrop =>
          split
          · next hc =>
            refine (toOption_cons ..).trans ?_
            rw [hdrop]
            exact (if_pos hc).symm
          · next hc =>
            rw [hdrop]
            exact (if_neg hc).symm

theorem toOption_parseFrom_bracket :
    (parseFrom position before ('[' :: text)).toOption =
      match bracketed? text with
      | none => none
      | some (token, taken, after) =>
        (parseFrom (position + 1 + taken) (some ']') after).toOption.map (token :: ·) := by
  rw [parseFrom]
  split
  · next h => rw [h]; rfl
  · next h =>
    refine (toOption_cons ..).trans ?_
    rw [h]

theorem toOption_parseFrom_plain (h : isPlain c = true) :
    (parseFrom position before (c :: text)).toOption =
      (parseFrom (position + 1) (some c) text).toOption.map (.char c :: ·) := by
  rw [parseFrom_cons_of_isPlain h]
  cases parseFrom (position + 1) (some c) text <;> rfl

theorem eq_or_eq_of_not_isPlain (h : ¬ isPlain c = true) : c = '?' ∨ c = '*' ∨ c = '[' := by
  simpa [isPlain, Classical.or_iff_not_imp_left] using h

/-- What is read does not depend on the position, nor on what is in front but for whether a name
starts there. -/
theorem toOption_parseFrom_eq {before' : Option Char}
    (h : startsName before = startsName before') :
    (parseFrom position before text).toOption = (parseFrom other before' text).toOption := by
  induction hsize : text.length using Nat.strongRecOn
    generalizing text position other before before' with
  | ind size ih =>
  subst hsize
  cases text with
  | nil => rw [parseFrom, parseFrom]
  | cons c rest =>
    have hrest (shorter : Text) (hlt : shorter.length ≤ rest.length) (position other before) :
        (parseFrom position before shorter).toOption = (parseFrom other before shorter).toOption :=
      ih shorter.length (Nat.lt_succ_of_le hlt) rfl rfl
    by_cases hc : isPlain c = true
    · rw [toOption_parseFrom_plain hc, toOption_parseFrom_plain hc, hrest rest (Nat.le_refl _)]
    · rcases eq_or_eq_of_not_isPlain hc with rfl | rfl | rfl
      · rw [toOption_parseFrom_any, toOption_parseFrom_any, hrest rest (Nat.le_refl _)]
      · rw [toOption_parseFrom_star, toOption_parseFrom_star, h, hrest rest (Nat.le_refl _)]
        split
        · rfl
        · split
          · rfl
          · split
            · rfl
            · next c after hdrop =>
              have hlength := (List.dropWhile_suffix (· = '*') (l := rest)).length_le
              rw [hdrop, List.length_cons] at hlength
              rw [hrest after (Nat.le_of_succ_le hlength)]
      · rw [toOption_parseFrom_bracket, toOption_parseFrom_bracket]
        split
        · rfl
        · next hbracket => rw [hrest _ (Nat.le_of_lt (length_of_bracketed? hbracket))]

/-- Plain characters in front of a separator leave no trace on what follows it. -/
theorem toOption_parseFrom_append (h : ∀ c ∈ front, isPlain c = true) :
    (parseFrom position before (front ++ Path.separator :: text)).toOption =
      (parse text).toOption.map (front.map .char ++ .char Path.separator :: ·) := by
  induction front generalizing position before with
  | nil =>
    rw [List.nil_append, toOption_parseFrom_plain (by decide), parse]
    exact congrArg _ (toOption_parseFrom_eq (by decide))
  | cons c front ih =>
    obtain ⟨hc, hfront⟩ := List.forall_mem_cons.1 h
    rw [List.cons_append, toOption_parseFrom_plain hc, ih hfront, Option.map_map]
    rfl

theorem exists_parse_append_iff (h : ∀ c ∈ front, isPlain c = true) :
    (∃ tokens, parse (front ++ Path.separator :: text) = .ok tokens) ↔
      ∃ tokens, parse text = .ok tokens := by
  have hread (text : Text) : (∃ tokens, parse text = .ok tokens) ↔
      (parse text).toOption.isSome = true := by
    cases parse text <;> simp [Except.toOption]
  rw [hread, hread, parse, toOption_parseFrom_append h, Option.isSome_map]

theorem literal?_bracketed? {token : Token} {taken : Nat} {after : Text}
    (h : bracketed? text = some (token, taken, after)) :
    Step.literal? (token :: tokens) = none := by
  unfold bracketed? at h
  split at h
  · cases h
  · cases h
  · obtain ⟨_, _, he⟩ := Option.map_eq_some_iff.1 h
    cases he
    rfl
  · obtain ⟨_, _, he⟩ := Option.map_eq_some_iff.1 h
    cases he
    rfl

theorem eq_of_literal? (h : (parseFrom position before text).toOption = some tokens)
    (hname : Step.literal? tokens = some name) : name = text := by
  induction text generalizing position before tokens name with
  | nil =>
    rw [parseFrom] at h
    cases h
    exact (Option.some.inj hname).symm
  | cons c rest ih =>
    by_cases hc : isPlain c = true
    · rw [toOption_parseFrom_plain hc] at h
      obtain ⟨tail, htail, rfl⟩ := Option.map_eq_some_iff.1 h
      obtain ⟨name, htailName, rfl⟩ := Option.map_eq_some_iff.1 hname
      rw [ih htail htailName]
    · rcases eq_or_eq_of_not_isPlain hc with rfl | rfl | rfl
      · rw [toOption_parseFrom_any] at h
        obtain ⟨tail, _, rfl⟩ := Option.map_eq_some_iff.1 h
        cases hname
      · rw [toOption_parseFrom_star] at h
        split at h
        · obtain ⟨tail, _, rfl⟩ := Option.map_eq_some_iff.1 h
          cases hname
        · split at h
          · cases h
          · split at h
            · cases h
              cases hname
            · split at h
              · obtain ⟨tail, _, rfl⟩ := Option.map_eq_some_iff.1 h
                cases hname
              · cases h
      · rw [toOption_parseFrom_bracket] at h
        split at h
        · cases h
        · next hbracket =>
          obtain ⟨tail, _, rfl⟩ := Option.map_eq_some_iff.1 h
          cases (literal?_bracketed? hbracket).symm.trans hname

end SuffixLint.Glob
