import SuffixLint.Text.Lowercase

namespace SuffixLint.Text

/-- A mapping to small letters: that of single characters, which loses none, and that of a capital
sigma between two texts, of which the first is reversed. -/
structure CaseMapping where
  letters : Char → Text
  sigma : Text → Text → Text
  letters_ne_nil : ∀ c, letters c ≠ []
  sigma_eq : ∀ before rest, sigma before rest = ['ς'] ∨ sigma before rest = ['σ']

namespace CaseMapping

variable (mapping : CaseMapping)

def between (before : Text) (c : Char) (rest : Text) : Text :=
  if c = capitalSigma then mapping.sigma before rest else mapping.letters c

def apply (before : Text) : Text → Text
  | [] => []
  | c :: rest => mapping.between before c rest ++ apply (c :: before) rest

def Keeps (c : Char) : Prop := c ≠ capitalSigma ∧ mapping.letters c = [c]

variable {mapping}

theorem between_ne_nil (before : Text) (c : Char) (rest : Text) :
    mapping.between before c rest ≠ [] := by
  by_cases hsigma : c = capitalSigma
  · rw [between, if_pos hsigma]
    rcases mapping.sigma_eq before rest with h | h
    · exact h ▸ List.cons_ne_nil _ _
    · exact h ▸ List.cons_ne_nil _ _
  · rw [between, if_neg hsigma]
    exact mapping.letters_ne_nil c

/-- No neighbours make a character its own small letter, or keep it from being that. -/
theorem between_eq_self_iff (before : Text) (c : Char) (rest : Text) :
    mapping.between before c rest = [c] ↔ mapping.Keeps c := by
  by_cases hsigma : c = capitalSigma
  · subst hsigma
    refine iff_of_false (fun h => ?_) (fun h => h.1 rfl)
    rw [between, if_pos rfl] at h
    rcases mapping.sigma_eq before rest with he | he
    · exact absurd (he.symm.trans h) (by decide)
    · exact absurd (he.symm.trans h) (by decide)
  · rw [between, if_neg hsigma]
    exact (and_iff_right hsigma).symm

theorem length_le_length_apply (before text : Text) :
    text.length ≤ (mapping.apply before text).length := by
  induction text generalizing before with
  | nil => exact Nat.zero_le _
  | cons c rest ih =>
    have hfirst := List.length_pos_iff.2 (mapping.between_ne_nil before c rest)
    have hrest := ih (c :: before)
    rw [apply, List.length_append, List.length_cons]
    omega

theorem apply_eq_self_iff (before text : Text) :
    mapping.apply before text = text ↔ ∀ c ∈ text, mapping.Keeps c := by
  induction text generalizing before with
  | nil => exact iff_of_true rfl (fun _ h => nomatch h)
  | cons c rest ih =>
    rw [List.forall_mem_cons, ← ih (c :: before), ← between_eq_self_iff before c rest, apply]
    constructor
    · -- No character is lost, so one that became two would make the text longer.
      intro h
      have hsplit : mapping.between before c rest ++ mapping.apply (c :: before) rest =
          [c] ++ rest := h
      have hlength := congrArg List.length h
      rw [List.length_append, List.length_cons] at hlength
      have hfirst := List.length_pos_iff.2 (mapping.between_ne_nil before c rest)
      have hrest := mapping.length_le_length_apply (c :: before) rest
      apply List.append_inj hsplit
      rw [List.length_singleton]
      omega
    · intro h
      rw [h.1, h.2]
      rfl

/-- Whether a text is in small letters already can be asked of two parts of it, for any mapping. -/
theorem apply_append_eq_self_iff (front back : Text) :
    mapping.apply [] (front ++ back) = front ++ back ↔
      mapping.apply [] front = front ∧ mapping.apply [] back = back := by
  rw [apply_eq_self_iff, apply_eq_self_iff, apply_eq_self_iff]
  exact List.forall_mem_append

/-- The mapping of Unicode, which looks for the letters around a capital sigma. -/
def unicode : CaseMapping where
  letters := smallLetters
  sigma before rest := if startsCased before && !startsCased rest then ['ς'] else ['σ']
  letters_ne_nil := smallLetters_ne_nil
  sigma_eq before rest := by
    split
    · exact .inl rfl
    · exact .inr rfl

end CaseMapping

open CaseMapping (unicode)

theorem lowercaseAfter_eq (before text : Text) :
    lowercaseAfter before text = unicode.apply before text := by
  induction text generalizing before with
  | nil => rfl
  | cons c rest ih =>
    rw [lowercaseAfter, ih]
    rfl

theorem isLowercase_eq_true_iff (text : Text) :
    isLowercase text = true ↔ unicode.apply [] text = text := by
  rw [isLowercase, beq_iff_eq, lowercase, lowercaseAfter_eq]

/-- The small letters of a character that stands alone. -/
def ownSmallLetters (c : Char) : Text := if c = capitalSigma then ['σ'] else smallLetters c

theorem lowercase_singleton (c : Char) : lowercase [c] = ownSmallLetters c := by
  rw [lowercase, lowercaseAfter, lowercaseAfter, List.append_nil]
  rfl

theorem ownSmallLetters_eq_self_iff (c : Char) :
    ownSmallLetters c = [c] ↔ unicode.Keeps c :=
  unicode.between_eq_self_iff [] c []

theorem isLowercase_iff (text : Text) :
    isLowercase text = true ↔ ∀ c ∈ text, ownSmallLetters c = [c] := by
  simp only [isLowercase_eq_true_iff, CaseMapping.apply_eq_self_iff, ownSmallLetters_eq_self_iff]

theorem isLowercase_append (front back : Text) :
    isLowercase (front ++ back) = true ↔ isLowercase front = true ∧ isLowercase back = true := by
  simp only [isLowercase_eq_true_iff]
  exact CaseMapping.apply_append_eq_self_iff front back

end SuffixLint.Text
