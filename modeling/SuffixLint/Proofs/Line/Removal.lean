import SuffixLint.Proofs.Line.Numbering
import SuffixLint.Proofs.Line.Rewrite
import SuffixLint.Proofs.Registry.Renumber

namespace SuffixLint.Line

variable (deleted : Nat → Bool)

/-- How many of the lines up to a number are kept. That is the new number of a line that is kept. -/
def place : Nat → Nat
  | 0 => 0
  | n + 1 => place n + if deleted (n + 1) then 0 else 1

def keptAfter (n : Nat) : List Bytes → List Bytes
  | [] => []
  | raw :: rest => (if deleted (n + 1) then [] else [raw]) ++ keptAfter (n + 1) rest

/-- A registry with some of its lines taken out. -/
def without (data : Bytes) : Bytes := (keptAfter deleted 0 (split data)).flatten

/-- The lines that are kept, each with its new number. -/
def kept (lines : List Line) : List Line :=
  (lines.filter (!deleted ·.number)).map (·.renumber (place deleted))

theorem kept_append (a b : List Line) :
    kept deleted (a ++ b) = kept deleted a ++ kept deleted b := by
  rw [kept, List.filter_append, List.map_append]
  rfl

variable {deleted}

theorem place_succ_of_deleted {n : Nat} (h : deleted (n + 1) = true) :
    place deleted (n + 1) = place deleted n := by
  rw [place, if_pos h, Nat.add_zero]

theorem place_succ_of_kept {n : Nat} (h : deleted (n + 1) = false) :
    place deleted (n + 1) = place deleted n + 1 := by
  rw [place, h, if_neg Bool.false_ne_true]

theorem kept_cons_of_deleted {line : Line} (h : deleted line.number = true) (rest : List Line) :
    kept deleted (line :: rest) = kept deleted rest := by
  rw [kept, List.filter_cons_of_neg (by simpa using h), kept]

theorem kept_cons_of_kept {line : Line} (h : deleted line.number = false) (rest : List Line) :
    kept deleted (line :: rest) = line.renumber (place deleted) :: kept deleted rest := by
  rw [kept, List.filter_cons_of_pos (by simpa using h), List.map_cons, kept]

theorem kept_append_of_deleted {line : Line} (h : deleted line.number = true)
    (lines : List Line) : kept deleted (lines ++ [line]) = kept deleted lines := by
  rw [kept_append, kept_cons_of_deleted h]
  exact List.append_nil _

theorem kept_append_of_kept {line : Line} (h : deleted line.number = false) (lines : List Line) :
    kept deleted (lines ++ [line]) =
      kept deleted lines ++ [line.renumber (place deleted)] := by
  rw [kept_append, kept_cons_of_kept h]
  rfl

theorem IsCut.sublist {raws others : List Bytes} (h : IsCut raws) (hsub : others.Sublist raws) :
    IsCut others := by
  induction h generalizing others with
  | nil =>
    rw [List.sublist_nil.1 hsub]
    exact .nil
  | @last body hne hbody =>
    cases hsub with
    | cons _ hrest =>
      rw [List.sublist_nil.1 hrest]
      exact .nil
    | cons_cons _ hrest =>
      rw [List.sublist_nil.1 hrest]
      exact .last hne hbody
  | cons hbody _ ih =>
    cases hsub with
    | cons _ hrest => exact ih hrest
    | cons_cons _ hrest => exact .cons hbody (ih hrest)

theorem keptAfter_sublist (n : Nat) (raws : List Bytes) :
    (keptAfter deleted n raws).Sublist raws := by
  induction raws generalizing n with
  | nil => exact .slnil
  | cons raw rest ih =>
    rw [keptAfter]
    split
    · exact (ih (n + 1)).cons raw
    · exact (ih (n + 1)).cons_cons raw

theorem split_without (data : Bytes) :
    split (without deleted data) = keptAfter deleted 0 (split data) :=
  split_flatten ((isCut_split data).sublist (keptAfter_sublist 0 _))

theorem numberFrom_keptAfter (n : Nat) (raws : List Bytes) :
    numberFrom (place deleted n + 1) (keptAfter deleted n raws) =
      kept deleted (numberFrom (n + 1) raws) := by
  induction raws generalizing n with
  | nil => rfl
  | cons raw rest ih =>
    -- Both numberings go on from the next line: the old one always, the new one if it is kept.
    have hrest := ih (n + 1)
    rw [numberFrom, keptAfter]
    cases hdeleted : deleted (n + 1) with
    | true =>
      rw [place_succ_of_deleted hdeleted] at hrest
      rw [kept_cons_of_deleted hdeleted]
      exact hrest
    | false =>
      have hline : ofBytes (place deleted n + 1) raw =
          (ofBytes (n + 1) raw).renumber (place deleted) := by
        rw [← place_succ_of_kept hdeleted]
        rfl
      rw [place_succ_of_kept hdeleted] at hrest
      rw [kept_cons_of_kept hdeleted, ← hrest, ← hline]
      rfl

theorem ofData_without (deleted : Nat → Bool) (data : Bytes) :
    ofData (without deleted data) = kept deleted (ofData data) := by
  rw [ofData, split_without]
  exact numberFrom_keptAfter 0 (split data)

theorem place_add_length (deleted : Nat → Bool) (n : Nat) (raws : List Bytes) :
    place deleted (n + raws.length) = place deleted n + (keptAfter deleted n raws).length := by
  induction raws generalizing n with
  | nil => rfl
  | cons raw rest ih =>
    have hrest : place deleted (n + (raw :: rest).length) =
        place deleted (n + 1) + (keptAfter deleted (n + 1) rest).length := by
      rw [← ih, List.length_cons, Nat.add_assoc, Nat.add_comm 1]
    rw [hrest, keptAfter]
    cases hdeleted : deleted (n + 1) with
    | true =>
      rw [place_succ_of_deleted hdeleted]
      rfl
    | false =>
      rw [place_succ_of_kept hdeleted, Nat.add_assoc, Nat.add_comm 1]
      rfl

/-- The last line has the place of the last line that is kept, if one is. -/
theorem place_length_ofData (data : Bytes) :
    place deleted (ofData data).length = (ofData (without deleted data)).length := by
  have hplace := place_add_length deleted 0 (split data)
  rw [Nat.zero_add, place, Nat.zero_add] at hplace
  rw [ofData, length_numberFrom, hplace, ofData, split_without, length_numberFrom]

theorem length_kept (lines : List Line) :
    (kept deleted lines).length + lines.countP (deleted ·.number) = lines.length := by
  have hsplit := List.length_eq_countP_add_countP (deleted ·.number) (l := lines)
  rw [kept, List.length_map, ← List.countP_eq_length_filter, hsplit, Nat.add_comm]
  simp only [Bool.not_eq_true, Bool.decide_eq_false]

end SuffixLint.Line
