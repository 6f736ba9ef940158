import Mathlib.Data.List.GetD
import SuffixLint.Proofs.Line.Numbering
import SuffixLint.Proofs.Linter.Run
import SuffixLint.Proofs.Registry.Renumber

namespace SuffixLint.Line

def isRuleIn (raw : Bytes) : Bool := (ofBytes 0 raw).isRule

theorem isRuleIn_iff (number : Nat) {raw : Bytes} :
    isRuleIn raw = true ↔ (ofBytes number raw).kind = .rule :=
  isRule_iff

/-- The rule lines of a registry, without their line feeds. -/
def ruleBodies (data : Bytes) : List Bytes := ((split data).filter isRuleIn).map body

/-- At which lines of a registry there are rules, or comments, or blanks. -/
def numbersOf (kind : LineKind) (data : Bytes) : List Nat :=
  ((ofData data).filter (·.kind = kind)).map (·.number)

/-- The number that has the place among others that a number has among its own. -/
def counterpart (numbers others : List Nat) (number : Nat) : Nat :=
  others.getD (numbers.idxOf number) 0

theorem map_counterpart {numbers others : List Nat} (distinct : numbers.Nodup)
    (hlength : numbers.length = others.length) :
    numbers.map (counterpart numbers others) = others := by
  apply List.ext_getElem
  · rw [List.length_map, hlength]
  · intro i hi hi'
    rw [List.length_map] at hi
    rw [List.getElem_map, counterpart, distinct.idxOf_getElem i hi]
    exact List.getD_eq_getElem _ _ hi'

theorem nodup_numbersOf (kind : LineKind) (data : Bytes) : (numbersOf kind data).Nodup := by
  have hfilter : Increasing ((ofData data).filter (·.kind = kind)) :=
    (increasing_ofData data).filter _
  exact hfilter.nodup_numbers

def unnumbered (line : Line) : Line := { line with number := 0 }

theorem eq_map_renumber {renumbering : Nat → Nat} {old new : List Line}
    (hread : new.map unnumbered = old.map unnumbered)
    (hnumbers : new.map (·.number) = (old.map (·.number)).map renumbering) :
    new = old.map (·.renumber renumbering) := by
  induction old generalizing new with
  | nil => exact List.map_eq_nil_iff.1 hread
  | cons line rest ih =>
    cases new with
    | nil => cases hread
    | cons line' rest' =>
      obtain ⟨hline, hrest⟩ := List.cons.inj hread
      obtain ⟨hnumber, hnumbers⟩ := List.cons.inj hnumbers
      have hsame : line' = line.renumber renumbering := by
        cases line
        cases line'
        cases hline
        cases hnumber
        rfl
      rw [List.map_cons, ← ih hrest hnumbers, hsame]

theorem ofBytes_eq_of_body (number : Nat) (raw : Bytes) :
    ofBytes number raw = ofBytes number (body raw ++ [feed]) := by
  rw [ofBytes, ofBytes, body_append_feed]

theorem map_unnumbered_rules (first : Nat) (raws : List Bytes) :
    ((numberFrom first raws).filter (·.isRule)).map unnumbered =
      ((raws.filter isRuleIn).map body).map fun raw => ofBytes 0 (raw ++ [feed]) := by
  induction raws generalizing first with
  | nil => rfl
  | cons raw raws ih =>
    have hrule : (ofBytes first raw).isRule = isRuleIn raw := rfl
    rw [numberFrom, List.filter_cons, List.filter_cons, hrule]
    cases isRuleIn raw with
    | false => exact ih (first + 1)
    | true =>
      simp only [if_true, List.map_cons, ih]
      rw [← ofBytes_eq_of_body]
      rfl

theorem unnumbered_rules_of_ruleBodies {data other : Bytes}
    (h : ruleBodies other = ruleBodies data) :
    ((ofData other).filter (·.isRule)).map unnumbered =
      ((ofData data).filter (·.isRule)).map unnumbered := by
  rw [ofData, map_unnumbered_rules, ofData, map_unnumbered_rules]
  exact congrArg _ h

theorem map_counterpart_rules {data other : Bytes} (h : ruleBodies other = ruleBodies data) :
    (numbersOf .rule data).map (counterpart (numbersOf .rule data) (numbersOf .rule other)) =
      numbersOf .rule other := by
  apply map_counterpart (nodup_numbersOf .rule data)
  have hlength := congrArg List.length (unnumbered_rules_of_ruleBodies h)
  rw [List.length_map, List.length_map] at hlength
  rw [numbersOf, numbersOf, List.length_map, List.length_map]
  exact hlength.symm

/-- Where the rule lines of two registries are the same bytes, they differ by their numbers only. -/
theorem rules_eq_map_renumber {data other : Bytes} (h : ruleBodies other = ruleBodies data) :
    (ofData other).filter (·.isRule) = ((ofData data).filter (·.isRule)).map
      (·.renumber (counterpart (numbersOf .rule data) (numbersOf .rule other))) :=
  eq_map_renumber (unnumbered_rules_of_ruleBodies h) (map_counterpart_rules h).symm

theorem map_counterpart_comments {data other : Bytes}
    (h : comments (ofData other) = comments (ofData data)) :
    (numbersOf .comment data).map
        (counterpart (numbersOf .comment data) (numbersOf .comment other)) =
      numbersOf .comment other := by
  apply map_counterpart (nodup_numbersOf .comment data)
  have hlength := congrArg List.length h
  rw [comments, comments, List.length_map, List.length_map] at hlength
  rw [numbersOf, numbersOf, List.length_map, List.length_map]
  exact hlength.symm

end SuffixLint.Line
