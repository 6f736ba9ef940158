import SuffixLint.IssueLog
import SuffixLint.Rule

namespace SuffixLint

/-- The labels of a rule as written, from the top level inward. -/
abbrev Entry := List Text

namespace Entry

def ofRule (text : Text) : Entry := (Rule.labels text).reverse

def domain (entry : Entry) : Text := Rule.ofLabels entry.reverse

def rank (entry : Entry) : Nat :=
  RuleKind.rankOf (entry.getLast?.bind (·.head?))

def order (a b : Entry) : Ordering :=
  (compare a.length b.length).then ((compare a.rank b.rank).then (compare a b))

def le (a b : Entry) : Bool := (order a b).isLE

def sort (entries : List Entry) : List Entry := entries.mergeSort le

def renderAll (entries : List Entry) : Text :=
  "[".toList ++ Text.join ", ".toList (entries.map domain) ++ "]".toList

@[simp] theorem domain_ofRule (text : Text) : domain (ofRule text) = text := by
  simp [domain, ofRule]

instance : Std.TransCmp order :=
  inferInstanceAs (Std.TransCmp
    (compareLex (compareOn List.length) (compareLex (compareOn rank) compare)))

instance : Std.LawfulEqCmp order where
  eq_of_compare h := by
    simp only [order, Ordering.then_eq_eq] at h
    exact Std.LawfulEqCmp.eq_of_compare h.2.2

theorem le_total (a b : Entry) : (le a b || le b a) = true := by
  have h : order a b = (order b a).swap := Std.OrientedCmp.eq_swap
  unfold le
  rw [h]
  cases order b a <;> rfl

theorem le_trans (a b c : Entry) (hab : le a b = true) (hbc : le b c = true) : le a c = true :=
  Std.TransCmp.isLE_trans hab hbc

theorem sort_perm (entries : List Entry) : (sort entries).Perm entries :=
  List.mergeSort_perm entries le

theorem pairwise_sort (entries : List Entry) : (sort entries).Pairwise (le · ·) :=
  List.pairwise_mergeSort le_trans le_total entries

theorem sort_of_pairwise {entries : List Entry} (h : entries.Pairwise (le · ·)) :
    sort entries = entries :=
  List.mergeSort_of_pairwise h

end Entry

structure Group where
  entries : Array Entry := #[]
deriving DecidableEq, Repr

namespace Group

def push (group : Group) (text : Text) : Group := ⟨group.entries.push (Entry.ofRule text)⟩

def size (group : Group) : Nat := group.entries.size

def isEmpty (group : Group) : Bool := group.entries.isEmpty

def suggestionHeading : Text := "Correct sorting would be:".toList

/-- What is shown for entries that are out of order: the group as it is, as it should be, and the
latter again with one rule a line. -/
def suggestion (entries : List Entry) : List Text :=
  let sorted := Entry.sort entries
  ["  ".toList ++ Entry.renderAll entries, "  ".toList ++ Entry.renderAll sorted,
    suggestionHeading] ++ sorted.map Entry.domain

def sameTopLevel : List Entry → Bool
  | [] => true
  | first :: rest => rest.all (·.head? == first.head?)

def issues (entries : List Entry) (line : Nat) (echo : Option Text) : List Issue :=
  (if sameTopLevel entries then []
    else [{ line, finding := .inconsistentTopLevel, echo }]) ++
  (if Entry.sort entries = entries then []
    else [{ line, finding := .unsortedGroup, echo, details := suggestion entries }])

/-- Reports on a group at its end. A group that is tainted by an error is not checked, and neither
is one of fewer than two rules. -/
def conclude (group : Group) (log : IssueLog) (line : Nat) (echo : Option Text) : IssueLog :=
  if log.tainted || group.size < 2 then log.clearTaint
  else log.clearTaint.addAll (issues group.entries.toList line echo)

@[simp] theorem entries_push (group : Group) (text : Text) :
    (group.push text).entries.toList = group.entries.toList ++ [Entry.ofRule text] := by
  simp [push]

end Group

def suffixLE : Entry → Entry → Bool
  | [], _ => true
  | _ :: _, [] => false
  | a :: as, b :: bs =>
    match compare a b with
    | .lt => true
    | .gt => false
    | .eq => suffixLE as bs

def lacksTopLevel (labels : List Text) : Bool :=
  match labels.getLast? with
  | none => true
  | some label => label.isEmpty

/-- Whether one rule may stand before another within a submission; labels are given in the order of
reading. A missing top level on either side is not held against the order. -/
def suffixMayPrecede (a b : List Text) : Bool :=
  lacksTopLevel a || lacksTopLevel b || suffixLE a.reverse b.reverse

end SuffixLint
