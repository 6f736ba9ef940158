import SuffixLint.Proofs.EachAfter
import SuffixLint.Proofs.Line.Numbering
import SuffixLint.Proofs.Linter.Step
import SuffixLint.Proofs.Submission.Order
import SuffixLint.Proofs.Submission.Scan

namespace SuffixLint

namespace Line

/-- Whether a line ends the submission above it. That the private section is opened once more does
not. -/
def endsSubmission (line : Line) : Bool := line.closesPrivate || line.isHeader

def rulesBelow (lines : List Line) : List Line :=
  (lines.takeWhile (!·.endsSubmission)).filter (·.isRule)

theorem endsSubmission_iff {line : Line} :
    line.endsSubmission = true ↔ line.part = .closing ∨ ∃ title, line.part = .header title := by
  rw [endsSubmission, Bool.or_eq_true, closesPrivate_eq, decide_eq_true_eq, isHeader_iff]

variable {line : Line} (rest : List Line)

theorem rulesBelow_of_ends (h : line.part = .closing ∨ ∃ title, line.part = .header title) :
    rulesBelow (line :: rest) = [] := by
  rw [rulesBelow, List.takeWhile_cons, endsSubmission_iff.2 h]
  rfl

theorem rulesBelow_of_rule (h : line.part = .rule) :
    rulesBelow (line :: rest) = line :: rulesBelow rest := by
  have hends : line.endsSubmission = false := by
    rw [← Bool.not_eq_true, endsSubmission_iff, h]
    simp
  have hrule : line.isRule = true := isRule_iff.2 (part_eq_rule_iff.1 h)
  rw [rulesBelow, List.takeWhile_cons, hends, Bool.not_false, if_pos rfl,
    List.filter_cons_of_pos hrule, rulesBelow]

theorem rulesBelow_of_other (h : line.part = .opening ∨ line.part = .other) :
    rulesBelow (line :: rest) = rulesBelow rest := by
  have hends : line.endsSubmission = false := by
    rw [← Bool.not_eq_true, endsSubmission_iff]
    rcases h with h | h <;> simp [h]
  have hrule : line.isRule ≠ true := by
    rw [ne_eq, isRule_iff, ← part_eq_rule_iff]
    rcases h with h | h <;> simp [h]
  rw [rulesBelow, List.takeWhile_cons, hends, Bool.not_false, if_pos rfl,
    List.filter_cons_of_neg hrule, rulesBelow]

end Line

namespace Submission

/-- A header with the lines below it, down to the end of the registry. -/
structure Header where
  line : Line
  title : Text
  below : List Line

namespace Header

/-- A header is where it says: in the private section, with the title that its line has. -/
def IsIn (header : Header) (lines : List Line) : Prop :=
  ∃ before, lines = before ++ header.line :: header.below ∧ Line.inPrivate before = true ∧
    titleOf? header.line.text = some header.title

def at? (place : Place Line) : Option Header :=
  if Line.inPrivate place.before then
    (titleOf? place.item.text).map fun title =>
      { line := place.item, title, below := place.after }
  else none

def allAfter (before lines : List Line) : List Header :=
  (Place.allAfter before lines).filterMap at?

def all (lines : List Line) : List Header := allAfter [] lines

def rules (header : Header) : List Line := Line.rulesBelow header.below

def submission (header : Header) : Submission :=
  { title := header.title
    line := header.line.number
    rules := header.rules.length
    inversions := Inversion.among Rule.mayPrecede Line.number Line.text header.rules }

theorem at?_eq_some_iff {place : Place Line} {header : Header} :
    at? place = some header ↔
      Line.inPrivate place.before = true ∧ titleOf? place.item.text = some header.title ∧
        header.line = place.item ∧ header.below = place.after := by
  rw [at?]
  split
  · next h =>
    rw [Option.map_eq_some_iff]
    constructor
    · rintro ⟨title, htitle, rfl⟩
      exact ⟨h, htitle, rfl, rfl⟩
    · rintro ⟨_, htitle, hline, hbelow⟩
      exact ⟨header.title, htitle, by rw [← hline, ← hbelow]⟩
  · next h => simp [h]

theorem mem_all {lines : List Line} {header : Header} :
    header ∈ all lines ↔ header.IsIn lines := by
  rw [all, allAfter, List.mem_filterMap]
  constructor
  · rintro ⟨place, hm, hat⟩
    obtain ⟨hin, htitle, hline, hbelow⟩ := at?_eq_some_iff.1 hat
    refine ⟨place.before, ?_, hin, hline ▸ htitle⟩
    rw [hline, hbelow]
    exact Place.mem_all.1 hm
  · rintro ⟨before, hlines, hin, htitle⟩
    exact ⟨{ before, item := header.line, after := header.below }, Place.mem_all.2 hlines,
      at?_eq_some_iff.2 ⟨hin, htitle, rfl, rfl⟩⟩

theorem pairwise_all {lines : List Line} (increasing : Line.Increasing lines) :
    (all lines).Pairwise fun a b => a.line.number < b.line.number := by
  rw [all, allAfter, List.pairwise_filterMap]
  refine (Place.pairwise_allAfter [] lines).imp_of_mem ?_
  intro p q hp _ hlater a ha b hb
  obtain ⟨_, _, haline, _⟩ := at?_eq_some_iff.1 ha
  obtain ⟨_, _, hbline, _⟩ := at?_eq_some_iff.1 hb
  rw [haline, hbline]
  rw [Place.mem_all.1 hp] at increasing
  exact (List.pairwise_cons.1 (List.pairwise_append.1 increasing).2.1).1 _ hlater

theorem allAfter_cons (before : List Line) (line : Line) (rest : List Line) :
    allAfter before (line :: rest) =
      (at? { before, item := line, after := rest }).toList ++ allAfter (before ++ [line]) rest := by
  rw [allAfter, Place.allAfter, List.filterMap_cons]
  cases at? { before, item := line, after := rest } <;> rfl

variable {before : List Line} {line : Line} (rest : List Line)

theorem allAfter_of_outside (outside : Line.inPrivate before = false) :
    allAfter before (line :: rest) = allAfter (before ++ [line]) rest := by
  rw [allAfter_cons, at?, outside]
  rfl

theorem allAfter_of_not_header (h : ∀ title, line.part ≠ .header title) :
    allAfter before (line :: rest) = allAfter (before ++ [line]) rest := by
  have hnone : titleOf? line.text = none := by
    rw [Option.eq_none_iff_forall_ne_some]
    intro title htitle
    exact h title (Line.part_eq_header_iff.2 htitle)
  rw [allAfter_cons, at?, hnone]
  split <;> rfl

theorem allAfter_of_header (inside : Line.inPrivate before = true) {title : Text}
    (h : line.part = .header title) :
    allAfter before (line :: rest) =
      { line, title, below := rest } :: allAfter (before ++ [line]) rest := by
  rw [allAfter_cons, at?, if_pos inside, Line.part_eq_header_iff.1 h]
  rfl

end Header
end Submission
end SuffixLint
