import SuffixLint.Proofs.Group.Order
import SuffixLint.Proofs.Line.Numbering
import SuffixLint.Proofs.Linter.Group

namespace SuffixLint

/-- Whether an issue about a line in itself is an error. What is said at the end about the sections
as a whole also has the number of the last line, but is not about it. -/
def Line.HasError (issues : List Issue) (line : Line) : Prop :=
  ∃ issue ∈ issues, issue.line = line.number ∧ issue.isError = true ∧
    issue.finding.stage ≠ .closing

/-- Whether a rule is registered and has no error. -/
structure Line.Accepted (issues : List Issue) (line : Line) : Prop where
  registered : Rule.isSkipped line = false
  sound : ¬ line.HasError issues

def Line.HasMarkerError (issues : List Issue) (line : Line) : Prop :=
  ∃ issue ∈ issues, issue.line = line.number ∧ issue.finding.stage = .marker

/-- A place where a group of rules ends: a line that is no rule, or the end of the registry. -/
structure Boundary where
  before : List Line
  line : Option Line

namespace Boundary

def allAfter (before : List Line) : List Line → List Boundary
  | [] => [{ before, line := none }]
  | line :: rest =>
    (if line.kind = .rule then [] else [{ before, line := some line }]) ++
      allAfter (before ++ [line]) rest

def all (lines : List Line) : List Boundary := allAfter [] lines

/-- The number a boundary has in reports; the end has that of the last line. -/
def number (boundary : Boundary) : Nat :=
  match boundary.line with
  | some line => line.number
  | none => ((boundary.before.map (·.number)).getLast?).getD 0

def echo (boundary : Boundary) : Option Text := boundary.line.bind (·.boundaryEcho)

/-- The rules between the previous boundary and this one. -/
def rules (boundary : Boundary) : List Line := Line.trailingRules boundary.before

def previous (boundary : Boundary) : Option Line := (Line.beforeRules boundary.before).getLast?

/-- Whether the group is checked: it has two rules or more, no rule of it has an error, and neither
has the marker that it may follow. -/
structure Effective (issues : List Issue) (boundary : Boundary) : Prop where
  two : 2 ≤ boundary.rules.length
  rules : ∀ line ∈ boundary.rules, ¬ line.HasError issues
  marker : ∀ line ∈ boundary.previous, ¬ line.HasMarkerError issues

def texts (boundary : Boundary) : List Text := boundary.rules.map (·.text)

def MixesTopLevels (boundary : Boundary) : Prop :=
  ∃ a ∈ boundary.texts, ∃ b ∈ boundary.texts, Rule.topLevel a ≠ Rule.topLevel b

def Descends (boundary : Boundary) : Prop :=
  ∃ a b, [a, b] <:+: boundary.texts ∧ Rule.BelongsBefore b a

open Classical in
noncomputable def warnings (issues : List Issue) (boundary : Boundary) : List Issue :=
  (if boundary.Effective issues ∧ boundary.MixesTopLevels then
    [{ line := boundary.number, finding := .inconsistentTopLevel, echo := boundary.echo }]
  else []) ++
  (if boundary.Effective issues ∧ boundary.Descends then
    [{ line := boundary.number, finding := .unsortedGroup, echo := boundary.echo
       details := Group.suggestion (boundary.texts.map Entry.ofRule) }]
  else [])

/-- A boundary is where it says: after the lines before it stands its line, which is no rule, and
where it has none the registry ends. -/
structure IsIn (boundary : Boundary) (lines : List Line) (after : List Line) : Prop where
  splits : lines = boundary.before ++ (boundary.line.toList ++ after)
  not_rule : ∀ line ∈ boundary.line, line.kind ≠ .rule
  ends : boundary.line = none → after = []

theorem IsIn.splits_rules {boundary : Boundary} {lines after : List Line}
    (hin : boundary.IsIn lines after) :
    lines =
      Line.beforeRules boundary.before ++ boundary.rules ++ (boundary.line.toList ++ after) := by
  rw [rules, Line.beforeRules_append_trailingRules]
  exact hin.splits

theorem mem_allAfter {before lines : List Line} {boundary : Boundary}
    (h : boundary ∈ allAfter before lines) : ∃ after, boundary.IsIn (before ++ lines) after := by
  induction lines generalizing before with
  | nil =>
    rw [List.mem_singleton.1 h]
    exact ⟨[], rfl, (fun _ hline => nomatch hline), fun _ => rfl⟩
  | cons line rest ih =>
    rcases List.mem_append.1 h with h | h
    · split at h
      · cases h
      · next hkind =>
        rw [List.mem_singleton.1 h]
        refine ⟨rest, rfl, ?_, fun hnone => nomatch hnone⟩
        rintro _ ⟨⟩
        exact hkind
    · obtain ⟨after, hin⟩ := ih h
      rw [List.append_assoc, List.singleton_append] at hin
      exact ⟨after, hin⟩

theorem mem_all {lines : List Line} {boundary : Boundary} (h : boundary ∈ all lines) :
    ∃ after, boundary.IsIn lines after :=
  mem_allAfter h

end Boundary
end SuffixLint
