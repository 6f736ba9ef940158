import SuffixLint.Proofs.Finding.Message
import SuffixLint.Proofs.Json.Same
import SuffixLint.Report.Machine

namespace SuffixLint

open Json (Same same_array_map_iff same_number_iff same_string_iff)

namespace Issue

def members (issue : Issue) : List (String × Json) := [
    ("line", .number issue.line),
    ("rule", .string issue.code),
    ("severity", .string issue.severity.word),
    ("message", .string issue.message)] ++
    issue.echo.toList.map (fun echo => ("text", .string echo)) ++
    if issue.details.isEmpty then [] else [("details", .array (issue.details.map .string))]

def details? (issue : Issue) : Option (List Text) :=
  if issue.details.isEmpty then none else some issue.details

theorem toJson_eq (issue : Issue) : issue.toJson = .ofMembers issue.members := rfl

theorem lookup_text (issue : Issue) :
    issue.members.lookup "text" = issue.echo.map Json.string := by
  obtain ⟨line, finding, echo, details⟩ := issue
  cases echo <;> cases details <;> simp [members, List.lookup_cons]

theorem lookup_details (issue : Issue) :
    issue.members.lookup "details" = issue.details?.map fun details =>
      .array (details.map Json.string) := by
  obtain ⟨line, finding, echo, details⟩ := issue
  cases echo <;> cases details <;> simp [members, details?, List.lookup_cons]

theorem details_eq_of_details? {a b : Issue} (h : a.details? = b.details?) :
    a.details = b.details := by
  have hdetails (issue : Issue) : issue.details = issue.details?.getD [] := by
    unfold details?
    split
    · exact List.isEmpty_iff.1 ‹_›
    · rfl
  rw [hdetails a, hdetails b, h]

theorem same_toJson_iff (a b : Issue) : Same a.toJson b.toJson ↔ a = b := by
  constructor
  · intro h
    rw [toJson_eq, toJson_eq] at h
    have hline : a.line = b.line :=
      same_number_iff.1 (h.member "line" rfl rfl)
    have hmessage : a.message = b.message :=
      same_string_iff.1 (h.member "message" rfl rfl)
    have hecho : a.echo = b.echo :=
      h.optional_member "text" (fun _ _ => same_string_iff) a.lookup_text b.lookup_text
    have hdetails : a.details? = b.details? :=
      h.optional_member "details" (fun _ _ => same_array_map_iff fun _ _ => same_string_iff)
        a.lookup_details b.lookup_details
    have hfinding : a.finding = b.finding := Finding.message_injective hmessage
    have hdetails : a.details = b.details := details_eq_of_details? hdetails
    obtain ⟨_, _, _, _⟩ := a
    obtain ⟨_, _, _, _⟩ := b
    rw [Issue.mk.injEq]
    exact ⟨hline, hfinding, hecho, hdetails⟩
  · intro h
    exact h ▸ Same.refl _

end Issue

namespace Summary

theorem same_toJson_iff (a b : Summary) : Same a.toJson b.toJson ↔ a = b := by
  constructor
  · intro h
    have herrors : a.errors = b.errors := same_number_iff.1 (h.member "errors" rfl rfl)
    have hwarnings : a.warnings = b.warnings := same_number_iff.1 (h.member "warnings" rfl rfl)
    have hrules : a.rules = b.rules := same_number_iff.1 (h.member "rules" rfl rfl)
    have hlines : a.lines = b.lines := same_number_iff.1 (h.member "lines" rfl rfl)
    obtain ⟨_, _, _, _⟩ := a
    obtain ⟨_, _, _, _⟩ := b
    rw [Summary.mk.injEq]
    exact ⟨herrors, hwarnings, hrules, hlines⟩
  · intro h
    exact h ▸ Same.refl _

end Summary

namespace LintReport

theorem same_toJson_iff (a b : LintReport) : Same a.toJson b.toJson ↔ a = b := by
  constructor
  · intro h
    have hfile : a.file = b.file := same_string_iff.1 (h.member "file" rfl rfl)
    have hissues : a.issues = b.issues :=
      (same_array_map_iff Issue.same_toJson_iff).1 (h.member "issues" rfl rfl)
    have hsummary : a.summary = b.summary :=
      (Summary.same_toJson_iff _ _).1 (h.member "summary" rfl rfl)
    obtain ⟨_, _, _⟩ := a
    obtain ⟨_, _, _⟩ := b
    rw [LintReport.mk.injEq]
    exact ⟨hfile, hissues, hsummary⟩
  · intro h
    exact h ▸ Same.refl _

end LintReport

namespace Batch

/-- The report on registries that were checked, with what is said of those that were not. -/
def composed (reports : List LintReport) (complaints : List Text) : Json :=
  .ofMembers [
    ("results", .array (reports.map (·.toJson))),
    ("failures", .array (complaints.map .string)),
    ("summary", .ofMembers [
      ("errors", .number ((reports.map (·.summary.errors)).foldl (· + ·) 0)),
      ("warnings", .number ((reports.map (·.summary.warnings)).foldl (· + ·) 0)),
      ("files", .number reports.length),
      ("failed", .number complaints.length)])]

theorem toJson_eq_composed (batch : Batch) :
    batch.toJson = composed batch.reports (batch.failures.map (·.message)) := by
  rw [composed, List.map_map, List.length_map]
  rfl

theorem same_composed_iff (reports reports' : List LintReport)
    (complaints complaints' : List Text) :
    Same (composed reports complaints) (composed reports' complaints') ↔
      reports = reports' ∧ complaints = complaints' := by
  constructor
  · intro h
    have hreports := h.member "results" rfl rfl
    have hcomplaints := h.member "failures" rfl rfl
    exact ⟨(same_array_map_iff LintReport.same_toJson_iff).1 hreports,
      (same_array_map_iff fun _ _ => same_string_iff).1 hcomplaints⟩
  · rintro ⟨rfl, rfl⟩
    exact Same.refl _

/-- Two reports for machines are the same only if they report the same, whatever the complaints
are made of, and a finding is known by its code and its message. -/
theorem toJson_lossless :
    (∀ (reports reports' : List LintReport) (complaints complaints' : List Text),
      Same (composed reports complaints) (composed reports' complaints') ↔
        reports = reports' ∧ complaints = complaints') ∧
    (∀ a b : Batch, Same a.toJson b.toJson ↔
      a.reports = b.reports ∧ a.failures.map (·.message) = b.failures.map (·.message)) ∧
    ∀ f g : Finding, f.code = g.code ∧ f.message = g.message ↔ f = g := by
  refine ⟨same_composed_iff, fun a b => ?_, fun f g => ?_⟩
  · rw [toJson_eq_composed, toJson_eq_composed]
    exact same_composed_iff _ _ _ _
  · constructor
    · rintro ⟨-, hmessage⟩
      exact Finding.message_injective hmessage
    · rintro rfl
      exact ⟨rfl, rfl⟩

end Batch
end SuffixLint
