import SuffixLint.Proofs.Group.Resort
import SuffixLint.Proofs.Group.Warnings
import SuffixLint.Proofs.Line.Correspondence
import SuffixLint.Proofs.Line.Rewrite

namespace SuffixLint

namespace Line

def textIn (raw : Bytes) : Text := (ofBytes 0 raw).text

theorem map_text_numberFrom (first : Nat) (raws : List Bytes) :
    (numberFrom first raws).map (·.text) = raws.map textIn := by
  induction raws generalizing first with
  | nil => rfl
  | cons raw raws ih =>
    rw [numberFrom, List.map_cons, ih, List.map_cons]
    rfl

theorem isLineText_of_spelt {number : Nat} {raw : Bytes} (h : (ofBytes number raw).Spelt)
    (hkind : (ofBytes number raw).kind = .rule) : IsLineText (ofBytes number raw).text where
  nonempty := by
    intro hnil
    rw [kind, kindOf, hnil] at hkind
    cases hkind
  trimmed := Text.trim_trim _
  one_line := h.rule.newline_free

end Line

namespace Boundary

variable {boundary : Boundary} {front tail : List Bytes}

theorem IsIn.line_eq {lines after : List Line} (hin : boundary.IsIn lines after) {first : Nat}
    (htail : boundary.line.toList ++ after = Line.numberFrom first tail) :
    boundary.line = tail.head?.map (Line.ofBytes first) := by
  cases hline : boundary.line with
  | none =>
    rw [hline, hin.ends hline] at htail
    cases tail with
    | nil => rfl
    | cons raw rest => cases htail
  | some line =>
    rw [hline] at htail
    cases tail with
    | nil => cases htail
    | cons raw rest => exact congrArg some (List.cons.inj htail).1

theorem number_eq (hfront : boundary.before = Line.numberFrom 1 front)
    (hline : boundary.line = tail.head?.map (Line.ofBytes (1 + front.length)))
    (hne : front ≠ []) : boundary.number = front.length + if tail = [] then 0 else 1 := by
  rw [number, hline, hfront]
  cases tail with
  | nil =>
    have hlength : front.length ≠ 0 := mt List.length_eq_zero_iff.1 hne
    simp only [List.head?_nil, Option.map_none, Line.map_number_numberFrom, List.getLast?_range',
      if_neg hlength, Option.getD_some, if_true]
    omega
  | cons raw rest =>
    simp only [List.head?_cons, Option.map_some, Line.ofBytes_number, reduceCtorEq, if_false]
    omega

end Boundary

/-- The group that a warning is about, among the lines of a registry: rules with no further rule at
either side, right before the boundary that the warning is reported at. -/
structure WarnedGroup (data : Bytes) (warning : Issue) where
  before : List Bytes
  rules : List Bytes
  after : List Bytes
  splits : Line.split data = before ++ rules ++ after
  nonempty : rules ≠ []
  all_rules : ∀ raw ∈ rules, Line.isRuleIn raw = true
  starts : ∀ raw ∈ before.getLast?, Line.isRuleIn raw = false
  ends : ∀ raw ∈ after.head?, Line.isRuleIn raw = false
  line : warning.line = before.length + rules.length + if after = [] then 0 else 1

namespace WarnedGroup

variable {data : Bytes} {warning : Issue}

def Holds (group : WarnedGroup data warning) (number : Nat) : Prop :=
  group.before.length < number ∧ number ≤ group.before.length + group.rules.length

instance (group : WarnedGroup data warning) (number : Nat) : Decidable (group.Holds number) :=
  inferInstanceAs (Decidable (_ ∧ _))

/-- The lines of the registry where the group is as the warning suggests. -/
def correctedLines (group : WarnedGroup data warning) : List Bytes :=
  group.before ++ Line.rewriteAll group.rules warning.suggested ++ group.after

def corrected (group : WarnedGroup data warning) : Bytes := group.correctedLines.flatten

/-- What a correction does to what is reported. -/
structure IsSafe (group : WarnedGroup data warning) (old new : List Issue) : Prop where
  /-- The order of the group is no longer warned about. -/
  sorted : ∀ issue ∈ new, issue.line = warning.line → issue.finding ≠ .unsortedGroup
  /-- The rules of the group are accepted. -/
  accepted : ∀ issue ∈ new, group.Holds issue.line → issue.finding.stage ≠ .rule
  /-- Nothing else changes, but that there is no white space left around the rules of the group, and
  that doublettes of these rules refer to where they now stand. -/
  others : ∃ (front back : List Issue) (renumbering : Nat → Nat),
    old = front ++ warning :: back ∧
      (∀ number, ¬ group.Holds number → renumbering number = number) ∧
      (∀ number, group.Holds number → group.Holds (renumbering number)) ∧
      new = ((front ++ back).filter fun issue =>
        ¬ (issue.finding = .outerSpace ∧ group.Holds issue.line)).map (·.renumber renumbering)

structure Fits (group : WarnedGroup data warning) (boundary : Boundary) (after : List Line) :
    Prop where
  before : Line.beforeRules boundary.before = Line.numberFrom 1 group.before
  rules : boundary.rules = Line.numberFrom (1 + group.before.length) group.rules
  after : boundary.line.toList ++ after =
    Line.numberFrom (1 + (group.before ++ group.rules).length) group.after

theorem Fits.holds_iff {group : WarnedGroup data warning} {boundary : Boundary}
    {after : List Line} (fits : group.Fits boundary after) {number : Nat} :
    group.Holds number ↔ number ∈ boundary.rules.map (·.number) := by
  rw [fits.rules, Line.mem_map_number_numberFrom, Holds]
  omega

theorem exists_fits {boundary : Boundary} {after : List Line}
    (hin : boundary.IsIn (Line.ofData data) after) (hrules : boundary.rules ≠ [])
    (hline : warning.line = boundary.number) :
    ∃ group : WarnedGroup data warning, group.Fits boundary after := by
  have hsplits := hin.splits
  rw [Line.ofData] at hsplits
  obtain ⟨front, tail, hdata, hfront, htail⟩ := Line.exists_of_numberFrom_eq_append hsplits
  have hparts := (Line.beforeRules_append_trailingRules boundary.before).trans hfront
  obtain ⟨before, rules, rfl, hbefore, hgroup⟩ :=
    Line.exists_of_numberFrom_eq_append hparts.symm
  have hhead := hin.line_eq htail
  have hnonempty : rules ≠ [] := by
    rintro rfl
    exact hrules hgroup
  refine ⟨⟨before, rules, tail, hdata, hnonempty, ?_, ?_, ?_, ?_⟩, hbefore, hgroup, htail⟩
  · intro raw hraw
    obtain ⟨number, hm⟩ := Line.exists_mem_numberFrom (1 + before.length) hraw
    rw [← hgroup] at hm
    exact (Line.isRuleIn_iff number).2 (Line.kind_of_mem_trailingRules hm)
  · intro raw hraw
    have hlast := Line.getLast?_numberFrom_one hraw
    rw [← hbefore] at hlast
    rw [← Bool.not_eq_true, Line.isRuleIn_iff before.length]
    exact Line.not_isRule_of_getLast?_beforeRules hlast
  · intro raw hraw
    rw [← Bool.not_eq_true, Line.isRuleIn_iff (1 + (before ++ rules).length)]
    refine hin.not_rule _ ?_
    rw [hhead, hraw]
    rfl
  · rw [hline, Boundary.number_eq hfront hhead (List.append_ne_nil_of_right_ne_nil _ hnonempty),
      List.length_append]

section Warned

variable {group : WarnedGroup data warning} {boundary : Boundary} {after : List Line}

theorem Fits.texts_eq (fits : group.Fits boundary after) :
    boundary.texts = group.rules.map Line.textIn := by
  rw [Boundary.texts, fits.rules, Line.map_text_numberFrom]

theorem Fits.length_suggested (fits : group.Fits boundary after)
    (suggested : warning.suggested = Rule.sorted boundary.texts) :
    warning.suggested.length = group.rules.length := by
  rw [suggested, (Rule.sorted_perm _).length_eq, fits.texts_eq, List.length_map]

theorem Fits.resorted (fits : group.Fits boundary after)
    (hin : boundary.IsIn (Line.ofData data) after)
    (warned : warning ∈ ((Linter.start { order := true }).run boundary.before).boundaryIssues
      boundary.number boundary.echo)
    (unsorted : warning.finding = .unsortedGroup)
    (suggested : warning.suggested = Rule.sorted boundary.texts) :
    Resorted { order := true } (Line.ofData data) after
      (Line.ofTexts (1 + group.before.length) warning.suggested) boundary warning where
  order := rfl
  increasing := Line.increasing_ofData data
  isIn := hin
  warned := warned
  unsorted := unsorted
  numbers := by
    rw [fits.rules]
    exact Line.map_number_ofTexts _ (fits.length_suggested suggested)
  texts := by rw [Line.map_text_ofTexts, suggested]
  utf8 := by
    intro line hm
    rw [Line.eq_ofText_of_mem hm]
    rfl
  no_space := by
    intro line hm
    rw [Line.eq_ofText_of_mem hm]
    rfl

theorem Fits.isLineText (fits : group.Fits boundary after) {new : List Line}
    (h : Resorted { order := true } (Line.ofData data) after new boundary warning)
    (suggested : warning.suggested = Rule.sorted boundary.texts) :
    ∀ text ∈ warning.suggested, Line.IsLineText text := by
  intro text hm
  rw [suggested, (Rule.sorted_perm _).mem_iff] at hm
  obtain ⟨line, hline, rfl⟩ := List.mem_map.1 hm
  have hkind := h.reordered.rules line hline
  have hspelt := h.welcomes.spelling line hline hkind
  rw [fits.rules] at hline
  obtain ⟨raw, _, he⟩ := Line.exists_of_mem_numberFrom hline
  rw [he] at hspelt hkind ⊢
  exact Line.isLineText_of_spelt hspelt hkind

theorem split_corrected (hlength : warning.suggested.length = group.rules.length)
    (h : ∀ text ∈ warning.suggested, Line.IsLineText text) :
    Line.split group.corrected = group.correctedLines :=
  Line.split_rewriteAll group.splits hlength h

theorem Fits.ofData_corrected (fits : group.Fits boundary after)
    (hlength : warning.suggested.length = group.rules.length)
    (h : ∀ text ∈ warning.suggested, Line.IsLineText text) :
    Line.ofData group.corrected =
      Line.beforeRules boundary.before ++
        Line.ofTexts (1 + group.before.length) warning.suggested ++
        (boundary.line.toList ++ after) := by
  have hrewritten : (Line.rewriteAll group.rules warning.suggested).length =
      group.rules.length := by
    rw [Line.rewriteAll, List.length_zipWith, hlength, Nat.min_self]
  rw [Line.ofData, split_corrected hlength h, correctedLines, Line.numberFrom_append,
    Line.numberFrom_append, Line.numberFrom_rewriteAll _ hlength h, fits.before, fits.after,
    List.length_append, List.length_append, hrewritten]

theorem Fits.isSafe (fits : group.Fits boundary after) {new : List Line}
    (h : Resorted { order := true } (Line.ofData data) after new boundary warning)
    (hcorrected : Line.ofData group.corrected =
      Line.beforeRules boundary.before ++ new ++ (boundary.line.toList ++ after)) (file : Text) :
    group.IsSafe (LintReport.ofBytes data file { order := true }).issues
      (LintReport.ofBytes group.corrected file { order := true }).issues := by
  have hold := h.old_issues file
  have hnew := h.new_issues file
  have hmem {issue : Issue}
      (hm : issue ∈ (LintReport.ofBytes group.corrected file { order := true }).issues) := by
    rw [LintReport.ofBytes, hcorrected] at hm
    exact h.of_mem_new hm
  have hspace (issue : Issue) : Resorted.IsSpaceInGroup boundary issue ↔
      issue.finding = .outerSpace ∧ group.Holds issue.line := by
    rw [fits.holds_iff]
    rfl
  have hfilter := h.filter_old
  simp only [hspace] at hfilter
  constructor
  · intro issue hm
    exact (hmem hm).1
  · intro issue hm hholds
    exact (hmem hm).2 (fits.holds_iff.1 hholds)
  · refine ⟨_, _, Reordered.place boundary.rules new, hold, ?_, ?_, ?_⟩
    · intro number hnot
      exact Reordered.place_of_not_mem (mt fits.holds_iff.2 hnot)
    · intro number hholds
      rw [fits.holds_iff] at hholds ⊢
      exact h.reordered.place_mem (h.reordered.nodup_texts h.welcomes_new) hholds
    · rw [hfilter, h.map_renumber_new, LintReport.ofBytes, hcorrected]
      exact hnew

end Warned

end WarnedGroup

/-- The order that a warning suggests is safe to write into the registry: the rules of the group are
all there, no exception comes before its wildcard, and nothing else changes in the report. -/
theorem LintReport.suggestion_safe (data : Bytes) (file : Text) (warning : Issue)
    (h : warning ∈ (LintReport.ofBytes data file { order := true }).issues)
    (unsorted : warning.finding = .unsortedGroup) :
    ∃ group : WarnedGroup data warning,
      warning.suggested.Perm (group.rules.map Line.textIn) ∧
        (warning.suggested.Pairwise fun a b => ¬ Rule.AsksFor a b) ∧
        Line.split group.corrected = group.correctedLines ∧
        group.IsSafe (LintReport.ofBytes data file { order := true }).issues
          (LintReport.ofBytes group.corrected file { order := true }).issues := by
  have hstage : warning.finding.stage = .group := by
    rw [unsorted]
    rfl
  obtain ⟨boundary, hboundary, warned⟩ := LintReport.exists_boundary h hstage
  obtain ⟨after, hin⟩ := Boundary.mem_all hboundary
  obtain ⟨_, hwarning⟩ := Boundary.unsorted_of_warned rfl warned unsorted
  have hrules : boundary.rules ≠ [] := by
    intro hnil
    have htwo := Boundary.two_le_of_warned rfl warned
    rw [hnil] at htwo
    exact absurd htwo (by decide)
  have suggested : warning.suggested = Rule.sorted boundary.texts :=
    Issue.suggested_of_details (congrArg Issue.details hwarning)
  obtain ⟨group, fits⟩ := WarnedGroup.exists_fits hin hrules (congrArg Issue.line hwarning)
  have hresorted := fits.resorted hin warned unsorted suggested
  have hlength := fits.length_suggested suggested
  have htexts := fits.isLineText hresorted suggested
  refine ⟨group, ?_, ?_, WarnedGroup.split_corrected hlength htexts, ?_⟩
  · rw [suggested, ← fits.texts_eq]
    exact Rule.sorted_perm boundary.texts
  · rw [suggested]
    exact Rule.pairwise_not_asksFor_sorted boundary.texts
  · exact fits.isSafe hresorted (fits.ofData_corrected hlength htexts) file

def unsortedPair : Bytes := Utf8.encode "// ===BEGIN ICANN DOMAINS===\nb.com\na.com".toList

theorem exists_warning_unsortedPair :
    ∃ warning ∈ (LintReport.ofBytes unsortedPair [] { order := true }).issues,
      warning.finding = .unsortedGroup := by
  have hlines : ((Linter.start { order := true }).run (Line.ofData unsortedPair)).lines = 3 := by
    decide
  have hboundary : ((Linter.start { order := true }).run (Line.ofData unsortedPair)).boundaryIssues
      3 none = Group.issues (["b.com".toList, "a.com".toList].map Entry.ofRule) 3 none := by
    rfl
  have hunsorted : Entry.sort (["b.com".toList, "a.com".toList].map Entry.ofRule) ≠
      ["b.com".toList, "a.com".toList].map Entry.ofRule := by
    rw [ne_eq, Entry.sort_eq_self_iff]
    decide
  rw [LintReport.ofBytes, LintReport.issues_ofLines, Linter.remainder, hlines, hboundary,
    Group.issues_of_unsorted hunsorted]
  refine ⟨{ line := 3, finding := .unsortedGroup, echo := none,
            details := Group.suggestion (["b.com".toList, "a.com".toList].map Entry.ofRule) },
    ?_, rfl⟩
  apply List.mem_append_left
  apply List.mem_append_right
  apply List.mem_append_right
  exact List.mem_singleton_self _

theorem LintReport.suggestion_safe_unsortedPair :
    ∃ warning ∈ (LintReport.ofBytes unsortedPair [] { order := true }).issues,
      warning.finding = .unsortedGroup ∧
        ∃ group : WarnedGroup unsortedPair warning,
          group.IsSafe (LintReport.ofBytes unsortedPair [] { order := true }).issues
            (LintReport.ofBytes group.corrected [] { order := true }).issues := by
  obtain ⟨warning, h, unsorted⟩ := exists_warning_unsortedPair
  obtain ⟨group, _, _, _, hsafe⟩ := LintReport.suggestion_safe unsortedPair [] warning h unsorted
  exact ⟨warning, h, unsorted, group, hsafe⟩

end SuffixLint
