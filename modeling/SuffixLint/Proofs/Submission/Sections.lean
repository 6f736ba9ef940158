import Mathlib.Algebra.GroupWithZero.Nat
import SuffixLint.Proofs.Section.Course
import SuffixLint.Proofs.Submission.Scan

namespace SuffixLint

namespace SectionHistory

variable {history : SectionHistory}

/-- A comment leads into the private section and out of it as it does for a scan, unless it opens
the other section there. -/
theorem current_takeComment_eq_private_iff {text : Text}
    (h : text = Section.opening .icannDomains → history.current ≠ .inside .privateDomains) :
    (history.takeComment text).1.current = .inside .privateDomains ↔
      text ≠ Section.closing .privateDomains ∧
        (history.current = .inside .privateDomains ∨ text = Section.opening .privateDomains) := by
  rw [current_takeComment_eq_inside_iff]
  constructor
  · intro h'
    rcases h' with rfl | ⟨hinside, _, hcloses⟩
    · exact ⟨Section.opening_ne_closing _ _, .inr rfl⟩
    · exact ⟨hcloses, .inl hinside⟩
  · intro h'
    obtain ⟨hcloses, hinside | hopens⟩ := h'
    · by_cases hopens : text = Section.opening .privateDomains
      · exact .inl hopens
      · refine .inr ⟨hinside, ?_, hcloses⟩
        intro s
        cases s with
        | icannDomains => exact fun hicann => h hicann hinside
        | privateDomains => exact hopens
    · exact .inl hopens

end SectionHistory

namespace Line

/-- Whether a header has come since the private section was last opened. -/
def belowHeader (before : List Line) : Bool :=
  (before.rtakeWhile (!·.opensPrivate)).any (·.isHeader)

theorem belowHeader_append_singleton (before : List Line) (line : Line) :
    belowHeader (before ++ [line]) =
      (!line.opensPrivate && (belowHeader before || line.isHeader)) := by
  rw [belowHeader, belowHeader, List.rtakeWhile_concat]
  cases line.opensPrivate <;> simp

end Line

namespace SubmissionScan

/-- The rules of all submissions, those of the one under way included. -/
def rules (scan : SubmissionScan) : Nat :=
  ((scan.current.toList ++ scan.closed).map (·.rules)).sum

theorem rules_close (scan : SubmissionScan) : scan.close.rules = scan.rules := by
  rw [rules, rules, close]
  cases scan.current <;> rfl

theorem rules_takeHeader (scan : SubmissionScan) (number : Nat) (title : Text) :
    (scan.takeHeader number title).rules = scan.rules := by
  rw [← rules_close scan, takeHeader, rules, rules]
  exact Nat.zero_add _

theorem rules_takeRule (scan : SubmissionScan) (number : Nat) (text : Text) :
    (scan.takeRule number text).rules = scan.rules + if scan.current.isSome then 1 else 0 := by
  rw [takeRule]
  cases h : scan.current with
  | none => rfl
  | some submission =>
    simp only [rules, h, Option.toList_some, List.cons_append, List.nil_append, List.map_cons,
      List.sum_cons, Option.isSome_some, if_true, Nat.add_right_comm _ 1]

theorem isSome_current_takeRule (scan : SubmissionScan) (number : Nat) (text : Text) :
    (scan.takeRule number text).current.isSome = scan.current.isSome := by
  rw [takeRule]
  cases h : scan.current with
  | none => rw [h]
  | some submission => rfl

theorem coherent_run (lines : List Line) : (({} : SubmissionScan).run lines).Coherent := by
  induction lines using List.reverseRecOn with
  | nil => exact coherent_start
  | append_singleton lines line ih =>
    rw [run_append_singleton]
    exact (takes_step _ line).coherent ih

variable {scan next : SubmissionScan} {line : Line}

theorem Takes.rules (h : scan.Takes line next) (coherent : scan.Coherent) :
    next.rules = scan.rules + if line.isRule && scan.current.isSome then 1 else 0 := by
  have hrule : line.isRule = decide (line.part = .rule) := by
    rw [Line.isRule, decide_eq_decide, Line.part_eq_rule_iff]
  rw [hrule]
  cases h with
  | opening hpart => rw [hpart]; rfl
  | outside _ hout => rw [coherent.outside hout, Option.isSome_none, Bool.and_false]; rfl
  | closing hpart => rw [hpart]; exact rules_close scan
  | header hpart => rw [hpart, rules_takeHeader]; rfl
  | rule hpart => rw [hpart, rules_takeRule, decide_eq_true rfl, Bool.true_and]
  | other hpart => rw [hpart]; rfl

/-- A submission is under way in the private section below a header, where that section is not
opened once more inside itself. -/
theorem Takes.isSome_current (h : scan.Takes line next) {before : List Line}
    (coherent : scan.Coherent) (hin : scan.inSection = Line.inPrivate before)
    (hopens : line.opensPrivate = true → Line.inPrivate before = false)
    (hcurrent : scan.current.isSome = (Line.inPrivate before && Line.belowHeader before)) :
    next.current.isSome =
      (Line.inPrivate (before ++ [line]) && Line.belowHeader (before ++ [line])) := by
  rw [Line.inPrivate_append_singleton, Line.belowHeader_append_singleton]
  cases h with
  | opening hpart =>
    -- Inside the section the submission would go on, but its header would no longer count.
    have hopening : line.opensPrivate = true := by simp [Line.opensPrivate_eq, hpart]
    simp [hopening, hcurrent, hopens hopening]
  | outside hpart hout =>
    simp [coherent.outside hout, ← hin, hout, Line.opensPrivate_eq, hpart]
  | closing hpart => simp [Line.closesPrivate_eq, hpart, close]
  | header hpart hinside =>
    have hheader : line.isHeader = true := Line.isHeader_iff.2 ⟨_, hpart⟩
    simp [takeHeader, hheader, ← hin, hinside, Line.opensPrivate_eq, Line.closesPrivate_eq, hpart]
  | rule hpart =>
    have hheader : line.isHeader = false := Line.not_isHeader (by simp [hpart])
    simp [isSome_current_takeRule, hcurrent, hheader, Line.opensPrivate_eq, Line.closesPrivate_eq,
      hpart]
  | other hpart =>
    have hheader : line.isHeader = false := Line.not_isHeader (by simp [hpart])
    simp [hcurrent, hheader, Line.opensPrivate_eq, Line.closesPrivate_eq, hpart]

section Run

variable {lines : List Line}

theorem isSome_current_run
    (h : EachAfter (fun before line => line.opensPrivate = true → Line.inPrivate before = false)
      lines) :
    (({} : SubmissionScan).run lines).current.isSome =
      (Line.inPrivate lines && Line.belowHeader lines) := by
  induction lines using List.reverseRecOn with
  | nil => rfl
  | append_singleton lines line ih =>
    obtain ⟨hlines, hopens⟩ := eachAfter_append_singleton.1 h
    rw [run_append_singleton]
    exact (takes_step _ line).isSome_current (coherent_run lines) (inSection_run lines) hopens
      (ih hlines)

/-- Where a line opens the private section only when it is not open, the rules of the submissions
are those in that section below a header. -/
theorem rules_run
    (h : EachAfter (fun before line => line.opensPrivate = true → Line.inPrivate before = false)
      lines) :
    (({} : SubmissionScan).run lines).rules =
      (Place.all lines).countP fun place =>
        place.item.isRule && (Line.inPrivate place.before && Line.belowHeader place.before) := by
  induction lines using List.reverseRecOn with
  | nil => rfl
  | append_singleton lines line ih =>
    have hlines := (eachAfter_append_singleton.1 h).1
    rw [run_append_singleton, (takes_step _ line).rules (coherent_run lines), ih hlines,
      isSome_current_run hlines]
    exact (Place.countP_all_append_singleton (fun before line =>
      line.isRule && (Line.inPrivate before && Line.belowHeader before)) lines line).symm

end Run

end SubmissionScan

namespace Linter

variable {checks : Checks} {lines : List Line}

theorem current_run_eq_private_iff
    (h : EachAfter (fun before line => line.text = Section.opening .icannDomains →
      ((start checks).run before).sections.current ≠ .inside .privateDomains) lines) :
    ((start checks).run lines).sections.current = .inside .privateDomains ↔
      Line.inPrivate lines = true := by
  induction lines using List.reverseRecOn with
  | nil => exact iff_of_false Region.noConfusion Bool.false_ne_true
  | append_singleton lines line ih =>
    obtain ⟨hlines, hline⟩ := eachAfter_append_singleton.1 h
    rw [run_append_singleton, sections_step, Line.inPrivate_append_singleton, Line.opensPrivate,
      Line.closesPrivate]
    split
    · rw [SectionHistory.current_takeComment_eq_private_iff hline, ih hlines]
      simp
    · next hkind =>
      have hopening := fun he => hkind (Line.kind_marker (.inl he))
      have hclosing := fun he => hkind (Line.kind_marker (.inr he))
      rw [ih hlines, decide_eq_false hopening, decide_eq_false hclosing, Bool.or_false]
      rfl

end Linter

namespace LintReport

variable {checks : Checks} {lines : List Line} {file : Text}

theorem outside_of_opening
    (h : Finding.unexpectedBegin ∉ (ofLines lines file checks).findings) :
    EachAfter (fun before line => ∀ s, line.text = Section.opening s →
      ((Linter.start checks).run before).sections.current = .outside) lines := by
  intro before line after hlines s htext
  by_contra hcurrent
  refine h ?_
  have hkind : line.kind = .comment := by
    rw [Line.kind, htext]
    cases s <;> rfl
  have hfinding : Finding.unexpectedBegin ∈
      ((Linter.start checks).run before).ownFindings line := by
    simp only [Linter.ownFindings, hkind, Linter.markerFindings, htext,
      SectionHistory.takeComment_of_some (Marker.ofComment?_opening s)]
    cases hc : ((Linter.start checks).run before).sections.current with
    | outside => exact absurd hc hcurrent
    | inside t => simp [SectionHistory.takeMarker, hc]
  have hissue : line.issue .unexpectedBegin ∈ (Linter.start checks).trace lines :=
    Linter.mem_trace.2 ⟨before, line, after, hlines,
      List.mem_append_right _ (List.mem_map_of_mem hfinding)⟩
  rw [findings, issues_ofLines]
  exact List.mem_map.2 ⟨_, List.mem_append_left _ (List.mem_append_left _ hissue), rfl⟩

end LintReport

namespace SubmissionReview

theorem sum_rules_ofLines (lines : List Line) (file : Text) :
    ((ofLines lines file).submissions.map (·.rules)).sum =
      (({} : SubmissionScan).run lines).rules := by
  rw [← SubmissionScan.rules_close]
  exact ((List.reverse_perm _).map _).sum_nat

/-- The scan for submissions is in the private section exactly when the linter is, after any number
of lines, where the other section is not opened inside it. So, where no opening is unexpected, the
submissions have as many rules as the linter checks in the private section below a header. -/
theorem sections_agree (lines : List Line) (checks : Checks) :
    (EachAfter (fun before line => line.text = Section.opening .icannDomains →
        ((Linter.start checks).run before).sections.current ≠ .inside .privateDomains) lines →
      ∀ before, before <+: lines →
        ((({} : SubmissionScan).run before).inSection = true ↔
          ((Linter.start checks).run before).sections.current = .inside .privateDomains)) ∧
    ∀ file, Finding.unexpectedBegin ∉ (LintReport.ofLines lines file checks).findings →
      ((ofLines lines file).submissions.map (·.rules)).sum =
        (Place.all lines).countP fun place =>
          place.item.isRule &&
            decide (((Linter.start checks).run place.before).sections.current =
              .inside .privateDomains) &&
            Line.belowHeader place.before := by
  constructor
  · rintro h before ⟨after, rfl⟩
    rw [SubmissionScan.inSection_run, Linter.current_run_eq_private_iff h.of_append]
  · intro file h
    have houtside := LintReport.outside_of_opening h
    have hicann : EachAfter (fun before line => line.text = Section.opening .icannDomains →
        ((Linter.start checks).run before).sections.current ≠ .inside .privateDomains) lines := by
      intro before line after hlines htext hcurrent
      cases (houtside before line after hlines _ htext).symm.trans hcurrent
    have hregion {before after : List Line} (hlines : lines = before ++ after) :
        ((Linter.start checks).run before).sections.current = .inside .privateDomains ↔
          Line.inPrivate before = true := by
      rw [hlines] at hicann
      exact Linter.current_run_eq_private_iff hicann.of_append
    have hprivate : EachAfter (fun before line =>
        line.opensPrivate = true → Line.inPrivate before = false) lines := by
      intro before line after hlines hopens
      rw [← Bool.not_eq_true, ← hregion hlines,
        houtside before line after hlines _ (of_decide_eq_true hopens)]
      exact Region.noConfusion
    rw [sum_rules_ofLines, SubmissionScan.rules_run hprivate]
    refine List.countP_congr ?_
    intro place hplace
    simp only [Bool.and_eq_true, decide_eq_true_eq, hregion (Place.mem_all.1 hplace), and_assoc]

/-- Of the two rules in the private section one stands above the header and belongs to no
submission. -/
theorem sections_agree_rule_above_header :
    let lines := Line.ofData (Utf8.encode ("// ===BEGIN ICANN DOMAINS===\n" ++
      "// ===END ICANN DOMAINS===\n// ===BEGIN PRIVATE DOMAINS===\na\n// A : http://a\nb").toList)
    (∀ before, before <+: lines →
        ((({} : SubmissionScan).run before).inSection = true ↔
          ((Linter.start {}).run before).sections.current = .inside .privateDomains)) ∧
      ((ofLines lines standardInput).submissions.map (·.rules)).sum = 1 := by
  intro lines
  have hicann : EachAfter (fun before line => line.text = Section.opening .icannDomains →
      ((Linter.start {}).run before).sections.current ≠ .inside .privateDomains) lines := by decide
  have hexpected :
      Finding.unexpectedBegin ∉ (LintReport.ofLines lines standardInput {}).findings := by decide
  refine ⟨(sections_agree lines {}).1 hicann, ?_⟩
  rw [(sections_agree lines {}).2 standardInput hexpected]
  decide

end SubmissionReview
end SuffixLint
