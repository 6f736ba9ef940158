import SuffixLint.Proofs.Line.Normalization
import SuffixLint.Proofs.Linter.Attribution

namespace SuffixLint

theorem Rule.check_findings_of_malformed {line : Line} (h : line.isUtf8 = false)
    (registry : Registry) (region : Region) :
    (Rule.check registry region line).findings = [.invalidEncoding] := by
  rw [Rule.check, h]
  rfl

namespace LintReport

variable {lines : List Line} (file : Text) (checks : Checks) {line : Line}

theorem filter_invalidEncoding_issuesOn (report : LintReport) (line : Line) :
    (report.issuesOn line.number).filter (·.finding = .invalidEncoding) =
      (report.issues.filter line.owns).filter (·.finding = .invalidEncoding) := by
  rw [issuesOn, List.filter_filter, List.filter_filter]
  apply List.filter_congr
  intro issue _
  by_cases h : issue.finding = .invalidEncoding
  · simp [Line.owns, h, Finding.isOwn, Finding.stage]
  · simp [h]

theorem invalidEncoding_of_rule (increasing : Line.Increasing lines) (hm : line ∈ lines)
    (rule : line.kind = .rule) (malformed : line.isUtf8 = false) :
    ((ofLines lines file checks).issuesOn line.number).filter (·.finding = .invalidEncoding) =
      [line.issue .invalidEncoding] := by
  obtain ⟨before, after, rfl⟩ := List.append_of_mem hm
  rw [filter_invalidEncoding_issuesOn, filter_owns_issues file checks increasing rfl,
    Linter.ownFindings, rule]
  dsimp only
  rw [Linter.ruleFindings, Rule.check_findings_of_malformed malformed]
  split
  · rfl
  · rfl

theorem stage_ne_rule_of_comment (increasing : Line.Increasing lines) (hm : line ∈ lines)
    (comment : line.kind = .comment) :
    ∀ issue ∈ (ofLines lines file checks).issuesOn line.number, issue.finding.stage ≠ .rule := by
  obtain ⟨before, after, rfl⟩ := List.append_of_mem hm
  intro issue hissue hstage
  obtain ⟨hissue, hnumber⟩ := List.mem_filter.1 hissue
  have howns : line.owns issue = true :=
    Line.owns_iff.2 ⟨beq_iff_eq.1 hnumber, Finding.isOwn_iff.2 (.inr hstage)⟩
  have hmem := List.mem_filter.2 ⟨hissue, howns⟩
  rw [filter_owns_issues file checks increasing rfl, Linter.ownFindings, comment] at hmem
  obtain ⟨finding, hfinding, rfl⟩ := List.mem_map.1 hmem
  rw [Line.issue_finding, Linter.stage_markerFindings hfinding] at hstage
  cases hstage

end LintReport

namespace Line

variable {number : Nat} {raw : Bytes}

theorem text_ne_of_malformed (malformed : (ofBytes number raw).isUtf8 = false) {text : Text}
    (h : '\uFFFD' ∉ text) : (ofBytes number raw).text ≠ text := by
  rintro rfl
  exact h (replacement_mem_text number raw malformed)

theorem kind_ne_blank_of_malformed (malformed : (ofBytes number raw).isUtf8 = false) :
    (ofBytes number raw).kind ≠ .blank := by
  rw [ne_eq, kind_eq_blank_iff, isBlank, List.isEmpty_iff]
  exact text_ne_of_malformed malformed List.not_mem_nil

theorem text_ne_marker_of_malformed (malformed : (ofBytes number raw).isUtf8 = false)
    (s : Section) :
    (ofBytes number raw).text ≠ s.opening ∧ (ofBytes number raw).text ≠ s.closing := by
  constructor
  · apply text_ne_of_malformed malformed
    cases s <;> decide
  · apply text_ne_of_malformed malformed
    cases s <;> decide

/-- A line that is not UTF-8 is taken as a comment, or it is reported for its encoding once. -/
theorem comment_or_reported_of_malformed (malformed : (ofBytes number raw).isUtf8 = false)
    {data : Bytes} (hm : ofBytes number raw ∈ ofData data) (file : Text) (checks : Checks) :
    ((ofBytes number raw).kind = .comment ∧
        ∀ issue ∈ (LintReport.ofBytes data file checks).issuesOn number,
          issue.finding.stage ≠ .rule) ∨
      ((ofBytes number raw).kind = .rule ∧
        ((LintReport.ofBytes data file checks).issuesOn number).filter
          (·.finding = .invalidEncoding) = [(ofBytes number raw).issue .invalidEncoding]) := by
  have increasing := increasing_ofData data
  cases hk : (ofBytes number raw).kind with
  | blank => exact absurd hk (kind_ne_blank_of_malformed malformed)
  | comment =>
    exact .inl ⟨rfl, LintReport.stage_ne_rule_of_comment file checks increasing hm hk⟩
  | rule =>
    exact .inr ⟨rfl, LintReport.invalidEncoding_of_rule file checks increasing hm hk malformed⟩

/-- The laws of reading a line: what it is read as, what is shown of it, what a malformed line is
taken for, and that the text of a line, written again, is read as itself. -/
theorem ofBytes_normalizes (raw : Bytes) (number : Nat) :
    let decoded := Utf8.decodeLossy (body raw)
    let line := ofBytes number raw
    (raw = body raw ++ [feed] ∨ raw = body raw ∧ raw.getLast? ≠ some feed) ∧
    line.number = number ∧
    (line.isUtf8 = true ↔ ∃ text, body raw = Utf8.encode text) ∧
    (∀ text, body raw = Utf8.encode text → decoded = text) ∧
    Text.IsTrimOf decoded line.text ∧
    (line.hasOuterSpace = true ↔
      decoded ≠ [] ∧
        ∃ c, (decoded.head? = some c ∨ decoded.getLast? = some c) ∧ Text.isWhiteSpace c = true) ∧
    (line.hasOuterSpace = false → line.shown = line.text) ∧
    (line.hasOuterSpace = true →
      line.shown = decoded.flatMap visible ∧ '\t' ∉ line.shown ∧ '\r' ∉ line.shown) ∧
    (line.isUtf8 = false →
      '\uFFFD' ∈ line.text ∧ line.isBlank = false ∧
      (∀ s : Section, line.text ≠ s.opening ∧ line.text ≠ s.closing) ∧
      ∀ data file checks, line ∈ ofData data →
        (line.kind = .comment ∧
          ∀ issue ∈ (LintReport.ofBytes data file checks).issuesOn number,
            issue.finding.stage ≠ .rule) ∨
        (line.kind = .rule ∧
          ((LintReport.ofBytes data file checks).issuesOn number).filter
            (·.finding = .invalidEncoding) = [line.issue .invalidEncoding])) ∧
    ∀ other, ofBytes other (Utf8.encode line.text) =
      { number := other, text := line.text, shown := line.text, isUtf8 := true
        hasOuterSpace := false } := by
  intro decoded line
  have htrim : Text.IsTrimOf decoded line.text := isTrimOf_text number raw
  refine ⟨eq_body_or raw, rfl, Utf8.isValid_iff_exists_encode, ?decoded, htrim, ?outerSpace,
    shown_of_no_outerSpace number raw, ?shown, ?malformed, ?again⟩
  case decoded =>
    intro text h
    exact (congrArg Utf8.decodeLossy h).trans (Utf8.decodeLossy_encode text)
  case outerSpace => exact (hasOuterSpace_iff_ne number raw).trans htrim.ne_iff
  case shown =>
    intro h
    have hshown : line.shown = showControls decoded := shown_of_outerSpace number raw h
    rw [hshown]
    exact ⟨showControls_eq decoded, not_mem_showControls (.inl rfl),
      not_mem_showControls (.inr rfl)⟩
  case malformed =>
    intro h
    refine ⟨replacement_mem_text number raw h, ?_, text_ne_marker_of_malformed h, ?_⟩
    · rw [← Bool.not_eq_true, ← kind_eq_blank_iff]
      exact kind_ne_blank_of_malformed h
    · intro data file checks hm
      exact comment_or_reported_of_malformed h hm file checks
  case again =>
    intro other
    exact ofBytes_encode (Text.trim_trim decoded) other

/-- A tab, the start of a sequence that the following carriage return breaks off, and no rule
besides. -/
theorem ofBytes_normalizes_broken_off :
    let raw : Bytes := [0x09, 0xE2, 0x82, 0x0D, 0x0A]
    let line := ofBytes 1 raw
    line.hasOuterSpace = true ∧ line.isUtf8 = false ∧ line ∈ ofData raw ∧
      ('\t' ∉ line.shown ∧ '\r' ∉ line.shown) ∧ '\uFFFD' ∈ line.text ∧
      ((LintReport.ofBytes raw standardInput {}).issuesOn 1).filter
        (·.finding = .invalidEncoding) = [line.issue .invalidEncoding] := by
  intro raw line
  have hspace : line.hasOuterSpace = true := by decide
  have hmalformed : line.isUtf8 = false := by decide
  have hm : line ∈ ofData raw := List.mem_singleton.2 rfl
  obtain ⟨_, _, _, _, _, _, _, hshown, hbroken, _⟩ := ofBytes_normalizes raw 1
  obtain ⟨hreplaced, _, _, hreport⟩ := hbroken hmalformed
  refine ⟨hspace, hmalformed, hm, (hshown hspace).2, hreplaced, ?_⟩
  rcases hreport raw standardInput {} hm with ⟨hcomment, _⟩ | ⟨_, hreported⟩
  · exact absurd hcomment (by decide)
  · exact hreported

end Line
end SuffixLint
