import Mathlib.Algebra.GroupWithZero.Nat
import SuffixLint.Command.Run
import SuffixLint.Proofs.Linter.OneLine
import SuffixLint.Proofs.Submission.Review

namespace SuffixLint

namespace Outcome

/-- What is written can be taken apart into the lines again. -/
theorem splitOn_written {lines : List Text} (h : ∀ line ∈ lines, line.IsOneLine) :
    (written lines).splitOn Text.newline = lines ++ [[]] := by
  induction lines with
  | nil => rfl
  | cons line rest ih =>
    obtain ⟨hline, hrest⟩ := List.forall_mem_cons.1 h
    have hwritten : written (line :: rest) = line ++ Text.newline :: written rest := by
      rw [written, List.flatMap_cons, List.append_assoc]
      rfl
    rw [hwritten, List.splitOn_append_cons_self, List.splitOn_eq_singleton hline, ih hrest]
    rfl

end Outcome

namespace Style

theorem isOneLine_apply {text : Text} (h : text.IsOneLine) (style : Style) :
    (style.apply text).IsOneLine := by
  have hcodes : ∀ parameter ∈ ["1", "0", "31", "33", "39"], (sequence parameter).IsOneLine := by
    decide
  cases style with
  | bold => exact ((hcodes "1" (by simp)).append h).append (hcodes "0" (by simp))
  | red => exact ((hcodes "31" (by simp)).append h).append (hcodes "39" (by simp))
  | yellow => exact ((hcodes "33" (by simp)).append h).append (hcodes "39" (by simp))

end Style

theorem isOneLine_partSeparator : partSeparator.IsOneLine := by decide

theorem isOneLine_quote : Text.IsOneLine "'".toList := by decide

namespace Severity

theorem isOneLine_render (severity : Severity) (colored : Bool) :
    (severity.render colored).IsOneLine := by
  have hword : severity.word.IsOneLine := by cases severity <;> decide
  cases colored with
  | false => exact hword
  | true =>
    cases severity with
    | warning => exact Style.isOneLine_apply (Style.isOneLine_apply hword .yellow) .bold
    | error => exact Style.isOneLine_apply (Style.isOneLine_apply hword .red) .bold

end Severity

namespace Issue

theorem FitsLines.isOneLine_render {issue : Issue} (h : issue.FitsLines) (colored : Bool) :
    (issue.render colored).IsOneLine := by
  have hseparator := isOneLine_partSeparator
  have hplace := (Text.IsOneLine.ofNat issue.line).append hseparator
  have hseverity := (hplace.append (issue.severity.isOneLine_render colored)).append hseparator
  have hmessage := hseverity.append issue.finding.newline_not_mem_message
  apply hmessage.append
  split
  · exact .nil
  · next echo he =>
    exact ((hseparator.append isOneLine_quote).append (h.echo echo he)).append isOneLine_quote

end Issue

namespace Summary

theorem isOneLine_render (summary : Summary) : summary.render.IsOneLine := by
  have hnames : ∀ name ∈ ["errors=".toList, " warnings=".toList, " rules=".toList,
      " lines=".toList], Text.IsOneLine name := by
    decide
  simp only [List.forall_mem_cons] at hnames
  obtain ⟨herrors, hwarnings, hrules, hlines, -⟩ := hnames
  have hfaults := (herrors.append (.ofNat summary.errors)).append_field hwarnings summary.warnings
  exact (hfaults.append_field hrules summary.rules).append_field hlines summary.lines

end Summary

namespace LintReport

theorem isOneLine_of_mem_render {report : LintReport} (h : ∀ issue ∈ report.issues, issue.FitsLines)
    {colored : Bool} {line : Text} (hline : line ∈ report.render colored) : line.IsOneLine := by
  rcases List.mem_append.1 hline with hline | hline
  · obtain ⟨issue, hissue, hline⟩ := List.mem_flatMap.1 hline
    rcases List.mem_cons.1 hline with rfl | hdetail
    · exact (h issue hissue).isOneLine_render colored
    · exact (h issue hissue).details line hdetail
  · rw [List.mem_singleton.1 hline]
    split
    · exact Style.isOneLine_apply report.summary.isOneLine_render .bold
    · exact report.summary.isOneLine_render

/-- An issue takes a line and one for each of its details, and the totals take one. -/
theorem length_render (report : LintReport) (colored : Bool) :
    (report.render colored).length =
      report.issues.length + (report.issues.map (·.details.length)).sum + 1 := by
  rw [render, List.length_append, List.length_singleton, Nat.add_left_inj]
  induction report.issues with
  | nil => rfl
  | cons issue rest ih =>
    rw [List.flatMap_cons, List.length_append, ih]
    simp only [List.length_cons, List.map_cons, List.sum_cons]
    omega

end LintReport

namespace Inversion

structure FitsLines (pair : Inversion) : Prop where
  before : pair.before.IsOneLine
  after : pair.after.IsOneLine

theorem FitsLines.isOneLine_render {pair : Inversion} (h : pair.FitsLines) :
    pair.render.IsOneLine := by
  have hparts : ∀ part ∈ [": '".toList, "' before '".toList], Text.IsOneLine part := by decide
  simp only [List.forall_mem_cons] at hparts
  obtain ⟨hopening, hmiddle, -⟩ := hparts
  have hplace := Text.IsOneLine.cons (show '\t' ≠ Text.newline by decide) (.ofNat pair.line)
  have hbefore := (hplace.append hopening).append h.before
  exact ((hbefore.append hmiddle).append h.after).append isOneLine_quote

theorem fitsLines_of_mem_among {α : Type} {mayPrecede : Text → Text → Bool} {line : α → Nat}
    {text : α → Text} {items : List α} (h : ∀ item ∈ items, (text item).IsOneLine)
    {pair : Inversion} (hpair : pair ∈ among mayPrecede line text items) : pair.FitsLines := by
  obtain ⟨a, b, hab, -, rfl⟩ := (mem_among_iff mayPrecede line text).1 hpair
  exact ⟨h a (hab.subset (by simp)), h b (hab.subset (by simp))⟩

def listing (heading : Text) (pairs : List Inversion) : List Text :=
  if pairs.isEmpty then [] else heading :: pairs.map (·.render)

/-- The lines that some pairs take: one above them and one for each, or none for none. -/
def lineCount (pairs : List Inversion) : Nat := if pairs.isEmpty then 0 else pairs.length + 1

theorem isOneLine_of_mem_listing {heading : Text} (hheading : heading.IsOneLine)
    {pairs : List Inversion} (hpairs : ∀ pair ∈ pairs, pair.FitsLines) {line : Text}
    (hline : line ∈ listing heading pairs) : line.IsOneLine := by
  rw [listing] at hline
  split at hline
  · cases hline
  rcases List.mem_cons.1 hline with rfl | hline
  · exact hheading
  · obtain ⟨pair, hpair, rfl⟩ := List.mem_map.1 hline
    exact (hpairs pair hpair).isOneLine_render

theorem length_listing (heading : Text) (pairs : List Inversion) :
    (listing heading pairs).length = lineCount pairs := by
  rw [listing, lineCount]
  split
  · rfl
  · rw [List.length_cons, List.length_map]

theorem lineCount_eq_zero_iff {pairs : List Inversion} :
    lineCount pairs = 0 ↔ pairs.isEmpty = true := by
  rw [lineCount]
  split
  · exact iff_of_true rfl ‹_›
  · exact iff_of_false (Nat.succ_ne_zero _) ‹_›

end Inversion

namespace Submission

structure FitsLines (submission : Submission) : Prop where
  title : submission.title.IsOneLine
  inversions : ∀ pair ∈ submission.inversions, pair.FitsLines

theorem isOneLine_titleOf? {text title : Text} (h : text.IsOneLine)
    (htitle : titleOf? text = some title) : title.IsOneLine := by
  rw [titleOf?] at htitle
  split at htitle
  · obtain rfl := Option.some.inj htitle
    refine Text.IsOneLine.trim (h.of_subset ?_)
    exact ((List.takeWhile_sublist _).trans (List.drop_sublist _ _)).subset
  · cases htitle

theorem Header.fitsLines_submission {header : Header} {lines : List Line}
    (hlines : ∀ line ∈ lines, line.IsOneLine) (h : header.IsIn lines) :
    header.submission.FitsLines := by
  obtain ⟨before, rfl, -, htitle⟩ := h
  have hline : header.line.IsOneLine :=
    hlines _ (List.mem_append_right _ List.mem_cons_self)
  have hrules : ∀ line ∈ header.rules, line.text.IsOneLine := by
    intro line hm
    have hbelow : line ∈ header.below :=
      (List.takeWhile_sublist _).subset (List.filter_sublist.subset hm)
    exact (hlines line (List.mem_append_right _ (List.mem_cons_of_mem _ hbelow))).text
  exact ⟨isOneLine_titleOf? hline.text htitle,
    fun _ hpair => Inversion.fitsLines_of_mem_among hrules hpair⟩

theorem FitsLines.isOneLine_heading {submission : Submission} (h : submission.FitsLines) :
    submission.heading.IsOneLine := by
  have hparts : ∀ part ∈ ["The submission for ".toList, " (line ".toList,
      ") contains domains in an improper order, which are:".toList], Text.IsOneLine part := by
    decide +kernel
  simp only [List.forall_mem_cons] at hparts
  obtain ⟨hopening, hmiddle, hclosing, -⟩ := hparts
  exact (((hopening.append h.title).append hmiddle).append (.ofNat _)).append hclosing

theorem render_eq (submission : Submission) :
    submission.render = Inversion.listing submission.heading submission.inversions := rfl

end Submission

namespace SubmissionReview

theorem isOneLine_totals (review : SubmissionReview) : review.totals.IsOneLine := by
  have hnames : ∀ name ∈ ["submissions=".toList, " misordered_titles=".toList,
      " misordered_domains=".toList], Text.IsOneLine name := by
    decide +kernel
  simp only [List.forall_mem_cons] at hnames
  obtain ⟨hsubmissions, htitles, hdomains, -⟩ := hnames
  have hlength := hsubmissions.append (.ofNat review.submissions.length)
  exact (hlength.append_field htitles _).append_field hdomains _

theorem isOneLine_titlesHeading : titlesHeading.IsOneLine := by decide +kernel

theorem render_eq (review : SubmissionReview) :
    review.render =
      Inversion.listing titlesHeading review.titleInversions ++
        review.submissions.flatMap (·.render) ++ [review.totals] := rfl

structure FitsLines (review : SubmissionReview) : Prop where
  titles : ∀ pair ∈ review.titleInversions, pair.FitsLines
  submissions : ∀ submission ∈ review.submissions, submission.FitsLines

theorem fitsLines_ofLines {lines : List Line} (hlines : ∀ line ∈ lines, line.IsOneLine)
    (file : Text) : (ofLines lines file).FitsLines := by
  have hsubmissions : ∀ submission ∈ (Submission.Header.all lines).map (·.submission),
      submission.FitsLines := by
    intro submission hm
    obtain ⟨header, hheader, rfl⟩ := List.mem_map.1 hm
    exact Submission.Header.fitsLines_submission hlines (Submission.Header.mem_all.1 hheader)
  have htitles := fun submission hm => (hsubmissions submission hm).title
  rw [ofLines_eq]
  exact ⟨fun _ hpair => Inversion.fitsLines_of_mem_among htitles hpair, hsubmissions⟩

theorem FitsLines.isOneLine_of_mem_render {review : SubmissionReview} (h : review.FitsLines)
    {line : Text} (hline : line ∈ review.render) : line.IsOneLine := by
  rw [render_eq] at hline
  rcases List.mem_append.1 hline with hline | hline
  · rcases List.mem_append.1 hline with hline | hline
    · exact Inversion.isOneLine_of_mem_listing isOneLine_titlesHeading h.titles hline
    · obtain ⟨submission, hm, hline⟩ := List.mem_flatMap.1 hline
      have hsubmission := h.submissions submission hm
      exact Inversion.isOneLine_of_mem_listing hsubmission.isOneLine_heading
        hsubmission.inversions hline
  · rw [List.mem_singleton.1 hline]
    exact review.isOneLine_totals

theorem length_render (review : SubmissionReview) :
    review.render.length =
      1 + Inversion.lineCount review.titleInversions +
        (review.submissions.map fun submission =>
          Inversion.lineCount submission.inversions).sum := by
  rw [render_eq, List.length_append, List.length_append, Inversion.length_listing,
    List.length_flatMap, List.length_singleton]
  simp only [Submission.render_eq, Inversion.length_listing]
  omega

theorem length_render_eq_one_iff (review : SubmissionReview) :
    review.render.length = 1 ↔ review.isOrdered = true := by
  rw [isOrdered, Bool.and_eq_true, List.all_eq_true, ← Inversion.lineCount_eq_zero_iff]
  simp only [← Inversion.lineCount_eq_zero_iff]
  rw [← List.forall_mem_map (P := (· = 0)), ← List.sum_eq_zero_iff_forall_eq_nat, length_render]
  omega

end SubmissionReview

/-- Whatever a registry holds, its reports for people have the lines that they list and no others:
none of them holds a line feed, and the text that is written comes apart into just these. -/
theorem render_line_exact :
    (∀ (data : Bytes) (file : Text) (checks : Checks) (colored : Bool),
      let report := LintReport.ofBytes data file checks
      let lines := report.render colored
      (∀ line ∈ lines, Text.newline ∉ line) ∧
        lines.length = report.issues.length + (report.issues.map (·.details.length)).sum + 1 ∧
        (Outcome.written lines).splitOn Text.newline = lines ++ [[]]) ∧
    ∀ text : Text,
      let review := SubmissionReview.ofText text
      let lines := review.render
      (∀ line ∈ lines, Text.newline ∉ line) ∧
        (lines.length = 1 ↔ review.isOrdered = true) ∧
        lines.length = 1 + Inversion.lineCount review.titleInversions +
          (review.submissions.map fun submission =>
            Inversion.lineCount submission.inversions).sum ∧
        (Outcome.written lines).splitOn Text.newline = lines ++ [[]] := by
  constructor
  · intro data file checks colored report lines
    have hlines : ∀ line ∈ lines, line.IsOneLine := fun _ hline =>
      LintReport.isOneLine_of_mem_render (fun _ hissue => LintReport.fitsLines_of_mem_issues hissue)
        hline
    exact ⟨hlines, report.length_render colored, Outcome.splitOn_written hlines⟩
  · intro text review lines
    have hfits : review.FitsLines :=
      SubmissionReview.fitsLines_ofLines (fun _ hline => Line.isOneLine_of_mem_ofData hline) _
    have hlines : ∀ line ∈ lines, line.IsOneLine := fun _ hline =>
      hfits.isOneLine_of_mem_render hline
    exact ⟨hlines, review.length_render_eq_one_iff, review.length_render,
      Outcome.splitOn_written hlines⟩

end SuffixLint
