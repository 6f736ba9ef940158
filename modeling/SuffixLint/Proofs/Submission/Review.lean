import SuffixLint.Proofs.Submission.Headers

namespace SuffixLint

namespace SubmissionScan

open Submission

/-- What becomes of the submission under way when it gets further rules and then ends. -/
def finished (scan : SubmissionScan) (rules : List Line) : List Submission :=
  scan.current.toList.map fun submission =>
    { submission with
      rules := submission.rules + rules.length
      inversions := submission.inversions.reverse ++
        Inversion.following Rule.mayPrecede Line.number Line.text scan.previous rules }

/-- The submissions that a scan of the lines before will report when it has taken the rest. -/
def reported (scan : SubmissionScan) (before rest : List Line) : List Submission :=
  scan.closed.reverse ++ scan.finished (Line.rulesBelow rest) ++
    (Header.allAfter before rest).map (·.submission)

def lastTitle? (scan : SubmissionScan) : Option Text := scan.close.closed.head?.map (·.title)

def reportedTitles (scan : SubmissionScan) (before rest : List Line) : List Inversion :=
  scan.titleInversions.reverse ++
    Inversion.following titleMayPrecede Submission.line Submission.title scan.lastTitle?
      ((Header.allAfter before rest).map (·.submission))

theorem closed_close (scan : SubmissionScan) :
    scan.close.closed.reverse = scan.closed.reverse ++ scan.finished [] := by
  rw [close, finished]
  cases scan.current <;> simp [Inversion.following]

theorem finished_of_idle {scan : SubmissionScan} (h : scan.current = none) (rules : List Line) :
    scan.finished rules = [] := by
  rw [finished, h]
  rfl

theorem closed_takeHeader (scan : SubmissionScan) (number : Nat) (title : Text) :
    (scan.takeHeader number title).closed = scan.close.closed := rfl

theorem finished_takeHeader (scan : SubmissionScan) (line : Line) (title : Text)
    (below : List Line) :
    (scan.takeHeader line.number title).finished (Line.rulesBelow below) =
      [({ line, title, below } : Header).submission] := by
  simp only [finished, takeHeader, close, Option.toList_some, List.map_singleton,
    List.reverse_nil, List.nil_append, Nat.zero_add, Inversion.following_none]
  rfl

theorem titleInversions_takeHeader (scan : SubmissionScan) (number : Nat) (title : Text) :
    (scan.takeHeader number title).titleInversions =
      Inversion.withPrevious titleMayPrecede scan.lastTitle? number title ++
        scan.titleInversions := by
  rw [lastTitle?, takeHeader]
  refine congrArg (· ++ scan.titleInversions) ?_
  cases scan.close.closed with
  | nil => rfl
  | cons earlier closed =>
    simp only [compare_title_eq_gt_iff, Inversion.withPrevious, List.head?_cons, Option.map_some]
    cases titleMayPrecede earlier.title title <;> rfl

theorem lastTitle?_takeHeader (scan : SubmissionScan) (number : Nat) (title : Text) :
    (scan.takeHeader number title).lastTitle? = some title := rfl

theorem takeRule_of_idle {scan : SubmissionScan} (h : scan.current = none) (number : Nat)
    (text : Text) : scan.takeRule number text = scan := by
  rw [takeRule, h]

theorem takeRule_of_current {scan : SubmissionScan} {submission : Submission}
    (h : scan.current = some submission) (number : Nat) (text : Text) :
    scan.takeRule number text =
      { scan with
        current := some { submission with
          rules := submission.rules + 1
          inversions := Inversion.withPrevious Rule.mayPrecede scan.previous number text ++
            submission.inversions }
        previous := some text } := by
  rw [takeRule, h]
  cases scan.previous <;> rfl

theorem closed_takeRule (scan : SubmissionScan) (number : Nat) (text : Text) :
    (scan.takeRule number text).closed = scan.closed := by
  cases h : scan.current with
  | none => rw [takeRule_of_idle h]
  | some submission => rw [takeRule_of_current h]

theorem finished_takeRule (scan : SubmissionScan) (line : Line) (rules : List Line) :
    (scan.takeRule line.number line.text).finished rules = scan.finished (line :: rules) := by
  cases h : scan.current with
  | none => rw [takeRule_of_idle h, finished_of_idle h, finished_of_idle h]
  | some submission =>
    simp only [takeRule_of_current h, finished, h, Option.toList_some, List.map_singleton,
      List.reverse_append, Inversion.reverse_withPrevious, List.length_cons, Inversion.following,
      List.append_assoc, Nat.add_assoc, Nat.add_comm 1]

theorem titleInversions_takeRule (scan : SubmissionScan) (number : Nat) (text : Text) :
    (scan.takeRule number text).titleInversions = scan.titleInversions := by
  cases h : scan.current with
  | none => rw [takeRule_of_idle h]
  | some submission => rw [takeRule_of_current h]

theorem lastTitle?_takeRule (scan : SubmissionScan) (number : Nat) (text : Text) :
    (scan.takeRule number text).lastTitle? = scan.lastTitle? := by
  cases h : scan.current with
  | none => rw [takeRule_of_idle h]
  | some submission =>
    rw [takeRule_of_current h, lastTitle?, lastTitle?, close, close, h]
    rfl

variable {scan next : SubmissionScan} {before : List Line} {line : Line}

/-- What will be reported stays the same with each line that is taken. -/
theorem Takes.reported (h : scan.Takes line next) (coherent : scan.Coherent)
    (hin : scan.inSection = Line.inPrivate before) (rest : List Line) :
    next.reported (before ++ [line]) rest = scan.reported before (line :: rest) ∧
      next.reportedTitles (before ++ [line]) rest = scan.reportedTitles before (line :: rest) := by
  simp only [SubmissionScan.reported, reportedTitles]
  cases h with
  | opening hpart =>
    rw [Line.rulesBelow_of_other _ (.inl hpart), Header.allAfter_of_not_header _ (by simp [hpart])]
    exact ⟨rfl, rfl⟩
  | outside hpart hout =>
    rw [Header.allAfter_of_outside _ (hin.symm.trans hout),
      finished_of_idle (coherent.outside hout), finished_of_idle (coherent.outside hout)]
    exact ⟨rfl, rfl⟩
  | closing hpart hinside =>
    rw [Line.rulesBelow_of_ends _ (.inl hpart), Header.allAfter_of_not_header _ (by simp [hpart]),
      ← closed_close, finished_of_idle rfl, List.append_nil]
    exact ⟨rfl, rfl⟩
  | header hpart hinside =>
    rw [Line.rulesBelow_of_ends _ (.inr ⟨_, hpart⟩),
      Header.allAfter_of_header _ (hin.symm.trans hinside) hpart, closed_takeHeader, closed_close,
      finished_takeHeader, titleInversions_takeHeader, lastTitle?_takeHeader, List.reverse_append,
      Inversion.reverse_withPrevious, List.map_cons, Inversion.following]
    simp only [List.append_assoc, List.singleton_append, true_and]
    rfl
  | rule hpart hinside =>
    rw [Line.rulesBelow_of_rule _ hpart, Header.allAfter_of_not_header _ (by simp [hpart]),
      closed_takeRule, finished_takeRule, titleInversions_takeRule, lastTitle?_takeRule]
    exact ⟨rfl, rfl⟩
  | other hpart hinside =>
    rw [Line.rulesBelow_of_other _ (.inr hpart), Header.allAfter_of_not_header _ (by simp [hpart])]
    exact ⟨rfl, rfl⟩

theorem reported_run (coherent : scan.Coherent) (hin : scan.inSection = Line.inPrivate before)
    (rest : List Line) :
    (scan.run rest).close.closed.reverse = scan.reported before rest ∧
      (scan.run rest).titleInversions.reverse = scan.reportedTitles before rest := by
  induction rest generalizing scan before with
  | nil =>
    rw [run_nil, closed_close, SubmissionScan.reported, reportedTitles]
    exact ⟨(List.append_nil _).symm, (List.append_nil _).symm⟩
  | cons line rest ih =>
    have htakes := takes_step scan line
    have hnext : (scan.step line).inSection = Line.inPrivate (before ++ [line]) := by
      rw [htakes.inSection, hin, Line.inPrivate_append_singleton]
    obtain ⟨hreported, htitles⟩ := htakes.reported coherent hin rest
    rw [run_cons, ← hreported, ← htitles]
    exact ih (htakes.coherent coherent) hnext

end SubmissionScan

namespace SubmissionReview

open Submission

theorem ofLines_eq (lines : List Line) (file : Text) :
    ofLines lines file =
      { file
        submissions := (Header.all lines).map (·.submission)
        titleInversions := Inversion.among titleMayPrecede Submission.line Submission.title
          ((Header.all lines).map (·.submission)) } := by
  have hrun : _ ∧ _ :=
    SubmissionScan.reported_run SubmissionScan.coherent_start Line.inPrivate_nil.symm lines
  have hsubmissions : (({} : SubmissionScan).run lines).close.closed.reverse =
      (Header.all lines).map (·.submission) := hrun.1
  have htitles : (({} : SubmissionScan).run lines).close.titleInversions.reverse =
      Inversion.following titleMayPrecede Submission.line Submission.title none
        ((Header.all lines).map (·.submission)) := hrun.2
  rw [ofLines, SubmissionScan.toReview, hsubmissions, htitles, Inversion.following_none]

/-- The submissions that are reported are those of the headers in the private section, in the order
of their lines, and the titles out of order are those of neighbours among them. -/
theorem submissions_of_headers (text : Text) :
    let lines := Line.ofData (Utf8.encode text)
    let headers := Header.all lines
    let review := ofText text
    (∀ header, header ∈ headers ↔ header.IsIn lines) ∧
      headers.Pairwise (fun a b => a.line.number < b.line.number) ∧
      review.submissions = headers.map (·.submission) ∧
      review.titleInversions =
        Inversion.among titleMayPrecede Submission.line Submission.title review.submissions := by
  intro lines headers review
  have hreview : review = _ := ofLines_eq lines standardInput
  rw [hreview]
  exact ⟨fun _ => Header.mem_all, Header.pairwise_all (Line.increasing_ofData _), rfl, rfl⟩

/-- A rule above the first header counts for nothing, and opening the section once more ends no
submission. -/
example :
    let text := "// ===BEGIN PRIVATE DOMAINS===\nx\n// A : http://a\nb\n".toList ++
      "// ===BEGIN PRIVATE DOMAINS===\na".toList
    (ofText text).submissions =
      [{ title := "A".toList, line := 3, rules := 2
         inversions := [{ line := 6, before := "b".toList, after := "a".toList }] }] := by
  decide

end SubmissionReview
end SuffixLint
