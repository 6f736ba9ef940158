import SuffixLint.Proofs.Submission.Review

namespace SuffixLint

namespace Submission

/-- The order of submissions: by their titles in small letters. -/
def TitleLE (a b : Submission) : Prop := a.title.lowercase ≤ b.title.lowercase

instance : DecidableRel TitleLE := fun a b =>
  inferInstanceAs (Decidable (a.title.lowercase ≤ b.title.lowercase))

instance : IsTrans Submission TitleLE := ⟨fun _ _ _ => le_trans⟩

theorem titleLE_of_mayPrecede {a b : Submission}
    (h : titleMayPrecede a.title b.title = true) : a.TitleLE b := by
  rw [titleMayPrecede, decide_eq_true_eq] at h
  exact h

end Submission

namespace Line

/-- The order of rules: by their labels, the top level first. -/
def LabelsLE (a b : Line) : Prop := (Rule.labels a.text).reverse ≤ (Rule.labels b.text).reverse

instance : DecidableRel LabelsLE := fun a b =>
  inferInstanceAs (Decidable ((Rule.labels a.text).reverse ≤ (Rule.labels b.text).reverse))

instance : IsTrans Line LabelsLE := ⟨fun _ _ _ => le_trans⟩

theorem text_ne_nil_of_isRule {line : Line} (h : line.isRule = true) : line.text ≠ [] := by
  intro hnil
  rw [isRule_iff, kind, hnil] at h
  cases h

theorem isRule_of_mem_rulesBelow {lines : List Line} {line : Line} (h : line ∈ rulesBelow lines) :
    line.isRule = true :=
  (List.mem_filter.1 h).2

end Line

namespace Submission.Header

variable {header : Header}

theorem labelsLE_of_mayPrecede (topLevel : ∀ rule ∈ header.rules, rule.text.getLast? ≠ some '.') :
    ∀ a ∈ header.rules, ∀ b ∈ header.rules,
      Rule.mayPrecede a.text b.text = true → a.LabelsLE b := by
  have htop : ∀ rule ∈ header.rules, lacksTopLevel (Rule.labels rule.text) = false := by
    intro rule hrule
    have hne := Line.text_ne_nil_of_isRule (Line.isRule_of_mem_rulesBelow hrule)
    rw [← Bool.not_eq_true, Rule.lacksTopLevel_labels_iff]
    exact not_or.2 ⟨hne, topLevel rule hrule⟩
  intro a ha b hb h
  exact (Rule.mayPrecede_iff (htop a ha) (htop b hb)).1 h

end Submission.Header

namespace SubmissionReview

open Submission

theorem titleInversions_of_isOrdered {review : SubmissionReview} (h : review.isOrdered = true) :
    review.titleInversions = [] :=
  List.isEmpty_iff.1 (Bool.and_eq_true_iff.1 h).1

theorem inversions_of_isOrdered {review : SubmissionReview} (h : review.isOrdered = true)
    {submission : Submission} (hm : submission ∈ review.submissions) :
    submission.inversions = [] :=
  List.isEmpty_iff.1 (List.all_eq_true.1 (Bool.and_eq_true_iff.1 h).2 submission hm)

/-- Whatever is out of order in a registry, near or far apart, has an inversion reported between;
where none is reported, all titles are in order, and the rules of each submission. -/
theorem sorted_of_isOrdered (text : Text) :
    let headers := Header.all (Line.ofData (Utf8.encode text))
    let review := ofText text
    review.submissions = headers.map (·.submission) ∧
      (review.isOrdered = true → review.submissions.Pairwise TitleLE) ∧
      Inversion.ReportsBetween Submission.line Submission.title TitleLE
        review.titleInversions review.submissions ∧
      ∀ header ∈ headers, (∀ rule ∈ header.rules, rule.text.getLast? ≠ some '.') →
        (review.isOrdered = true → header.rules.Pairwise Line.LabelsLE) ∧
        Inversion.ReportsBetween Line.number Line.text Line.LabelsLE
          header.submission.inversions header.rules := by
  intro headers review
  have hreview : review = _ := ofLines_eq _ standardInput
  have hsubmissions : review.submissions = headers.map (·.submission) := by rw [hreview]
  have htitles : review.titleInversions =
      Inversion.among titleMayPrecede Submission.line Submission.title review.submissions := by
    rw [hreview]
  refine ⟨hsubmissions, ?titles, ?titlesBetween, ?rules⟩
  case titles =>
    intro hordered
    exact Inversion.pairwise_of_among_eq_nil (fun _ _ _ _ => titleLE_of_mayPrecede)
      (htitles.symm.trans (titleInversions_of_isOrdered hordered))
  case titlesBetween =>
    rw [htitles]
    exact Inversion.reportsBetween_among fun _ _ _ _ => titleLE_of_mayPrecede
  case rules =>
    intro header hheader htop
    refine ⟨?_, Inversion.reportsBetween_among (Header.labelsLE_of_mayPrecede htop)⟩
    intro hordered
    have hm : header.submission ∈ review.submissions := by
      rw [hsubmissions]
      exact List.mem_map_of_mem hheader
    exact Inversion.pairwise_of_among_eq_nil (Header.labelsLE_of_mayPrecede htop)
      (inversions_of_isOrdered hordered hm)

/-- A registry whose titles are in order only in small letters, one where the first rule belongs
below the last with another rule between the two, and one where the titles stand like that. -/
theorem sorted_of_isOrdered_ordered_and_apart :
    let ordered :=
      "// ===BEGIN PRIVATE DOMAINS===\n// a : http://a\na.b\nb.b\n// B : http://b".toList
    let apart := "// ===BEGIN PRIVATE DOMAINS===\n// A : http://a\nb.b\nc.b\na.b".toList
    let titles :=
      "// ===BEGIN PRIVATE DOMAINS===\n// b : http://b\n// C : http://c\n// A : http://a".toList
    ((ofText ordered).isOrdered = true ∧
        (ofText ordered).submissions.map (·.title) = ["a".toList, "B".toList] ∧
        (ofText ordered).submissions.Pairwise TitleLE ∧
        (∃ header ∈ Header.all (Line.ofData (Utf8.encode ordered)),
          header.rules.map (·.text) = ["a.b".toList, "b.b".toList]) ∧
        ∀ header ∈ Header.all (Line.ofData (Utf8.encode ordered)),
          header.rules.Pairwise Line.LabelsLE) ∧
      (∃ header, Header.all (Line.ofData (Utf8.encode apart)) = [header] ∧
        header.rules.map (·.text) = ["b.b".toList, "c.b".toList, "a.b".toList] ∧
        ∃ x y, [x, y] <:+: header.rules ∧
          { line := y.number, before := x.text, after := y.text } ∈
            header.submission.inversions) ∧
      (ofText titles).submissions.map (·.title) = ["b".toList, "C".toList, "A".toList] ∧
      ∃ x y, [x, y] <:+: (ofText titles).submissions ∧
        { line := y.line, before := x.title, after := y.title } ∈
          (ofText titles).titleInversions := by
  intro ordered apart titles
  refine ⟨?ordered, ?apart, ?titles⟩
  case ordered =>
    have hordered : (ofText ordered).isOrdered = true := by decide
    have htop : ∀ header ∈ Header.all (Line.ofData (Utf8.encode ordered)),
        ∀ rule ∈ header.rules, rule.text.getLast? ≠ some '.' := by decide
    obtain ⟨_, htitles, _, hrules⟩ := sorted_of_isOrdered ordered
    refine ⟨hordered, by decide, htitles hordered, by decide, ?_⟩
    intro header hm
    exact (hrules header hm (htop header hm)).1 hordered
  case apart =>
    let first := Line.ofBytes 3 (Utf8.encode "b.b".toList)
    let second := Line.ofBytes 4 (Utf8.encode "c.b".toList)
    let third := Line.ofBytes 5 (Utf8.encode "a.b".toList)
    have hall : (Header.all (Line.ofData (Utf8.encode apart))).map (·.rules) =
        [[first, second, third]] := by decide
    obtain ⟨header, hheader, hlines⟩ := List.map_eq_singleton_iff.1 hall
    obtain ⟨_, _, _, hrules⟩ := sorted_of_isOrdered apart
    have hbetween := hrules header (hheader ▸ List.mem_singleton_self header)
    rw [hlines] at hbetween
    refine ⟨header, hheader, by rw [hlines]; decide, ?_⟩
    rw [hlines]
    exact (hbetween (by decide)).2 [] first [second] third [] rfl (by decide)
  case titles =>
    let first : Submission := { title := "b".toList, line := 2 }
    let second : Submission := { title := "C".toList, line := 3 }
    let third : Submission := { title := "A".toList, line := 4 }
    have hsubmissions : (ofText titles).submissions = [first, second, third] := by decide
    obtain ⟨_, _, hbetween, _⟩ := sorted_of_isOrdered titles
    rw [hsubmissions] at hbetween ⊢
    exact ⟨rfl, hbetween [] first [second] third [] rfl (by decide)⟩

/-- A rule without a top level hides an inversion from its neighbours. -/
example :
    let text := "// ===BEGIN PRIVATE DOMAINS===\n// A : http://a\nb.a\nx.\na.a".toList
    (ofText text).isOrdered = true ∧
      ¬ ∀ header ∈ Header.all (Line.ofData (Utf8.encode text)),
        header.rules.Pairwise Line.LabelsLE := by
  decide

end SubmissionReview
end SuffixLint
