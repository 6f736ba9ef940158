import Mathlib.Data.List.DropRight
import Mathlib.Data.List.Induction
import SuffixLint.Submission

namespace SuffixLint

inductive LinePart where
  | opening
  | closing
  | header (title : Text)
  | rule
  | other
deriving DecidableEq, Repr

namespace Line

def opensPrivate (line : Line) : Bool := line.text = Section.opening .privateDomains

def closesPrivate (line : Line) : Bool := line.text = Section.closing .privateDomains

def isHeader (line : Line) : Bool := Submission.isHeader line.text

/-- Whether the private section has been opened and not been closed since. -/
def inPrivate (before : List Line) : Bool :=
  (before.rtakeWhile (!·.closesPrivate)).any (·.opensPrivate)

def part (line : Line) : LinePart :=
  if line.text = Section.opening .privateDomains then .opening
  else if line.text = Section.closing .privateDomains then .closing
  else
    match Submission.titleOf? line.text with
    | some title => .header title
    | none => if line.kind = .rule then .rule else .other

theorem isSome_titleOf? (text : Text) :
    (Submission.titleOf? text).isSome = Submission.isHeader text := by
  rw [Submission.titleOf?]
  split
  · next h => rw [h, Option.isSome_some]
  · next h => rw [Bool.not_eq_true _ |>.mp h, Option.isSome_none]

theorem titleOf?_marker {text : Text}
    (h : text = Section.opening .privateDomains ∨ text = Section.closing .privateDomains) :
    Submission.titleOf? text = none := by
  rcases h with rfl | rfl <;> decide

theorem kind_marker {line : Line}
    (h : line.text = Section.opening .privateDomains ∨
      line.text = Section.closing .privateDomains) : line.kind = .comment := by
  rw [kind]
  rcases h with h | h <;> rw [h] <;> decide

theorem kind_of_isHeader {line : Line} (h : line.isHeader = true) : line.kind = .comment := by
  rw [isHeader, Submission.isHeader] at h
  split at h
  · cases h
  · next rest hrest =>
    rw [kind, ← List.append_eq_of_isPrefixOf?_eq_some hrest]
    rfl

theorem part_eq_opening_iff {line : Line} :
    line.part = .opening ↔ line.text = Section.opening .privateDomains := by
  rw [part]
  repeat' split
  all_goals simp_all

theorem part_eq_closing_iff {line : Line} :
    line.part = .closing ↔ line.text = Section.closing .privateDomains := by
  have hne : Section.opening .privateDomains ≠ Section.closing .privateDomains := by decide
  rw [part]
  repeat' split
  all_goals simp_all

theorem part_eq_header_iff {line : Line} {title : Text} :
    line.part = .header title ↔ Submission.titleOf? line.text = some title := by
  rw [part]
  split
  · next h => simp [titleOf?_marker (.inl h)]
  · split
    · next h => simp [titleOf?_marker (.inr h)]
    · repeat' split
      all_goals simp_all

theorem part_eq_rule_iff {line : Line} : line.part = .rule ↔ line.kind = .rule := by
  rw [part]
  split
  · next h => simp [kind_marker (.inl h)]
  · split
    · next h => simp [kind_marker (.inr h)]
    · split
      · next title h =>
        have hheader : line.isHeader = true := by
          rw [isHeader, ← isSome_titleOf?, h, Option.isSome_some]
        simp [kind_of_isHeader hheader]
      · split <;> simp_all

theorem opensPrivate_eq (line : Line) : line.opensPrivate = decide (line.part = .opening) := by
  rw [opensPrivate, decide_eq_decide, part_eq_opening_iff]

theorem closesPrivate_eq (line : Line) : line.closesPrivate = decide (line.part = .closing) := by
  rw [closesPrivate, decide_eq_decide, part_eq_closing_iff]

theorem isHeader_iff {line : Line} : line.isHeader = true ↔ ∃ title, line.part = .header title := by
  simp only [part_eq_header_iff, isHeader, ← isSome_titleOf?, Option.isSome_iff_exists]

theorem not_isHeader {line : Line} (h : ∀ title, line.part ≠ .header title) :
    line.isHeader = false := by
  rw [← Bool.not_eq_true, isHeader_iff]
  rintro ⟨title, htitle⟩
  exact h title htitle

@[simp] theorem inPrivate_nil : inPrivate [] = false := rfl

theorem inPrivate_append_singleton (before : List Line) (line : Line) :
    inPrivate (before ++ [line]) =
      (!line.closesPrivate && (inPrivate before || line.opensPrivate)) := by
  rw [inPrivate, inPrivate, List.rtakeWhile_concat]
  cases line.closesPrivate <;> simp

end Line

namespace SubmissionScan

inductive Takes (scan : SubmissionScan) (line : Line) : SubmissionScan → Prop where
  | opening : line.part = .opening → Takes scan line { scan with inSection := true }
  | outside : line.part ≠ .opening → scan.inSection = false → Takes scan line scan
  | closing : line.part = .closing → scan.inSection = true →
    Takes scan line { scan.close with inSection := false }
  | header {title : Text} : line.part = .header title → scan.inSection = true →
    Takes scan line (scan.takeHeader line.number title)
  | rule : line.part = .rule → scan.inSection = true →
    Takes scan line (scan.takeRule line.number line.text)
  | other : line.part = .other → scan.inSection = true → Takes scan line scan

theorem step_of_inside {scan : SubmissionScan} {line : Line} (inside : scan.inSection = true)
    (h : line.part ≠ .opening) :
    scan.step line =
      match line.part with
      | .closing => { scan.close with inSection := false }
      | .header title => scan.takeHeader line.number title
      | .rule => scan.takeRule line.number line.text
      | _ => scan := by
  have hopening := mt Line.part_eq_opening_iff.2 h
  rw [step, if_neg hopening, inside, Line.part, if_neg hopening]
  simp only [Bool.not_true, Bool.false_eq_true, if_false]
  split
  · rfl
  · cases Submission.titleOf? line.text with
    | some title => rfl
    | none => cases line.kind <;> rfl

theorem takes_step (scan : SubmissionScan) (line : Line) : scan.Takes line (scan.step line) := by
  by_cases hopening : line.part = .opening
  · rw [step, if_pos (Line.part_eq_opening_iff.1 hopening)]
    exact .opening hopening
  · cases hin : scan.inSection with
    | false =>
      rw [step, if_neg (mt Line.part_eq_opening_iff.2 hopening), hin]
      exact .outside hopening hin
    | true =>
      rw [step_of_inside hin hopening]
      cases hpart : line.part with
      | opening => exact absurd hpart hopening
      | closing => exact .closing hpart hin
      | header title => exact .header hpart hin
      | rule => exact .rule hpart hin
      | other => exact .other hpart hin

theorem run_append_singleton (scan : SubmissionScan) (lines : List Line) (line : Line) :
    scan.run (lines ++ [line]) = (scan.run lines).step line := by
  rw [run, List.foldl_append]
  rfl

variable {scan next : SubmissionScan} {line : Line}

theorem Takes.inSection (h : scan.Takes line next) :
    next.inSection = (!line.closesPrivate && (scan.inSection || line.opensPrivate)) := by
  rw [Line.closesPrivate_eq, Line.opensPrivate_eq]
  cases h with
  | opening hpart => simp [hpart]
  | outside hpart hout => simp [hpart, hout]
  | closing hpart hin => simp [hpart]
  | header hpart hin => simp [hpart, hin, takeHeader, close]
  | rule hpart hin =>
    rw [takeRule]
    split <;> simp [hpart, hin]
  | other hpart hin => simp [hpart, hin]

theorem inSection_run (lines : List Line) :
    (({} : SubmissionScan).run lines).inSection = Line.inPrivate lines := by
  induction lines using List.reverseRecOn with
  | nil => rfl
  | append_singleton lines line ih =>
    rw [run_append_singleton, (takes_step _ line).inSection, ih, Line.inPrivate_append_singleton]

/-- A submission is under way in the private section only, and there is an earlier rule below a
header only. -/
structure Coherent (scan : SubmissionScan) : Prop where
  outside : scan.inSection = false → scan.current = none
  headless : scan.current = none → scan.previous = none

theorem coherent_start : Coherent {} := ⟨fun _ => rfl, fun _ => rfl⟩

theorem Takes.coherent (h : scan.Takes line next) (hscan : scan.Coherent) : next.Coherent := by
  cases h with
  | opening => exact ⟨(fun hout => nomatch hout), hscan.headless⟩
  | outside => exact hscan
  | closing => exact ⟨fun _ => rfl, fun _ => rfl⟩
  | header _ hin => exact ⟨fun hout => absurd (hin.symm.trans hout) (by decide), fun h => nomatch h⟩
  | rule _ hin =>
    rw [takeRule]
    split
    · exact hscan
    · exact ⟨fun hout => absurd (hin.symm.trans hout) (by decide), fun h => nomatch h⟩
  | other => exact hscan

end SubmissionScan
end SuffixLint
