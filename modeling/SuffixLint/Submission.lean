import SuffixLint.Linter

namespace SuffixLint

structure Inversion where
  line : Nat
  before : Text
  after : Text
deriving DecidableEq, Repr

structure Submission where
  title : Text
  line : Nat
  rules : Nat := 0
  inversions : List Inversion := []
deriving DecidableEq, Repr

structure SubmissionReview where
  file : Text
  titleInversions : List Inversion
  submissions : List Submission
deriving DecidableEq, Repr

namespace SubmissionReview

def isOrdered (review : SubmissionReview) : Bool :=
  review.titleInversions.isEmpty && review.submissions.all (·.inversions.isEmpty)

def inversionCount (review : SubmissionReview) : Nat :=
  (review.submissions.map (·.inversions.length)).foldl (· + ·) 0

end SubmissionReview

namespace Submission

def startsWithAddress (text : Text) : Bool :=
  "http://".toList.isPrefixOf text || "https://".toList.isPrefixOf text

/-- Whether a colon on the first line is followed by an address, spaces apart. -/
def announcesAddress : Text → Bool
  | [] => false
  | c :: rest =>
    if c = '\n' then false
    else c = ':' && startsWithAddress (rest.dropWhile (· = ' ')) || announcesAddress rest

def headerStart : Text := "// ".toList

def isHeader (text : Text) : Bool :=
  match headerStart.isPrefixOf? text with
  | none => false
  | some rest => announcesAddress rest

/-- The title of a header is what stands between the slashes and the first colon. -/
def titleOf? (text : Text) : Option Text :=
  if isHeader text then
    some (Text.trim ((text.drop Line.commentMark.length).takeWhile (· ≠ ':')))
  else none

end Submission

structure SubmissionScan where
  inSection : Bool := false
  closed : List Submission := []
  /-- The pairs of titles in the wrong order, last first. -/
  titleInversions : List Inversion := []
  /-- The submission under way; its inversions are listed last first. -/
  current : Option Submission := none
  previous : Option Text := none
deriving DecidableEq, Repr

namespace SubmissionScan

def close (scan : SubmissionScan) : SubmissionScan :=
  let ended := scan.current.map fun s => { s with inversions := s.inversions.reverse }
  { scan with closed := ended.toList ++ scan.closed, current := none, previous := none }

def takeHeader (scan : SubmissionScan) (number : Nat) (title : Text) : SubmissionScan :=
  let scan := scan.close
  let misplaced : List Inversion :=
    match scan.closed with
    | [] => []
    | earlier :: _ =>
      if compare earlier.title.lowercase title.lowercase = .gt then
        [{ line := number, before := earlier.title, after := title }]
      else []
  { scan with
    titleInversions := misplaced ++ scan.titleInversions
    current := some { title, line := number } }

/-- A rule belongs to the submission under way; before the first header it belongs to none. -/
def takeRule (scan : SubmissionScan) (number : Nat) (text : Text) : SubmissionScan :=
  match scan.current with
  | none => scan
  | some submission =>
    let misplaced : List Inversion :=
      match scan.previous with
      | none => []
      | some earlier =>
        if suffixMayPrecede (Rule.labels earlier) (Rule.labels text) then []
        else [{ line := number, before := earlier, after := text }]
    { scan with
      current := some { submission with
        rules := submission.rules + 1
        inversions := misplaced ++ submission.inversions }
      previous := some text }

def step (scan : SubmissionScan) (line : Line) : SubmissionScan :=
  if line.text = Section.opening .privateDomains then { scan with inSection := true }
  else if !scan.inSection then scan
  else if line.text = Section.closing .privateDomains then
    { scan.close with inSection := false }
  else
    match Submission.titleOf? line.text with
    | some title => scan.takeHeader line.number title
    | none =>
      match line.kind with
      | .rule => scan.takeRule line.number line.text
      | _ => scan

def run (scan : SubmissionScan) (lines : List Line) : SubmissionScan := lines.foldl step scan

def toReview (scan : SubmissionScan) (file : Text) : SubmissionReview :=
  let scan := scan.close
  { file
    titleInversions := scan.titleInversions.reverse
    submissions := scan.closed.reverse }

@[simp] theorem run_nil (scan : SubmissionScan) : scan.run [] = scan := rfl

@[simp] theorem run_cons (scan : SubmissionScan) (line : Line) (rest : List Line) :
    scan.run (line :: rest) = (scan.step line).run rest := rfl

end SubmissionScan

def SubmissionReview.ofLines (lines : List Line) (file : Text) : SubmissionReview :=
  (({} : SubmissionScan).run lines).toReview file

def SubmissionReview.ofText (text : Text) : SubmissionReview :=
  SubmissionReview.ofLines (Line.ofData (Utf8.encode text)) standardInput

def SubmissionReview.ofStream? (stream : Stream) (file : Text) :
    Except ReadFailure SubmissionReview :=
  match stream.failure with
  | some reason => .error { file, line := stream.lines.length, reason }
  | none => .ok (SubmissionReview.ofLines stream.lines file)

end SuffixLint
