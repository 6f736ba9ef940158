import SuffixLint.Proofs.Line.Rewrite
import SuffixLint.Submission

namespace SuffixLint

namespace Line

theorem body_of_not_mem {raw : Bytes} (h : feed ∉ raw) : body raw = raw :=
  if_neg fun hlast => h (List.mem_of_getLast? hlast)

theorem IsCut.feed_not_mem_body {raws : List Bytes} (h : IsCut raws) :
    ∀ raw ∈ raws, feed ∉ body raw := by
  induction h with
  | nil => intro raw hm; cases hm
  | last _ hbody =>
    intro raw hm
    rw [List.mem_singleton.1 hm, body_of_not_mem hbody]
    exact hbody
  | cons hbody _ ih =>
    intro raw hm
    rcases List.mem_cons.1 hm with rfl | hm
    · rw [body_append_feed]
      exact hbody
    · exact ih raw hm

theorem numberFrom_map_body (first : Nat) {raws : List Bytes}
    (h : ∀ raw ∈ raws, feed ∉ body raw) :
    numberFrom first (raws.map body) = numberFrom first raws := by
  induction raws generalizing first with
  | nil => rfl
  | cons raw raws ih =>
    obtain ⟨hraw, hrest⟩ := List.forall_mem_cons.1 h
    have hline : ofBytes first (body raw) = ofBytes first raw := by
      rw [ofBytes, body_of_not_mem hraw, ofBytes]
    rw [List.map_cons, numberFrom, hline, ih _ hrest, numberFrom]

end Line

namespace Stream

theorem takeChunk_append (current a b : Bytes) :
    takeChunk current (a ++ b) =
      ((takeChunk current a).1 ++ (takeChunk (takeChunk current a).2 b).1,
        (takeChunk (takeChunk current a).2 b).2) := by
  induction a generalizing current with
  | nil => rfl
  | cons octet a ih =>
    rw [List.cons_append, takeChunk, takeChunk]
    split
    · simp only [ih, List.cons_append]
    · exact ih _

theorem takeChunks_eq (current : Bytes) (chunks : List Bytes) :
    takeChunks current chunks = takeChunk current chunks.flatten := by
  induction chunks generalizing current with
  | nil => rfl
  | cons chunk chunks ih =>
    rw [takeChunks, List.flatten_cons, takeChunk_append]
    simp only [ih]

theorem length_takeChunk (current data : Bytes) :
    (takeChunk current data).1.length = data.count Line.feed := by
  induction data generalizing current with
  | nil => rfl
  | cons octet rest ih =>
    rw [takeChunk]
    split
    · next he => rw [he, List.length_cons, ih, List.count_cons_self]
    · next hne => rw [ih, List.count_cons_of_ne hne]

def unfinished (last : Bytes) : List Bytes := if last = [] then [] else [last.reverse]

/-- The lines that a piece completes and the unfinished one are the lines in memory, without their
line feeds. -/
theorem takeChunk_append_unfinished {current : Bytes} (h : Line.feed ∉ current) (data : Bytes) :
    (takeChunk current data).1 ++ unfinished (takeChunk current data).2 =
      (Line.splitFrom current data).map Line.body := by
  have hreverse {current : Bytes} (h : Line.feed ∉ current) : Line.feed ∉ current.reverse :=
    mt List.mem_reverse.1 h
  induction data generalizing current with
  | nil =>
    rw [takeChunk, List.nil_append, unfinished, Line.splitFrom]
    simp only [List.isEmpty_iff]
    split
    · rfl
    · exact congrArg (· :: []) (Line.body_of_not_mem (hreverse h)).symm
  | cons octet rest ih =>
    rw [takeChunk, Line.splitFrom]
    split
    · next he =>
      rw [he, List.reverse_cons, List.map_cons, Line.body_append_feed, ← ih List.not_mem_nil]
      rfl
    · next hne => exact ih (List.not_mem_cons_of_ne_of_not_mem (Ne.symm hne) h)

theorem rawLines_of_regular {stream : Stream} (regular : stream.failure = none) :
    stream.rawLines = (Line.split stream.bytes).map Line.body := by
  have htaken : takeChunks [] stream.chunks = takeChunk [] stream.bytes := takeChunks_eq _ _
  rw [rawLines, regular, htaken, Line.split, ← takeChunk_append_unfinished List.not_mem_nil,
    unfinished]
  simp only [Option.isSome_none, Bool.false_or, List.isEmpty_iff]
  split
  · rw [List.append_nil]
  · rfl

theorem lines_of_regular {stream : Stream} (regular : stream.failure = none) :
    stream.lines = Line.ofData stream.bytes := by
  rw [lines, rawLines_of_regular regular,
    Line.numberFrom_map_body _ (Line.isCut_split _).feed_not_mem_body]
  rfl

/-- Where reading breaks off, the lines so far are those that a line feed has ended. -/
theorem length_lines_of_failure {stream : Stream} (broken : stream.failure.isSome = true) :
    stream.lines.length = stream.bytes.count Line.feed := by
  rw [lines, Line.length_numberFrom, rawLines, broken, takeChunks_eq]
  exact length_takeChunk [] _

/-- A registry that is read in pieces is reported on as if it were in memory. Where reading breaks
off there is no report, and the failure names the last line that a line feed has ended. -/
theorem reports_as_in_memory (chunks : List Bytes) (file : Text) (checks : Checks) :
    LintReport.ofStream? { chunks } file checks =
        .ok (LintReport.ofBytes chunks.flatten file checks) ∧
      (∀ text, Utf8.decode? chunks.flatten = some text →
        SubmissionReview.ofStream? { chunks } file =
          .ok { SubmissionReview.ofText text with file }) ∧
      ∀ reason,
        let failure := { file, line := chunks.flatten.count Line.feed, reason }
        LintReport.ofStream? { chunks, failure := some reason } file checks = .error failure ∧
          SubmissionReview.ofStream? { chunks, failure := some reason } file = .error failure := by
  have hlines : ({ chunks } : Stream).lines = Line.ofData chunks.flatten := lines_of_regular rfl
  refine ⟨?_, ?_, ?_⟩
  · rw [LintReport.ofStream?, hlines]
    rfl
  · intro text hdecode
    rw [SubmissionReview.ofStream?, hlines, ← Utf8.decode?_eq_some_iff.1 hdecode]
    rfl
  · intro reason failure
    have hlength : ({ chunks, failure := some reason } : Stream).lines.length =
        chunks.flatten.count Line.feed := length_lines_of_failure rfl
    refine ⟨?_, ?_⟩
    · rw [LintReport.ofStream?, hlength]
    · rw [SubmissionReview.ofStream?, hlength]

/-- A piece ends within a character, and the last line has no line feed; where reading breaks off
there, that line is lost. -/
theorem reports_as_in_memory_split_character :
    let chunks : List Bytes := [[0x61, 0x0A, 0xC3], [0xA9]]
    let file := "list".toList
    let failure : ReadFailure := { file, line := 1, reason := "gone".toList }
    Utf8.decode? chunks.flatten = some "a\né".toList ∧
      SubmissionReview.ofStream? { chunks } file =
        .ok { SubmissionReview.ofText "a\né".toList with file } ∧
      LintReport.ofStream? { chunks, failure := some "gone".toList } file {} = .error failure := by
  intro chunks file failure
  have hdecode : Utf8.decode? chunks.flatten = some "a\né".toList := by decide
  obtain ⟨_, hreview, hfailure⟩ := reports_as_in_memory chunks file {}
  exact ⟨hdecode, hreview _ hdecode, (hfailure _).1⟩

end Stream
end SuffixLint
