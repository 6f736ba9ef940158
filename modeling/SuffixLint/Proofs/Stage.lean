import SuffixLint.Section.History

namespace SuffixLint

inductive Stage where
  | layout
  | marker
  | rule
  | group
  | closing
deriving DecidableEq, Repr

namespace Finding

def stage : Finding → Stage
  | .outerSpace => .layout
  | .unknownSection | .endWithoutBegin | .unexpectedBegin | .unexpectedEnd => .marker
  | .sectionNotClosed _ | .missingSection _ | .repeatedSection _ _ => .closing
  | .inconsistentTopLevel | .unsortedGroup => .group
  | _ => .rule

/-- Whether a finding is about one line in itself, and not only about its place in a file. -/
def isOwn (finding : Finding) : Bool := finding.stage = .marker || finding.stage = .rule

theorem isOwn_iff {finding : Finding} :
    finding.isOwn = true ↔ finding.stage = .marker ∨ finding.stage = .rule := by
  simp [isOwn]

theorem isError_of_isOwn {finding : Finding} (h : finding.isOwn = true) :
    finding.isError = true := by
  cases finding <;> first | rfl | cases h

theorem isOwn_iff_isError {finding : Finding} :
    finding.isOwn = true ↔ finding.isError = true ∧ finding.stage ≠ .closing := by
  cases finding <;> simp [isOwn, stage, isError, severity]

theorem stage_ne_of_isOwn {finding : Finding} (h : finding.isOwn = true) :
    finding.stage ≠ .layout ∧ finding.stage ≠ .group ∧ finding.stage ≠ .closing := by
  rcases isOwn_iff.1 h with hmarker | hrule
  · rw [hmarker]
    decide
  · rw [hrule]
    decide

theorem not_isError_of_group {finding : Finding} (h : finding.stage = .group) :
    finding.isError = false := by
  cases finding <;> first | rfl | cases h

end Finding

namespace SectionHistory

theorem stage_takeComment {history : SectionHistory} {comment : Text} {finding : Finding}
    (h : (history.takeComment comment).2 = some finding) : finding.stage = .marker := by
  unfold takeComment takeMarker at h
  repeat' split at h
  all_goals cases h
  all_goals rfl

theorem stage_closingFindings {history : SectionHistory} {finding : Finding}
    (h : finding ∈ history.closingFindings) : finding.stage = .closing := by
  rcases List.mem_append.1 h with h | h
  · split at h
    · cases h
    · rw [List.mem_singleton.1 h]; rfl
  · obtain ⟨s, _, h⟩ := List.mem_flatMap.1 h
    rw [tally] at h
    split at h
    · rw [List.mem_singleton.1 h]; rfl
    · cases h
    · rw [List.mem_singleton.1 h]; rfl

end SectionHistory
end SuffixLint
