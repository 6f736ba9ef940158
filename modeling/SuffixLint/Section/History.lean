import SuffixLint.Finding

namespace SuffixLint

structure SectionHistory where
  current : Region := .outside
  icannCount : Nat := 0
  privateCount : Nat := 0
deriving DecidableEq, Repr

namespace SectionHistory

def count (history : SectionHistory) : Section → Nat
  | .icannDomains => history.icannCount
  | .privateDomains => history.privateCount

def countRegion (history : SectionHistory) : Region → Nat
  | .outside => 0
  | .inside s => history.count s

def begin (history : SectionHistory) : Section → SectionHistory
  | .icannDomains =>
    { history with current := .inside .icannDomains, icannCount := history.icannCount + 1 }
  | .privateDomains =>
    { history with current := .inside .privateDomains, privateCount := history.privateCount + 1 }

/-- Applies a marker. A section opened inside another is reported and then takes its place; an end
that does not fit is reported and changes nothing. -/
def takeMarker (history : SectionHistory) (marker : Marker) : SectionHistory × Option Finding :=
  match history.current, marker with
  | .outside, .begins s => (history.begin s, none)
  | .outside, .beginsUnknown => (history, some .unknownSection)
  | .outside, .ends _ | .outside, .endsUnknown => (history, some .endWithoutBegin)
  | .inside _, .begins s => (history.begin s, some .unexpectedBegin)
  | .inside _, .beginsUnknown => (history, some .unexpectedBegin)
  | .inside opened, .ends s =>
    if opened = s then ({ history with current := .outside }, none)
    else (history, some .unexpectedEnd)
  | .inside _, .endsUnknown => (history, some .unexpectedEnd)

def takeComment (history : SectionHistory) (text : Text) : SectionHistory × Option Finding :=
  match Marker.ofComment? text with
  | none => (history, none)
  | some marker => history.takeMarker marker

def tally (history : SectionHistory) (s : Section) : List Finding :=
  match history.count s with
  | 0 => [.missingSection (.inside s)]
  | 1 => []
  | n => [.repeatedSection (.inside s) n]

/-- The findings at the end of the registry: an open section first, then sections that are missing
or were opened more than once. -/
def closingFindings (history : SectionHistory) : List Finding :=
  (match history.current with
    | .outside => []
    | .inside s => [.sectionNotClosed (.inside s)]) ++ Section.all.flatMap history.tally

@[simp] theorem begin_current (history : SectionHistory) (s : Section) :
    (history.begin s).current = .inside s := by
  cases s <;> rfl

@[simp] theorem begin_count_self (history : SectionHistory) (s : Section) :
    (history.begin s).count s = history.count s + 1 := by
  cases s <;> rfl

theorem begin_count_of_ne (history : SectionHistory) {s t : Section} (h : s ≠ t) :
    (history.begin s).count t = history.count t := by
  cases s <;> cases t <;> first | exact absurd rfl h | rfl

end SectionHistory
end SuffixLint
