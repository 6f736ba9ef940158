import SuffixLint.Line

namespace SuffixLint

inductive Section where
  | icannDomains
  | privateDomains
deriving DecidableEq, Repr

namespace Section

def all : List Section := [.icannDomains, .privateDomains]

def name : Section → Text
  | .icannDomains => "ICANN".toList
  | .privateDomains => "PRIVATE".toList

def opening : Section → Text
  | .icannDomains => "// ===BEGIN ICANN DOMAINS===".toList
  | .privateDomains => "// ===BEGIN PRIVATE DOMAINS===".toList

def closing : Section → Text
  | .icannDomains => "// ===END ICANN DOMAINS===".toList
  | .privateDomains => "// ===END PRIVATE DOMAINS===".toList

@[simp] theorem mem_all (s : Section) : s ∈ all := by cases s <;> simp [all]

end Section

inductive Region where
  | outside
  | inside (s : Section)
deriving DecidableEq, Repr

namespace Region

def name : Region → Text
  | .outside => "outside".toList
  | .inside s => s.name

end Region

/-- A comment that opens or closes a section, or claims to. -/
inductive Marker where
  | begins (s : Section)
  | ends (s : Section)
  | beginsUnknown
  | endsUnknown
deriving DecidableEq, Repr

namespace Marker

/-- The text after a number of octets, if a character starts there. -/
def dropOctets : Text → Nat → Option Text
  | text, 0 => some text
  | [], _ + 1 => none
  | c :: rest, n + 1 =>
    if c.utf8Size ≤ n + 1 then dropOctets rest (n + 1 - c.utf8Size) else none

def beginSign : Text := "===BEGIN".toList

def endSign : Text := "===END".toList

/-- The marker a comment is. Only the four exact texts name a section; any other text with a sign
in its place is the marker of an unknown one. -/
def ofComment? (text : Text) : Option Marker :=
  if text = Section.opening .icannDomains then some (.begins .icannDomains)
  else if text = Section.closing .icannDomains then some (.ends .icannDomains)
  else if text = Section.opening .privateDomains then some (.begins .privateDomains)
  else if text = Section.closing .privateDomains then some (.ends .privateDomains)
  else
    match dropOctets text 3 with
    | none => none
    | some rest =>
      if beginSign.isPrefixOf rest then some .beginsUnknown
      else if endSign.isPrefixOf rest then some .endsUnknown
      else none

@[simp] theorem ofComment?_opening (s : Section) :
    ofComment? s.opening = some (.begins s) := by
  cases s <;> decide

@[simp] theorem ofComment?_closing (s : Section) :
    ofComment? s.closing = some (.ends s) := by
  cases s <;> decide

end Marker
end SuffixLint
