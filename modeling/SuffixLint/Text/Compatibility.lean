import SuffixLint.Text.Compatibility.Decomposition

namespace SuffixLint.Text

namespace Compatibility

/-- Hangul syllables are composed by arithmetic: 19 leading consonants, 21 vowels and 28 endings,
the first ending being none. -/
structure Hangul where
  leading : Nat
  vowel : Nat
  ending : Nat

namespace Hangul

def syllableBase : Nat := 0xAC00
def leadingBase : Nat := 0x1100
def vowelBase : Nat := 0x1161
def endingBase : Nat := 0x11A7
def leadingCount : Nat := 19
def vowelCount : Nat := 21
def endingCount : Nat := 28

def ofSyllable? (code : Nat) : Option Hangul :=
  if syllableBase ≤ code ∧ code < syllableBase + leadingCount * vowelCount * endingCount then
    let index := code - syllableBase
    some ⟨index / (vowelCount * endingCount), index / endingCount % vowelCount, index % endingCount⟩
  else none

def letters (h : Hangul) : List Nat :=
  [leadingBase + h.leading, vowelBase + h.vowel] ++
    if h.ending = 0 then [] else [endingBase + h.ending]

/-- A leading consonant takes a vowel, and a syllable without an ending takes an ending. -/
def compose? (first second : Nat) : Option Nat :=
  if leadingBase ≤ first ∧ first < leadingBase + leadingCount then
    if vowelBase ≤ second ∧ second < vowelBase + vowelCount then
      some (syllableBase +
        ((first - leadingBase) * vowelCount + (second - vowelBase)) * endingCount)
    else none
  else
    match ofSyllable? first with
    | some ⟨_, _, 0⟩ =>
      if endingBase < second ∧ second < endingBase + endingCount then
        some (first + (second - endingBase))
      else none
    | _ => none

end Hangul

/-- The full compatibility decomposition of one character; no character below U+00A0 has one. -/
def decomposition (c : Char) : Text :=
  if c.toNat < 0xA0 then [c]
  else
    match Hangul.ofSyllable? c.toNat with
    | some h => h.letters.map Char.ofNat
    | none =>
      match decompositionTable[c.toNat]? with
      | some parts => parts.map Char.ofNat
      | none => [c]

def combiningClass (c : Char) : Nat :=
  if c.toNat < 0x300 then 0
  else
    match combiningClassBlocks.getEntryLE? c.toNat with
    | some (_, last, value) => if c.toNat ≤ last then value else 0
    | none => 0

def compose? (first second : Char) : Option Char :=
  if second.toNat < 0x300 then none
  else
    match Hangul.compose? first.toNat second.toNat with
    | some code => some (Char.ofNat code)
    | none => compositionTable[(first.toNat, second.toNat)]?.map Char.ofNat

/-- A mark goes before the marks of greater class that it follows directly; the list is reversed. -/
def insertMark (c : Char) : List Char → List Char
  | [] => [c]
  | d :: earlier =>
    if combiningClass c ≠ 0 ∧ combiningClass c < combiningClass d then
      d :: insertMark c earlier
    else c :: d :: earlier

def canonicalOrder (text : Text) : Text :=
  (text.foldl (fun ordered c => insertMark c ordered) []).reverse

/-- Composes a text that follows a starter; `marks` are those since the starter that stayed apart,
last first. A mark is blocked by an earlier one whose class is not smaller. -/
def composeAfter (starter : Char) (marks : List Char) : Text → Text
  | [] => starter :: marks.reverse
  | c :: rest =>
    let blocked :=
      match marks with
      | [] => false
      | last :: _ => combiningClass c ≤ combiningClass last
    match if blocked then none else compose? starter c with
    | some composite => composeAfter composite marks rest
    | none =>
      if combiningClass c = 0 then starter :: (marks.reverse ++ composeAfter c [] rest)
      else composeAfter starter (c :: marks) rest

/-- A text with its primary composites formed; marks before the first starter stay as they are. -/
def compose : Text → Text
  | [] => []
  | c :: rest => if combiningClass c = 0 then composeAfter c [] rest else c :: compose rest

end Compatibility

open Compatibility in
/-- Normalization Form KC. -/
def nfkc (text : Text) : Text := compose (canonicalOrder (text.flatMap decomposition))

def isNfkc (text : Text) : Bool := nfkc text == text

@[simp] theorem isNfkc_nil : isNfkc [] = true := rfl

end SuffixLint.Text
