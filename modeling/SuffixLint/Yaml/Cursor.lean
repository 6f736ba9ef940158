import SuffixLint.Text.Reading

namespace SuffixLint.Yaml

/-- A place in a stream, and the text from there on. Lines and columns count from zero. -/
structure Cursor where
  rest : Text
  index : Nat := 0
  line : Nat := 0
  column : Nat := 0
deriving Repr

def isBlank (c : Char) : Bool := c == ' ' || c == '\t'

def isBreak (c : Char) : Bool :=
  c == '\n' || c == '\r' || c == '\u0085' || c == '\u2028' || c == '\u2029'

def separates (c : Option Char) : Bool :=
  match c with
  | none => true
  | some c => isBlank c || isBreak c

def endsLine (c : Option Char) : Bool :=
  match c with
  | none => true
  | some c => isBreak c

def isWord (c : Char) : Bool := c.isAlphanum || c == '_' || c == '-'

def isAllowed (c : Char) : Bool :=
  let n := c.toNat
  n == 0x09 || n == 0x0A || n == 0x0D || (0x20 ≤ n && n ≤ 0x7E) || n == 0x85 ||
    (0xA0 ≤ n && n ≤ 0xFFFD) || 0x10000 ≤ n

namespace Cursor

def at? (cursor : Cursor) (distance : Nat) : Option Char := cursor.rest[distance]?

def peek (cursor : Cursor) : Option Char := cursor.rest.head?

def looksAt (cursor : Cursor) (expected : String) : Bool :=
  expected.toList.isPrefixOf cursor.rest

def skip (cursor : Cursor) (count : Nat := 1) : Cursor :=
  { cursor with
    rest := cursor.rest.drop count
    index := cursor.index + count
    column := cursor.column + count }

def skipBreak (cursor : Cursor) : Cursor :=
  let count := if cursor.looksAt "\r\n" then 2 else 1
  { rest := cursor.rest.drop count
    index := cursor.index + count
    line := cursor.line + 1
    column := 0 }

/-- What the end of a line counts as in a scalar. Only the two separators of Unicode are kept. -/
def breakText (cursor : Cursor) : Text :=
  match cursor.peek with
  | some '\u2028' => ['\u2028']
  | some '\u2029' => ['\u2029']
  | _ => ['\n']

def takeWhile (cursor : Cursor) (p : Char → Bool) : Text × Cursor :=
  let taken := cursor.rest.takeWhile p
  (taken, cursor.skip taken.length)

def skipWhile (cursor : Cursor) (p : Char → Bool) : Cursor := (cursor.takeWhile p).2

def atDocumentMark (cursor : Cursor) : Bool :=
  cursor.column == 0 && (cursor.looksAt "---" || cursor.looksAt "...") && separates (cursor.at? 3)

/-- Repeats a step that may go on with a new state and place, or end. A step that goes on takes at
least one character, so that there are no more steps than characters. -/
def iterate {σ : Type} (step : σ → Cursor → Option (σ × Cursor × Bool)) :
    Nat → σ → Cursor → Option (σ × Cursor)
  | 0, state, cursor => some (state, cursor)
  | limit + 1, state, cursor =>
    match step state cursor with
    | none => none
    | some (state, cursor, false) => some (state, cursor)
    | some (state, cursor, true) => iterate step limit state cursor

def loop {σ : Type} (step : σ → Cursor → Option (σ × Cursor × Bool)) (state : σ)
    (cursor : Cursor) : Option (σ × Cursor) :=
  iterate step (cursor.rest.length + 1) state cursor

end Cursor
end SuffixLint.Yaml
