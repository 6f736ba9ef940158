import SuffixLint.Yaml.Cursor

namespace SuffixLint.Yaml

inductive ScalarStyle where
  | plain
  | quoted
  | literal
  | folded
deriving DecidableEq, Repr

/-- White space inside a scalar, as long as it is not known what follows. -/
structure Spacing where
  blanks : Text := []
  firstBreak : Text := []
  laterBreaks : Text := []
  hasBreak : Bool := false

namespace Spacing

def fold (spacing : Spacing) : Text :=
  if spacing.hasBreak then
    if spacing.firstBreak.head? = some '\n' then
      if spacing.laterBreaks.isEmpty then [' '] else spacing.laterBreaks
    else spacing.firstBreak ++ spacing.laterBreaks
  else spacing.blanks

def addBreak (spacing : Spacing) (text : Text) : Spacing :=
  if spacing.hasBreak then { spacing with laterBreaks := spacing.laterBreaks ++ text }
  else { spacing with blanks := [], firstBreak := text, hasBreak := true }

/-- Takes blanks and ends of lines. Blanks at the start of a line do not count; a tab there is
refused in front of the given column. -/
def take (minimum : Option Int) (spacing : Spacing) (cursor : Cursor) :
    Option (Spacing × Cursor) :=
  Cursor.loop
    (fun spacing cursor =>
      match cursor.peek with
      | none => some (spacing, cursor, false)
      | some c =>
        if isBlank c then
          if spacing.hasBreak then
            if c = '\t' && minimum.any (fun column => Int.ofNat cursor.column < column) then none
            else some (spacing, cursor.skip, true)
          else some ({ spacing with blanks := spacing.blanks ++ [c] }, cursor.skip, true)
        else if isBreak c then some (spacing.addBreak cursor.breakText, cursor.skipBreak, true)
        else some (spacing, cursor, false))
    spacing cursor

end Spacing

structure Words where
  text : Text := []
  spacing : Spacing := {}

namespace Words

def add (words : Words) (taken : Text) : Words :=
  { text := words.text ++ words.spacing.fold ++ taken }

end Words

def endsPlain (inFlow : Bool) (cursor : Cursor) : Bool :=
  match cursor.peek with
  | none => true
  | some c =>
    isBlank c || isBreak c || (c == ':' && separates (cursor.at? 1)) ||
      (inFlow && (c == ',' || c == '[' || c == ']' || c == '\x7b' || c == '\x7d'))

def isUnclearColon (inFlow : Bool) (cursor : Cursor) : Bool :=
  inFlow && cursor.peek == some ':' &&
    match cursor.at? 1 with
    | some c =>
      c == ',' || c == '?' || c == '[' || c == ']' || c == '\x7b' || c == '\x7d'
    | none => false

def plainWord (inFlow : Bool) (cursor : Cursor) : Option (Text × Cursor) :=
  Cursor.loop
    (fun word cursor =>
      if isUnclearColon inFlow cursor && !separates cursor.peek then none
      else if endsPlain inFlow cursor then some (word, cursor, false)
      else some (word ++ cursor.peek.toList, cursor.skip, true))
    [] cursor

/-- A plain scalar, and whether the end of a line follows it. It goes on over lines that are
indented further than `indent`; inside brackets every line is. -/
def plainScalar (inFlow : Bool) (indent : Int) (cursor : Cursor) :
    Option (Text × Bool × Cursor) := do
  let (words, cursor) ← Cursor.loop
    (fun (words : Words) cursor => do
      if cursor.atDocumentMark || cursor.peek == some '#' then return (words, cursor, false)
      let (word, after) ← plainWord inFlow cursor
      let words := if word.isEmpty then words else words.add word
      match after.peek with
      | none => return (words, after, false)
      | some c =>
        if !(isBlank c || isBreak c) then return (words, after, false)
        let (spacing, after) ← words.spacing.take (some (indent + 1)) after
        let goesOn := inFlow || indent < Int.ofNat after.column
        return ({ words with spacing }, after, goesOn))
    {} cursor
  return (words.text, words.spacing.hasBreak, cursor)

def escaped? (c : Char) (cursor : Cursor) : Option (Char × Cursor) :=
  let coded (count : Nat) : Option (Char × Cursor) := do
    let (code, _) ← (Reading.number 16 count).run cursor.rest
    return (← Text.character? code, cursor.skip count)
  match c with
  | '0' => some ('\x00', cursor)
  | 'a' => some ('\x07', cursor)
  | 'b' => some ('\x08', cursor)
  | 't' | '\t' => some ('\t', cursor)
  | 'n' => some ('\n', cursor)
  | 'v' => some ('\x0B', cursor)
  | 'f' => some ('\x0C', cursor)
  | 'r' => some ('\r', cursor)
  | 'e' => some ('\x1B', cursor)
  | ' ' => some (' ', cursor)
  | '"' => some ('"', cursor)
  | '/' => some ('/', cursor)
  | '\\' => some ('\\', cursor)
  | 'N' => some ('\u0085', cursor)
  | '_' => some ('\u00A0', cursor)
  | 'L' => some ('\u2028', cursor)
  | 'P' => some ('\u2029', cursor)
  | 'x' => coded 2
  | 'u' => coded 4
  | 'U' => coded 8
  | _ => none

def quotedWord (quote : Char) (cursor : Cursor) : Option ((Text × Bool) × Cursor) :=
  Cursor.loop
    (fun (word, _) cursor =>
      match cursor.peek with
      | none => some ((word, false), cursor, false)
      | some c =>
        if isBlank c || isBreak c then some ((word, false), cursor, false)
        else if c = '\'' && quote = '\'' && cursor.at? 1 = some '\'' then
          some ((word ++ ['\''], false), cursor.skip 2, true)
        else if c = quote then some ((word, false), cursor, false)
        else if c = '\\' && quote = '"' then
          match cursor.at? 1 with
          | none => none
          | some e =>
            if isBreak e then some ((word, true), cursor.skip.skipBreak, false)
            else (escaped? e (cursor.skip 2)).map fun (c, after) => ((word ++ [c], false), after, true)
        else some ((word ++ [c], false), cursor.skip, true))
    ([], false) cursor

def quotedScalar (quote : Char) (cursor : Cursor) : Option (Text × Cursor) := do
  let (words, cursor) ← Cursor.loop
    (fun (words : Words) cursor => do
      if cursor.atDocumentMark || cursor.peek.isNone then failure
      let ((word, continued), after) ← quotedWord quote cursor
      let words := words.add word
      if !continued && after.peek == some quote then return (words, after, false)
      let (spacing, after) ← Spacing.take none { hasBreak := continued } after
      return ({ words with spacing }, after, true))
    {} cursor.skip
  guard (cursor.peek == some quote)
  return (words.text, cursor.skip)

inductive Chomping where
  | strip
  | clip
  | keep
deriving DecidableEq, Repr

def blockHeader (cursor : Cursor) : Option (Chomping × Option Nat × Cursor) :=
  let chomping? : Option Char → Option Chomping
    | some '+' => some .keep
    | some '-' => some .strip
    | _ => none
  let depth? : Option Char → Option Nat := fun c =>
    c.bind fun c => if Text.isDigit c then some (c.toNat - '0'.toNat) else none
  match chomping? cursor.peek, depth? cursor.peek with
  | some chomping, _ =>
    match depth? cursor.skip.peek with
    | some 0 => none
    | some depth => some (chomping, some depth, cursor.skip 2)
    | none => some (chomping, none, cursor.skip)
  | none, some 0 => none
  | none, some depth =>
    match chomping? cursor.skip.peek with
    | some chomping => some (chomping, some depth, cursor.skip 2)
    | none => some (.clip, some depth, cursor.skip)
  | none, none => some (.clip, none, cursor)

/-- Passes over indentation and blank lines of a block. Without a known indentation every space
belongs to it. The results are the ends of the blank lines and the furthest column. -/
def blockIndent (indent : Option Nat) (cursor : Cursor) : Option ((Text × Nat) × Cursor) :=
  let inside (cursor : Cursor) : Bool := indent.all (cursor.column < ·)
  Cursor.loop
    (fun (breaks, furthest) cursor => do
      let width := match indent with
        | none => (cursor.rest.takeWhile (· == ' ')).length
        | some indent =>
          min (cursor.rest.takeWhile (· == ' ')).length (indent - cursor.column)
      let cursor := cursor.skip width
      let furthest := max furthest cursor.column
      if inside cursor && cursor.peek == some '\t' then failure
      match cursor.peek with
      | none => return ((breaks, furthest), cursor, false)
      | some c =>
        if isBreak c then
          return ((breaks ++ cursor.breakText, furthest), cursor.skipBreak, true)
        else return ((breaks, furthest), cursor, false))
    ([], 0) cursor

structure BlockLines where
  text : Text := []
  lastBreak : Text := []
  blankLines : Text := []
  startsBlank : Bool := false

/-- A block scalar after its header line. Folding spares lines that start with a blank. -/
def blockLines (folds : Bool) (indent : Nat) (lines : BlockLines) (cursor : Cursor) :
    Option (BlockLines × Cursor) :=
  Cursor.loop
    (fun (lines : BlockLines) cursor => do
      if cursor.column != indent || cursor.peek.isNone then return (lines, cursor, false)
      let startsBlank := cursor.peek.any isBlank
      let joint :=
        if folds && lines.lastBreak.head? == some '\n' && !lines.startsBlank && !startsBlank then
          if lines.blankLines.isEmpty then [' '] else []
        else lines.lastBreak
      let (line, cursor) := cursor.takeWhile (!isBreak ·)
      let (lastBreak, cursor) :=
        if cursor.peek.isNone then (([] : Text), cursor) else (cursor.breakText, cursor.skipBreak)
      let ((blankLines, _), cursor) ← blockIndent (some indent) cursor
      return ({
        text := lines.text ++ joint ++ lines.blankLines ++ line
        lastBreak, blankLines, startsBlank }, cursor, true))
    lines cursor

def blockScalar (folds : Bool) (outer : Int) (cursor : Cursor) : Option (Text × Cursor) := do
  let (chomping, depth, cursor) ← blockHeader cursor.skip
  let cursor := cursor.skipWhile isBlank
  let cursor := if cursor.peek == some '#' then cursor.skipWhile (!isBreak ·) else cursor
  guard (endsLine cursor.peek)
  let cursor := if cursor.peek.isNone then cursor else cursor.skipBreak
  let known := depth.map fun depth =>
    if 0 ≤ outer then (outer + Int.ofNat depth).toNat else depth
  let ((blankLines, furthest), cursor) ← blockIndent known cursor
  let indent := known.getD (max (max furthest (outer + 1).toNat) 1)
  let (lines, cursor) ← blockLines folds indent { blankLines } cursor
  let text :=
    match chomping with
    | .strip => lines.text
    | .clip => lines.text ++ lines.lastBreak
    | .keep => lines.text ++ lines.lastBreak ++ lines.blankLines
  return (text, cursor)

end SuffixLint.Yaml
