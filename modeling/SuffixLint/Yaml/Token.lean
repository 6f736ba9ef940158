import SuffixLint.Text.Utf8
import SuffixLint.Yaml.Scalar

namespace SuffixLint.Yaml

inductive Token where
  | version (major minor : Nat)
  | tagHandle (handle expansion : Text)
  | documentStart
  | documentEnd
  | blockSequenceStart
  | blockMappingStart
  | blockEnd
  | flowSequenceStart
  | flowSequenceEnd
  | flowMappingStart
  | flowMappingEnd
  | blockEntry
  | flowEntry
  | key
  | value
  | alias (name : Text)
  | anchor (name : Text)
  | tag (handle suffix : Text)
  | scalar (style : ScalarStyle) (text : Text)
deriving DecidableEq, Repr

/-- A place where a key may have started whose colon is still to come. -/
structure KeyStart where
  tokens : Nat
  index : Nat
  line : Nat
  column : Nat
  required : Bool

structure Scanner where
  cursor : Cursor
  tokens : Array Token := #[]
  indent : Int := -1
  outerIndents : List Int := []
  allowsKey : Bool := true
  keyStart : Option KeyStart := none
  outerKeys : List (Option KeyStart) := []

namespace Scanner

def inFlow (scanner : Scanner) : Bool := !scanner.outerKeys.isEmpty

def emit (scanner : Scanner) (token : Token) : Scanner :=
  { scanner with tokens := scanner.tokens.push token }

def skip (scanner : Scanner) (count : Nat := 1) : Scanner :=
  { scanner with cursor := scanner.cursor.skip count }

/-- A key has to have its colon on the same line, and not too far away. -/
def isStale (cursor : Cursor) (start : KeyStart) : Bool :=
  start.line < cursor.line || start.index + 1024 < cursor.index

def dropStaleKeys (scanner : Scanner) : Option Scanner := do
  let fresh (start : Option KeyStart) : Option (Option KeyStart) :=
    match start with
    | none => some none
    | some start =>
      if isStale scanner.cursor start then if start.required then none else some none
      else some (some start)
  return { scanner with
    keyStart := ← fresh scanner.keyStart
    outerKeys := ← scanner.outerKeys.mapM fresh }

def dropKey (scanner : Scanner) : Option Scanner :=
  match scanner.keyStart with
  | some start => if start.required then none else some { scanner with keyStart := none }
  | none => some scanner

def noteKey (scanner : Scanner) : Option Scanner := do
  if !scanner.allowsKey then return scanner
  let cursor := scanner.cursor
  let required := !scanner.inFlow && scanner.indent == Int.ofNat cursor.column
  let scanner ← scanner.dropKey
  return { scanner with
    keyStart := some {
      tokens := scanner.tokens.size
      index := cursor.index, line := cursor.line, column := cursor.column, required } }

/-- Opens a block collection at a column, if that is further in than the innermost one. Its token
goes before those from a position on. -/
def indentTo (scanner : Scanner) (column : Nat) (position : Nat) (token : Token) : Scanner :=
  if scanner.inFlow || Int.ofNat column ≤ scanner.indent then scanner
  else
    { scanner with
      outerIndents := scanner.indent :: scanner.outerIndents
      indent := Int.ofNat column
      tokens := scanner.tokens.insertIdxIfInBounds position token }

def closeBlocks (column : Int) (indent : Int) (outer : List Int) (tokens : Array Token) :
    Int × List Int × Array Token :=
  if indent ≤ column then (indent, outer, tokens)
  else
    match outer with
    | [] => (indent, [], tokens)
    | next :: outer => closeBlocks column next outer (tokens.push .blockEnd)

def dedentTo (scanner : Scanner) (column : Int) : Scanner :=
  if scanner.inFlow then scanner
  else
    let (indent, outerIndents, tokens) :=
      closeBlocks column scanner.indent scanner.outerIndents scanner.tokens
    { scanner with indent, outerIndents, tokens }

/-- Passes over white space, comments and ends of lines. Tabs are white space only where no key can
start; a key can start on every new line of a block. -/
def toNextToken (scanner : Scanner) : Option Scanner := do
  let inFlow := scanner.inFlow
  let (allowsKey, cursor) ← Cursor.loop
    (fun allowsKey cursor =>
      let cursor :=
        if cursor.index == 0 && cursor.peek == some '\uFEFF' then cursor.skip else cursor
      let cursor := cursor.skipWhile fun c => c == ' ' || (c == '\t' && (inFlow || !allowsKey))
      let cursor := if cursor.peek == some '#' then cursor.skipWhile (!isBreak ·) else cursor
      match cursor.peek with
      | none => some (allowsKey, cursor, false)
      | some c =>
        if isBreak c then some (allowsKey || !inFlow, cursor.skipBreak, true)
        else some (allowsKey, cursor, false))
    scanner.allowsKey scanner.cursor
  return { scanner with allowsKey, cursor }

def versionNumber (cursor : Cursor) : Option (Nat × Cursor) := do
  let (digits, cursor) := cursor.takeWhile Text.isDigit
  guard (!digits.isEmpty && digits.length ≤ 9)
  return (Text.ofDigits 10 (digits.filterMap (Text.digit? 10)), cursor)

/-- Whether a character can be in a tag. Commas and brackets cannot, except between angle brackets
and in the expansion of a handle. -/
def isTagCharacter (wide : Bool) (c : Char) : Bool :=
  isWord c || ";/?:@&=+$.%!~*'()".toList.contains c || (wide && ",[]".toList.contains c)

def tagOctets : Reading Bytes := do
  match ← Reading.next with
  | '%' => return [UInt8.ofNat (← Reading.number 16 2)]
  | c => return String.utf8EncodeChar c

def plainTag? (text : Text) : Option Text := do
  Utf8.decode? (← Reading.whole (Reading.many tagOctets) text).flatten

def tagText (wide : Bool) (cursor : Cursor) : Option (Text × Cursor) := do
  let (text, cursor) := cursor.takeWhile (isTagCharacter wide)
  return (← plainTag? text, cursor)

def tagHandle (cursor : Cursor) : Option (Text × Cursor) := do
  guard (cursor.peek == some '!')
  let (word, after) := cursor.skip.takeWhile isWord
  return if after.peek == some '!' then ('!' :: word ++ ['!'], after.skip) else ('!' :: word, after)

def versionDirective (cursor : Cursor) : Option (Token × Cursor) := do
  let (major, cursor) ← versionNumber cursor
  guard (cursor.peek == some '.')
  let (minor, cursor) ← versionNumber cursor.skip
  return (.version major minor, cursor)

def handleDirective (cursor : Cursor) : Option (Token × Cursor) := do
  let (handle, cursor) ← tagHandle cursor
  guard (handle.getLast? == some '!' && cursor.peek.any isBlank)
  let (expansion, cursor) ← tagText true (cursor.skipWhile isBlank)
  guard (!expansion.isEmpty && separates cursor.peek)
  return (.tagHandle handle expansion, cursor)

def directive (scanner : Scanner) : Option Scanner := do
  let (name, cursor) := scanner.cursor.skip.takeWhile isWord
  guard (!name.isEmpty && separates cursor.peek)
  let (token, cursor) ←
    if name = "YAML".toList then versionDirective (cursor.skipWhile isBlank)
    else if name = "TAG".toList then handleDirective (cursor.skipWhile isBlank)
    else none
  let cursor := cursor.skipWhile isBlank
  let cursor := if cursor.peek == some '#' then cursor.skipWhile (!isBreak ·) else cursor
  guard (endsLine cursor.peek)
  let cursor := if cursor.peek.isNone then cursor else cursor.skipBreak
  return { scanner with cursor }.emit token

def anchorName (cursor : Cursor) : Option (Text × Cursor) := do
  let (name, cursor) := cursor.takeWhile isWord
  guard (!name.isEmpty)
  guard (separates cursor.peek || cursor.peek.any ("?:,]\x7d%@`".toList.contains ·))
  return (name, cursor)

def bracketedTag (cursor : Cursor) : Option (Token × Cursor) := do
  let (suffix, cursor) ← tagText true cursor
  guard (!suffix.isEmpty && cursor.peek == some '>')
  return (.tag [] suffix, cursor.skip)

/-- A tag with a handle. What looks like a handle, but lacks its second exclamation mark, belongs to
the suffix; a lone exclamation mark is a tag of its own. -/
def shortTag (cursor : Cursor) : Option (Token × Cursor) := do
  let (handle, cursor) ← tagHandle cursor
  let (more, cursor) ← tagText false cursor
  if 1 < handle.length && handle.getLast? == some '!' then
    guard !more.isEmpty
    return (.tag handle more, cursor)
  else
    let suffix := handle.drop 1 ++ more
    return (if suffix.isEmpty then .tag [] ['!'] else .tag ['!'] suffix, cursor)

def tag (inFlow : Bool) (cursor : Cursor) : Option (Token × Cursor) := do
  let (token, cursor) ←
    if cursor.at? 1 == some '<' then bracketedTag (cursor.skip 2) else shortTag cursor
  guard (separates cursor.peek || (inFlow && cursor.peek == some ','))
  return (token, cursor)

def documentMark (scanner : Scanner) (token : Token) : Option Scanner := do
  let scanner ← (scanner.dedentTo (-1)).dropKey
  return ({ scanner with allowsKey := false }.skip 3).emit token

def openFlow (scanner : Scanner) (token : Token) : Option Scanner := do
  let scanner ← scanner.noteKey
  return { scanner with
    outerKeys := scanner.keyStart :: scanner.outerKeys
    keyStart := none
    allowsKey := true }.skip.emit token

def closeFlow (scanner : Scanner) (token : Token) : Option Scanner := do
  let scanner ← scanner.dropKey
  let scanner :=
    match scanner.outerKeys with
    | [] => scanner
    | keyStart :: outerKeys => { scanner with keyStart, outerKeys }
  return { scanner with allowsKey := false }.skip.emit token

def blockEntry (scanner : Scanner) : Option Scanner := do
  guard (scanner.inFlow || scanner.allowsKey)
  let scanner := scanner.indentTo scanner.cursor.column scanner.tokens.size .blockSequenceStart
  let scanner ← scanner.dropKey
  return { scanner with allowsKey := true }.skip.emit .blockEntry

def keyMark (scanner : Scanner) : Option Scanner := do
  guard (scanner.inFlow || scanner.allowsKey)
  let scanner := scanner.indentTo scanner.cursor.column scanner.tokens.size .blockMappingStart
  let scanner ← scanner.dropKey
  return { scanner with allowsKey := !scanner.inFlow }.skip.emit .key

/-- The mark of a value. If a key was started, its mark and possibly that of its mapping are put in
front of it now. -/
def valueMark (scanner : Scanner) : Option Scanner := do
  match scanner.keyStart with
  | some start =>
    let scanner := { scanner with
      tokens := scanner.tokens.insertIdxIfInBounds start.tokens .key
      keyStart := none
      allowsKey := false }
    return (scanner.indentTo start.column start.tokens .blockMappingStart).skip.emit .value
  | none =>
    guard (scanner.inFlow || scanner.allowsKey)
    let scanner := scanner.indentTo scanner.cursor.column scanner.tokens.size .blockMappingStart
    return { scanner with allowsKey := !scanner.inFlow }.skip.emit .value

def keyable (scanner : Scanner) (read : Cursor → Option (Token × Cursor)) : Option Scanner := do
  let scanner ← scanner.noteKey
  let (token, cursor) ← read scanner.cursor
  return { scanner with allowsKey := false, cursor }.emit token

def block (scanner : Scanner) (folds : Bool) : Option Scanner := do
  let scanner ← scanner.dropKey
  let (text, cursor) ← blockScalar folds scanner.indent scanner.cursor
  return { scanner with allowsKey := true, cursor }.emit
    (.scalar (if folds then .folded else .literal) text)

def plain (scanner : Scanner) : Option Scanner := do
  let scanner ← scanner.noteKey
  let (text, hasBreak, cursor) ← plainScalar scanner.inFlow scanner.indent scanner.cursor
  return { scanner with allowsKey := hasBreak, cursor }.emit (.scalar .plain text)

def indicators : Text := "-?:,[]\x7b\x7d#&*!|>'\"%@`".toList

/-- Whether a plain scalar starts with a character, which is no white space. Three of the indicators
can start one if no white space follows. -/
def startsPlain (inFlow : Bool) (c : Char) (following : Option Char) : Bool :=
  (!isBlank c && !indicators.contains c) || (c == '-' && !following.any isBlank) ||
    (!inFlow && (c == '?' || c == ':') && !separates following)

def token (scanner : Scanner) (c : Char) : Option Scanner :=
  let cursor := scanner.cursor
  let spaced := separates (cursor.at? 1)
  if cursor.column == 0 && c == '%' then do
    let scanner ← (scanner.dedentTo (-1)).dropKey
    { scanner with allowsKey := false }.directive
  else if cursor.atDocumentMark then
    scanner.documentMark (if c == '-' then .documentStart else .documentEnd)
  else
    match c with
    | '[' => scanner.openFlow .flowSequenceStart
    | '\x7b' => scanner.openFlow .flowMappingStart
    | ']' => scanner.closeFlow .flowSequenceEnd
    | '\x7d' => scanner.closeFlow .flowMappingEnd
    | ',' => do
      let scanner ← scanner.dropKey
      return { scanner with allowsKey := true }.skip.emit .flowEntry
    | '*' => scanner.keyable fun cursor => do
      let (name, cursor) ← anchorName cursor.skip
      return (.alias name, cursor)
    | '&' => scanner.keyable fun cursor => do
      let (name, cursor) ← anchorName cursor.skip
      return (.anchor name, cursor)
    | '!' => scanner.keyable (tag scanner.inFlow)
    | '\'' | '"' => scanner.keyable fun cursor => do
      let (text, cursor) ← quotedScalar c cursor
      return (.scalar .quoted text, cursor)
    | _ =>
      if c == '-' && spaced then scanner.blockEntry
      else if c == '?' && (scanner.inFlow || spaced) then scanner.keyMark
      else if c == ':' && (scanner.inFlow || spaced) then scanner.valueMark
      else if (c == '|' || c == '>') && !scanner.inFlow then scanner.block (c == '>')
      else if startsPlain scanner.inFlow c (cursor.at? 1) then scanner.plain
      else none

/-- Reads all tokens, of which there are no more than characters. The end of the stream closes all
block collections. -/
def run : Nat → Scanner → Option Scanner
  | 0, _ => none
  | limit + 1, scanner => do
    let scanner ← (← scanner.toNextToken).dropStaleKeys
    let scanner := scanner.dedentTo (Int.ofNat scanner.cursor.column)
    match scanner.cursor.peek with
    | none => (scanner.dedentTo (-1)).dropKey
    | some c => run limit (← scanner.token c)

end Scanner

def tokens? (text : Text) : Option (List Token) := do
  guard (text.all isAllowed)
  let text := if text.head? = some '\uFEFF' then text.drop 1 else text
  let scanner ← Scanner.run (text.length + 1) { cursor := { rest := text } }
  return scanner.tokens.toList

end SuffixLint.Yaml
