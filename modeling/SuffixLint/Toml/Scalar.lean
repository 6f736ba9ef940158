import SuffixLint.Text.Reading
import SuffixLint.Toml.Value

namespace SuffixLint.Toml

open Reading

def isPlain (c : Char) : Bool := c == '\t' || (0x20 ≤ c.toNat && c.toNat != 0x7F)

def isBlank (c : Char) : Bool := c == ' ' || c == '\t'

def newline : Reading Unit := exactly "\n" <|> exactly "\r\n"

def escaped : Reading Char := do
  match ← next with
  | 'b' => return '\x08'
  | 't' => return '\t'
  | 'n' => return '\n'
  | 'f' => return '\x0C'
  | 'r' => return '\r'
  | 'e' => return '\x1B'
  | '"' => return '"'
  | '\\' => return '\\'
  | 'x' => ofOption (Text.character? (← number 16 2))
  | 'u' => ofOption (Text.character? (← number 16 4))
  | 'U' => ofOption (Text.character? (← number 16 8))
  | _ => failure

def basicPiece : Reading Text := do
  match ← next with
  | '"' => failure
  | '\\' => return [← escaped]
  | c => if isPlain c then return [c] else failure

def basicString : Reading Text := do
  exactly "\""
  let pieces ← many basicPiece
  exactly "\""
  return pieces.flatten

def literalString : Reading Text := do
  exactly "'"
  let text ← takeWhile fun c => isPlain c && c != '\''
  exactly "'"
  return text

/-- A backslash at the end of a line takes away all white space that follows. -/
def continuedLine : Reading Text := do
  let _ ← takeWhile isBlank
  newline
  let _ ← many ((do let _ ← takeSome isBlank) <|> newline)
  return []

def blockPiece (quote : String) (hasEscapes : Bool) : Reading Text := do
  if ← looksAt quote then failure
  match ← optional newline with
  | some _ => return ['\n']
  | none =>
    let c ← next
    if c = '\\' && hasEscapes then continuedLine <|> (do return [← escaped])
    else if isPlain c then return [c]
    else failure

/-- A string in triple quotes. A line feed right after the opening is left out, and up to two quotes
before the closing belong to the string. -/
def blockString (quote : Char) (triple : String) (hasEscapes : Bool) : Reading Text := do
  exactly triple
  let _ ← optional newline
  let pieces ← many (blockPiece triple hasEscapes)
  exactly triple
  let last ← upTo 2 (next? (· == quote))
  return pieces.flatten ++ last

def string : Reading Text := do
  if ← looksAt "\"\"\"" then blockString '"' "\"\"\"" true
  else if ← looksAt "'''" then blockString '\'' "'''" false
  else basicString <|> literalString

def digits (base : Nat) : Reading (List Nat) :=
  separatedBy (optional (exactly "_")) (digit base)

def sign : Reading Bool := do
  match ← optional (next? fun c => c == '+' || c == '-') with
  | some '-' => return true
  | _ => return false

def decimalDigits : Reading (List Nat) := do
  let ds ← digits 10
  if ds.head? = some 0 && 1 < ds.length then failure else return ds

/-- An integer; one that needs more than 128 bits is refused. -/
def integer : Reading Value := do
  let prefixed (mark : String) (base : Nat) : Reading Nat := do
    exactly mark
    return Text.ofDigits base (← digits base)
  let signed : Reading Int := do
    let negative ← sign
    let n := Int.ofNat (Text.ofDigits 10 (← decimalDigits))
    return if negative then -n else n
  let value ← (Int.ofNat <$> (prefixed "0x" 16 <|> prefixed "0o" 8 <|> prefixed "0b" 2)) <|> signed
  let bound := Int.ofNat (Nat.pow 2 127)
  if -bound ≤ value ∧ value < 2 * bound then return .integer value else failure

/-- Whether a decimal number is too large for 64-bit floating point, where it would be rounded to
infinity. -/
def overflows (mantissa : Nat) (exponent : Int) : Bool :=
  let size := Int.ofNat (Nat.toDigits 10 mantissa).length + exponent
  if mantissa = 0 || size < 308 then false
  else if 310 < size then true
  else
    let limit := Nat.pow 2 1024 - Nat.pow 2 970
    limit * Nat.pow 10 (-exponent).toNat ≤ mantissa * Nat.pow 10 exponent.toNat

def float : Reading Value := do
  let _ ← sign
  match ← optional (exactly "inf" <|> exactly "nan") with
  | some _ => return .float
  | none =>
    let whole ← decimalDigits
    let fraction ← optional (do exactly "."; digits 10)
    let exponent ← optional do
      let _ ← next? fun c => c == 'e' || c == 'E'
      let negative ← sign
      let n := Int.ofNat (Text.ofDigits 10 (← digits 10))
      return if negative then -n else n
    if fraction.isNone && exponent.isNone then failure
    let places := fraction.getD []
    let mantissa := Text.ofDigits 10 (whole ++ places)
    if overflows mantissa (exponent.getD 0 - Int.ofNat places.length) then failure
    return .float

def daysOfMonth (year month : Nat) : Nat :=
  if month = 2 then
    if year % 4 = 0 && (year % 100 != 0 || year % 400 = 0) then 29 else 28
  else if month = 4 || month = 6 || month = 9 || month = 11 then 30
  else 31

def twoDigits (low high : Nat) : Reading Nat := do
  let n ← number 10 2
  if low ≤ n && n ≤ high then return n else failure

def date : Reading Unit := do
  let year ← number 10 4
  exactly "-"
  let month ← twoDigits 1 12
  exactly "-"
  let _ ← twoDigits 1 (daysOfMonth year month)

/-- A time of day; seconds may be left out, and a minute may have 61. -/
def time : Reading Unit := do
  let _ ← twoDigits 0 23
  exactly ":"
  let _ ← twoDigits 0 59
  let _ ← optional do
    exactly ":"
    let _ ← twoDigits 0 60
    let _ ← optional do
      exactly "."
      let _ ← takeSome Text.isDigit

def offset : Reading Unit := do
  let c ← next
  if c = 'Z' || c = 'z' then return
  if c != '+' && c != '-' then failure
  let _ ← twoDigits 0 23
  exactly ":"
  let _ ← twoDigits 0 59

def dateTime : Reading Value := do
  let fromDate : Reading Unit := do
    date
    let _ ← optional do
      let _ ← next? fun c => c == 'T' || c == 't' || c == ' '
      time
      optional offset
  fromDate <|> time
  return .dateTime

def boolean : Reading Value :=
  (do exactly "true"; return .boolean true) <|> (do exactly "false"; return .boolean false)

def continuesScalar (c : Char) : Bool :=
  c.isAlphanum || c == '_' || c == '-' || c == '+' || c == '.' || c == ':'

def plainScalar : Reading Value := do
  let complete (reading : Reading Value) : Reading Value := do
    let value ← reading
    match ← peek with
    | some c => if continuesScalar c then failure else return value
    | none => return value
  complete boolean <|> complete dateTime <|> complete float <|> complete integer

end SuffixLint.Toml
