import SuffixLint.Text.Utf8

namespace SuffixLint

structure Line where
  number : Nat
  shown : Text
  text : Text
  isUtf8 : Bool
  hasOuterSpace : Bool
deriving DecidableEq, Repr

inductive LineKind where
  | blank
  | comment
  | rule
deriving DecidableEq, Repr

namespace Line

def feed : UInt8 := 0x0A

def body (raw : Bytes) : Bytes :=
  if raw.getLast? = some feed then raw.dropLast else raw

/-- Tabs and carriage returns written so that they can be seen. -/
def showControls (text : Text) : Text :=
  (text.replace '\t' "\\t".toList).replace '\r' "^M".toList

/-- Reads the bytes of a line. Controls are made visible only where outer white space is reported,
because that is when a reader needs to tell them apart. -/
def ofBytes (number : Nat) (raw : Bytes) : Line :=
  let decoded := Utf8.decodeLossy (body raw)
  let text := decoded.trim
  let hasOuterSpace := text.length ≠ decoded.length
  { number, text, hasOuterSpace
    shown := if hasOuterSpace then showControls decoded else decoded
    isUtf8 := Utf8.isValid (body raw) }

def commentMark : Text := "//".toList

def kindOf (text : Text) : LineKind :=
  if text.isEmpty then .blank
  else if commentMark.isPrefixOf text then .comment
  else .rule

def kind (line : Line) : LineKind := kindOf line.text

def isBlank (line : Line) : Bool := line.text.isEmpty

def isComment (line : Line) : Bool := commentMark.isPrefixOf line.text

@[simp] theorem ofBytes_number (n : Nat) (raw : Bytes) : (ofBytes n raw).number = n := rfl

@[simp] theorem body_nil : body [] = [] := rfl

@[simp] theorem body_append_feed (raw : Bytes) : body (raw ++ [feed]) = raw := by
  simp [body]

theorem kind_eq_blank_iff {line : Line} : line.kind = .blank ↔ line.isBlank = true := by
  unfold kind kindOf isBlank
  split
  · simp_all
  · split <;> simp_all

theorem kind_eq_comment_iff {line : Line} : line.kind = .comment ↔ line.isComment = true := by
  unfold kind kindOf isComment
  split
  · simp_all [commentMark]
  · split <;> simp_all

end Line
end SuffixLint
