import SuffixLint.Toml.Scalar

namespace SuffixLint.Toml

open Reading

def depthLimit : Nat := 80

def comment : Reading Unit := do
  exactly "#"
  let _ ← takeWhile isPlain

def gap : Reading Unit := do
  let _ ← many do
    (do let _ ← takeSome isBlank) <|> newline <|> (do comment; newline)

def isBareKey (c : Char) : Bool := c.isAlphanum || c == '_' || c == '-'

def keyName : Reading Text := takeSome isBareKey <|> basicString <|> literalString

def key : Reading (List Text) :=
  separatedBy (do let _ ← takeWhile isBlank; exactly "."; takeWhile isBlank) keyName

def items {α : Type} (closing : String) (item : Reading α) : Reading (List α) := do
  gap
  let found ← many do
    let value ← item
    gap
    if ← looksAt closing then return value
    exactly ","
    gap
    return value
  exactly closing
  return found

/-- A key with its value: the names before the last, the last name, and the value. -/
def assignment (value : Reading Value) : Reading (List Text × Text × Value) := do
  let names ← key
  let _ ← takeWhile isBlank
  exactly "="
  let _ ← takeWhile isBlank
  let name ← ofOption names.getLast?
  return (names.dropLast, name, ← value)

def tableOf? (assignments : List (List Text × Text × Value)) : Option Value :=
  assignments.foldlM (fun table (path, name, value) => table.assign path name value)
    (.newTable .headed)

def valueWithin : Nat → Reading Value
  | 0 => failure
  | depth + 1 => do
    match ← peek with
    | some '[' =>
      exactly "["
      return .array (← items "]" (valueWithin depth))
    | some '\x7b' =>
      exactly "\x7b"
      let table ← ofOption (tableOf? (← items "\x7d" (assignment (valueWithin depth))))
      return .table .closed table.members
    | some '"' | some '\'' => return .string (← string)
    | _ => plainScalar

inductive Statement where
  | header (path : List Text) (name : Text)
  | elementHeader (path : List Text) (name : Text)
  | assignment (path : List Text) (name : Text) (value : Value)

def headerIn (opening closing : String) (make : List Text → Text → Statement) :
    Reading Statement := do
  exactly opening
  let _ ← takeWhile isBlank
  let names ← key
  let _ ← takeWhile isBlank
  exactly closing
  let name ← ofOption names.getLast?
  return make names.dropLast name

def statement : Reading Statement := do
  if ← looksAt "[[" then headerIn "[[" "]]" .elementHeader
  else if ← looksAt "[" then headerIn "[" "]" .header
  else
    let (path, name, value) ← assignment (valueWithin (depthLimit + 1))
    return .assignment path name value

def line : Reading (Option Statement) := do
  let _ ← takeWhile isBlank
  let found ← match ← peek with
    | none | some '\n' | some '\r' | some '#' => pure none
    | some _ => some <$> statement
  let _ ← takeWhile isBlank
  let _ ← optional comment
  return found

def statements : Reading (List Statement) := do
  return (← separatedBy newline line).filterMap id

/-- A document under way: the table of everything, and the path of the header in force. -/
structure Draft where
  root : Value := .newTable .headed
  header : List Text := []

def Draft.apply (draft : Draft) : Statement → Option Draft
  | .header path name => do
    let root ← draft.root.change false (·.openTable name) path
    return { root, header := path ++ [name] }
  | .elementHeader path name => do
    let root ← draft.root.change false (·.openElement name) path
    return { root, header := path ++ [name] }
  | .assignment path name value => do
    let root ← draft.root.change false (·.assign path name value) draft.header
    return { draft with root }

def byteOrderMark : Char := '\uFEFF'

/-- Reads a document. The result is its table, or nothing if any part of it is wrong. -/
def parse? (text : Text) : Option Value := do
  let text := if text.head? = some byteOrderMark then text.drop 1 else text
  let found ← Reading.whole statements text
  let draft ← found.foldlM Draft.apply {}
  return draft.root

end SuffixLint.Toml
