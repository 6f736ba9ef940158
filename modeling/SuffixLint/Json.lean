import SuffixLint.Text.Basic

namespace SuffixLint

/-- A JSON value; all numbers of reports are natural numbers. -/
inductive Json where
  | null
  | bool (value : Bool)
  | number (value : Nat)
  | string (value : Text)
  | array (items : List Json)
  | object (members : List (Text × Json))
deriving Repr

namespace Json

def hexDigit (n : Nat) : Char := Nat.digitChar n

/-- The form of a character inside quotes: only quotes, backslashes and controls are escaped. -/
def escape (c : Char) : Text :=
  match c with
  | '"' => ['\\', '"']
  | '\\' => ['\\', '\\']
  | '\n' => ['\\', 'n']
  | '\r' => ['\\', 'r']
  | '\t' => ['\\', 't']
  | '\x08' => ['\\', 'b']
  | '\x0C' => ['\\', 'f']
  | c =>
    if c.toNat < 0x20 then
      "\\u00".toList ++ [hexDigit (c.toNat / 16), hexDigit (c.toNat % 16)]
    else [c]

def quote (text : Text) : Text := '"' :: text.flatMap escape ++ ['"']

def indent (depth : Nat) : Text := List.replicate (2 * depth) ' '

def block (opening closing : Char) (depth : Nat) (items : List Text) : Text :=
  if items.isEmpty then [opening, closing]
  else
    [opening, '\n'] ++ Text.join ",\n".toList (items.map (indent (depth + 1) ++ ·)) ++
      '\n' :: indent depth ++ [closing]

mutual

def prettyAt (depth : Nat) : Json → Text
  | .null => "null".toList
  | .bool value => if value then "true".toList else "false".toList
  | .number value => Text.ofNat value
  | .string value => quote value
  | .array items => block '[' ']' depth (prettyItems depth items)
  | .object members => block '{' '}' depth (prettyMembers depth members)

def prettyItems (depth : Nat) : List Json → List Text
  | [] => []
  | item :: rest => prettyAt (depth + 1) item :: prettyItems depth rest

def prettyMembers (depth : Nat) : List (Text × Json) → List Text
  | [] => []
  | (key, value) :: rest =>
    (quote key ++ ": ".toList ++ prettyAt (depth + 1) value) :: prettyMembers depth rest

end

def pretty (value : Json) : Text := prettyAt 0 value

def ofMembers (members : List (String × Json)) : Json :=
  .object (members.map fun (key, value) => (key.toList, value))

end Json
end SuffixLint
