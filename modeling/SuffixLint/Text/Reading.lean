import SuffixLint.Text.Basic

namespace SuffixLint

abbrev Reading (α : Type) := StateT Text Option α

namespace Reading

variable {α β : Type}

def ofOption (value : Option α) : Reading α := fun text => value.map (·, text)

def peek : Reading (Option Char) := fun text => some (text.head?, text)

def next : Reading Char
  | [] => none
  | c :: rest => some (c, rest)

def next? (p : Char → Bool) : Reading Char
  | [] => none
  | c :: rest => if p c then some (c, rest) else none

def looksAt (expected : String) : Reading Bool := fun text =>
  some (expected.toList.isPrefixOf text, text)

def exactly (expected : String) : Reading Unit := fun text =>
  (expected.toList.isPrefixOf? text).map ((), ·)

def takeWhile (p : Char → Bool) : Reading Text := fun text =>
  some (text.takeWhile p, text.dropWhile p)

def takeSome (p : Char → Bool) : Reading Text := do
  let taken ← takeWhile p
  if taken.isEmpty then failure else return taken

/-- Up to `limit` values, as long as they can be read. -/
def upTo (limit : Nat) (reading : Reading α) : Reading (List α) := fun text =>
  match limit with
  | 0 => some ([], text)
  | limit + 1 =>
    match reading text with
    | none => some ([], text)
    | some (value, rest) =>
      (upTo limit reading rest).map fun (values, rest) => (value :: values, rest)

/-- As many values as can be read, each from at least one character. -/
def many (reading : Reading α) : Reading (List α) := fun text => upTo text.length reading text

def times (count : Nat) (reading : Reading α) : Reading (List α) :=
  match count with
  | 0 => return []
  | count + 1 => do return (← reading) :: (← times count reading)

def separatedBy (separator : Reading β) (reading : Reading α) : Reading (List α) := do
  return (← reading) :: (← many do let _ ← separator; reading)

def whole (reading : Reading α) (text : Text) : Option α :=
  match reading text with
  | some (value, []) => some value
  | _ => none

end Reading

namespace Text

def isDigit (c : Char) : Bool := '0' ≤ c && c ≤ '9'

def digit? (base : Nat) (c : Char) : Option Nat :=
  let value? : Option Nat :=
    if '0' ≤ c ∧ c ≤ '9' then some (c.toNat - '0'.toNat)
    else if 'a' ≤ c ∧ c ≤ 'f' then some (c.toNat - 'a'.toNat + 10)
    else if 'A' ≤ c ∧ c ≤ 'F' then some (c.toNat - 'A'.toNat + 10)
    else none
  value?.filter (· < base)

def ofDigits (base : Nat) (digits : List Nat) : Nat :=
  digits.foldl (fun n d => n * base + d) 0

/-- The character of a code point; surrogates are none. -/
def character? (code : Nat) : Option Char :=
  if code.isValidChar then some (Char.ofNat code) else none

end Text

namespace Reading

def digit (base : Nat) : Reading Nat := do
  let c ← next
  ofOption (Text.digit? base c)

def number (base count : Nat) : Reading Nat := do
  return Text.ofDigits base (← times count (digit base))

end Reading
end SuffixLint
