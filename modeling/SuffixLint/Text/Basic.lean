namespace SuffixLint

/-- A text is the list of its characters; its order is the order of code points. -/
abbrev Text := List Char

abbrev Bytes := List UInt8

namespace Text

def ofNat (n : Nat) : Text := Nat.toDigits 10 n

def newline : Char := '\n'

/-- Whether `part` occurs in a text as a block of adjacent characters. -/
def hasInfix (part : Text) : Text → Bool
  | [] => part.isEmpty
  | c :: rest => part.isPrefixOf (c :: rest) || hasInfix part rest

theorem hasInfix_iff {part text : Text} : hasInfix part text = true ↔ part <:+: text := by
  induction text with
  | nil => simp [hasInfix, List.isEmpty_iff]
  | cons c rest ih => simp [hasInfix, ih, List.infix_cons_iff]

def replace (text : Text) (old : Char) (new : Text) : Text :=
  text.flatMap fun c => if c = old then new else [c]

@[simp] theorem replace_nil (old : Char) (new : Text) : replace [] old new = [] := rfl

@[simp] theorem replace_append (a b : Text) (old : Char) (new : Text) :
    replace (a ++ b) old new = replace a old new ++ replace b old new := by
  simp [replace]

def join (separator : Text) (parts : List Text) : Text :=
  separator.intercalate parts

/-- The 25 characters with the property White_Space. -/
def isWhiteSpace (c : Char) : Bool :=
  let n := c.toNat
  (0x09 ≤ n && n ≤ 0x0D) || n == 0x20 || n == 0x85 || n == 0xA0 || n == 0x1680 ||
    (0x2000 ≤ n && n ≤ 0x200A) || n == 0x2028 || n == 0x2029 || n == 0x202F || n == 0x205F ||
    n == 0x3000

def trimStart (text : Text) : Text := text.dropWhile isWhiteSpace

def trimEnd (text : Text) : Text := (text.reverse.dropWhile isWhiteSpace).reverse

def trim (text : Text) : Text := trimEnd (trimStart text)

@[simp] theorem trim_nil : trim [] = [] := rfl

end Text
end SuffixLint
