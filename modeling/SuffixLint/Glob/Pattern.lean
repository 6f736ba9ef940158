import SuffixLint.FileSystem.Path

namespace SuffixLint.Glob

inductive CharacterRange where
  | single (c : Char)
  | range (first last : Char)
deriving DecidableEq, Repr

namespace CharacterRange

def contains (c : Char) : CharacterRange → Bool
  | .single d => c == d
  | .range first last => first ≤ c && c ≤ last

/-- Reads the inside of brackets. A hyphen between two characters makes a range; a hyphen at either
end stands for itself. -/
def parseAll : Text → List CharacterRange
  | [] => []
  | a :: '-' :: b :: rest => .range a b :: parseAll rest
  | a :: rest => .single a :: parseAll rest

end CharacterRange

/-- A pattern has `?` for one character, `*` for any characters, `[...]` for one of some characters,
and `**` for any number of directories. -/
inductive Token where
  | char (c : Char)
  | anyChar
  | anyText
  | anyDirectories
  | oneOf (ranges : List CharacterRange)
  | noneOf (ranges : List CharacterRange)
deriving DecidableEq, Repr

inductive Fault where
  | tooManyStars
  | starsInsideName
  | badRange
deriving DecidableEq, Repr

namespace Fault

def message : Fault → Text
  | .tooManyStars => "wildcards are either regular `*` or recursive `**`".toList
  | .starsInsideName => "recursive wildcards must form a single path component".toList
  | .badRange => "invalid range pattern".toList

end Fault

/-- A fault and the number of characters before it. -/
structure PatternError where
  position : Nat
  fault : Fault
deriving DecidableEq, Repr

namespace PatternError

def message (error : PatternError) : Text :=
  "Pattern syntax error near position ".toList ++ Text.ofNat error.position ++ ": ".toList ++
    error.fault.message

end PatternError

def untilBracket? (text : Text) : Option (Text × Text) :=
  match text.dropWhile (· ≠ ']') with
  | [] => none
  | _ :: after => some (text.takeWhile (· ≠ ']'), after)

theorem length_of_untilBracket? {text inside after : Text}
    (h : untilBracket? text = some (inside, after)) : after.length < text.length := by
  have hle := (List.dropWhile_suffix (· ≠ ']') (l := text)).length_le
  unfold untilBracket? at h
  split at h
  next => cases h
  next rest hd =>
    cases h
    rw [hd, List.length_cons] at hle
    omega

/-- A bracketed set at the start of a text, without its opening bracket: the token, the number of
characters it takes, and the rest. The first character of a set is taken as it is, so that a closing
bracket can be in it; an exclamation mark in front turns the set around. -/
def bracketed? : Text → Option (Token × Nat × Text)
  | [] => none
  | ['!'] => none
  | '!' :: first :: rest =>
    (untilBracket? rest).map fun (inside, after) =>
      (.noneOf (CharacterRange.parseAll (first :: inside)), inside.length + 3, after)
  | first :: rest =>
    (untilBracket? rest).map fun (inside, after) =>
      (.oneOf (CharacterRange.parseAll (first :: inside)), inside.length + 2, after)

theorem length_of_bracketed? {text after : Text} {token : Token} {n : Nat}
    (h : bracketed? text = some (token, n, after)) : after.length < text.length := by
  unfold bracketed? at h
  split at h
  next => cases h
  next => cases h
  next first rest _ =>
    obtain ⟨⟨inside, closed⟩, hu, hr⟩ := Option.map_eq_some_iff.1 h
    cases hr
    have hlt := length_of_untilBracket? hu
    simp only [List.length_cons]
    omega
  next first rest _ _ =>
    obtain ⟨⟨inside, closed⟩, hu, hr⟩ := Option.map_eq_some_iff.1 h
    cases hr
    have hlt := length_of_untilBracket? hu
    simp only [List.length_cons]
    omega

/-- Reads a pattern from a position on. `before` is the character in front of it. Two stars have to
be a name of their own, and more than two mean nothing. -/
def parseFrom (position : Nat) (before : Option Char) (text : Text) :
    Except PatternError (List Token) :=
  match text with
  | [] => .ok []
  | '?' :: rest => do return .anyChar :: (← parseFrom (position + 1) (some '?') rest)
  | '*' :: rest =>
    let further := (rest.takeWhile (· = '*')).length
    if further = 0 then do return .anyText :: (← parseFrom (position + 1) (some '*') rest)
    else if 1 < further then .error ⟨position + 2, .tooManyStars⟩
    else if before.isSome && before != some Path.separator then
      .error ⟨position - 1, .starsInsideName⟩
    else
      match h : rest.dropWhile (· = '*') with
      | [] => .ok [.anyDirectories]
      | c :: after =>
        if c = Path.separator then do
          have := h ▸ (List.dropWhile_suffix (· = '*') (l := rest)).length_le
          return .anyDirectories :: (← parseFrom (position + 3) (some c) after)
        else .error ⟨position + 2, .starsInsideName⟩
  | '[' :: rest =>
    match h : bracketed? rest with
    | none => .error ⟨position, .badRange⟩
    | some (token, taken, after) => do
      have := length_of_bracketed? h
      return token :: (← parseFrom (position + 1 + taken) (some ']') after)
  | c :: rest => do return .char c :: (← parseFrom (position + 1) (some c) rest)
termination_by text.length
decreasing_by all_goals simp_all <;> omega

def parse (text : Text) : Except PatternError (List Token) := parseFrom 0 none text

def Token.accepts (c : Char) : Token → Bool
  | .char d => c == d
  | .anyChar => true
  | .oneOf ranges => ranges.any (·.contains c)
  | .noneOf ranges => !ranges.any (·.contains c)
  | .anyText | .anyDirectories => false

def anySuffix (p : Text → Bool) : Text → Bool
  | [] => p []
  | c :: rest => p (c :: rest) || anySuffix p rest

def matchesName : List Token → Text → Bool
  | [] => List.isEmpty
  | .anyText :: rest => anySuffix (matchesName rest)
  | .anyDirectories :: rest => anySuffix (matchesName rest)
  | token :: rest => fun name =>
    match name with
    | [] => false
    | c :: name => token.accepts c && matchesName rest name

end SuffixLint.Glob
