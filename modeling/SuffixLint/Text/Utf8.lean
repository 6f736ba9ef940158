import SuffixLint.Text.Basic

namespace SuffixLint.Utf8

structure OctetRange where
  first : UInt8
  last : UInt8
deriving DecidableEq, Repr

namespace OctetRange

def contains (range : OctetRange) (octet : UInt8) : Bool :=
  range.first ≤ octet && octet ≤ range.last

def continuation : OctetRange := ⟨0x80, 0xBF⟩

end OctetRange

/-- A sequence under way: the bits read so far and the ranges of the octets still missing. -/
structure Pending where
  bits : Nat
  missing : OctetRange
  later : List OctetRange
deriving DecidableEq, Repr

inductive Lead where
  | single (c : Char)
  | opens (pending : Pending)
  | invalid
deriving DecidableEq, Repr

open OctetRange in
/-- The second octet is narrowed after `E0`, `ED`, `F0` and `F4`, which keeps out overlong forms,
surrogates and values past the last code point. -/
def lead (octet : UInt8) : Lead :=
  let n := octet.toNat
  if n < 0x80 then .single (Char.ofNat n)
  else if n < 0xC2 then .invalid
  else if n < 0xE0 then .opens ⟨n - 0xC0, continuation, []⟩
  else if n < 0xF0 then
    let second := if n = 0xE0 then ⟨0xA0, 0xBF⟩ else if n = 0xED then ⟨0x80, 0x9F⟩ else continuation
    .opens ⟨n - 0xE0, second, [continuation]⟩
  else if n < 0xF5 then
    let second := if n = 0xF0 then ⟨0x90, 0xBF⟩ else if n = 0xF4 then ⟨0x80, 0x8F⟩ else continuation
    .opens ⟨n - 0xF0, second, [continuation, continuation]⟩
  else .invalid

/-- A decoded character, or a maximal malformed subpart. -/
inductive Piece where
  | char (c : Char)
  | malformed
deriving DecidableEq, Repr

abbrev State := Option Pending

def begin (octet : UInt8) : List Piece × State :=
  match lead octet with
  | .single c => ([.char c], none)
  | .opens pending => ([], some pending)
  | .invalid => ([.malformed], none)

def step (state : State) (octet : UInt8) : List Piece × State :=
  match state with
  | none => begin octet
  | some pending =>
    if pending.missing.contains octet then
      let bits := pending.bits * 64 + octet.toNat % 64
      match pending.later with
      | [] => ([.char (Char.ofNat bits)], none)
      | range :: later => ([], some ⟨bits, range, later⟩)
    else
      let (pieces, next) := begin octet
      (.malformed :: pieces, next)

/-- A sequence cut off by the end of the input is malformed. -/
def pieces (state : State) : Bytes → List Piece
  | [] => if state.isSome then [.malformed] else []
  | octet :: rest => (step state octet).1 ++ pieces (step state octet).2 rest

def Piece.replaced : Piece → Char
  | .char c => c
  | .malformed => '\uFFFD'

/-- Every maximal malformed subpart is read as one U+FFFD. -/
def decodeLossy (bytes : Bytes) : Text := (pieces none bytes).map Piece.replaced

def isValid (bytes : Bytes) : Bool := (pieces none bytes).all (· != .malformed)

def decode? (bytes : Bytes) : Option Text :=
  if isValid bytes then some (decodeLossy bytes) else none

def encode (text : Text) : Bytes := text.flatMap String.utf8EncodeChar

@[simp] theorem decodeLossy_nil : decodeLossy [] = [] := rfl

@[simp] theorem isValid_nil : isValid [] = true := rfl

@[simp] theorem encode_nil : encode [] = [] := rfl

@[simp] theorem encode_append (a b : Text) : encode (a ++ b) = encode a ++ encode b := by
  simp [encode]

end SuffixLint.Utf8
