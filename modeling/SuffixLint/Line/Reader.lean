import SuffixLint.Line

namespace SuffixLint

namespace Line

/-- The lines of `current`, reversed, followed by the given bytes; each keeps its line feed. -/
def splitFrom (current : Bytes) : Bytes → List Bytes
  | [] => if current.isEmpty then [] else [current.reverse]
  | octet :: rest =>
    if octet = feed then (octet :: current).reverse :: splitFrom [] rest
    else splitFrom (octet :: current) rest

def split (data : Bytes) : List Bytes := splitFrom [] data

def numberFrom (first : Nat) : List Bytes → List Line
  | [] => []
  | raw :: rest => ofBytes first raw :: numberFrom (first + 1) rest

def ofData (data : Bytes) : List Line := numberFrom 1 (split data)

@[simp] theorem split_nil : split [] = [] := rfl

@[simp] theorem ofData_nil : ofData [] = [] := rfl

@[simp] theorem length_numberFrom (first : Nat) (raws : List Bytes) :
    (numberFrom first raws).length = raws.length := by
  induction raws generalizing first with
  | nil => rfl
  | cons raw rest ih => simp [numberFrom, ih]

end Line

/-- Bytes as a reader delivers them: piece after piece, then the end or a failure. -/
structure Stream where
  chunks : List Bytes
  failure : Option Text := none
deriving DecidableEq, Repr

namespace Stream

def ofBytes (data : Bytes) : Stream := { chunks := [data] }

def bytes (stream : Stream) : Bytes := stream.chunks.flatten

/-- The lines that one piece completes, without their line feeds, and the start of the next line,
reversed. -/
def takeChunk (current : Bytes) : Bytes → List Bytes × Bytes
  | [] => ([], current)
  | octet :: rest =>
    if octet = Line.feed then
      let (lines, unfinished) := takeChunk [] rest
      (current.reverse :: lines, unfinished)
    else takeChunk (octet :: current) rest

def takeChunks (current : Bytes) : List Bytes → List Bytes × Bytes
  | [] => ([], current)
  | chunk :: rest =>
    let (lines, unfinished) := takeChunk current chunk
    let (later, last) := takeChunks unfinished rest
    (lines ++ later, last)

/-- The lines of a stream. An unfinished last line counts only at a regular end. -/
def rawLines (stream : Stream) : List Bytes :=
  let (lines, last) := takeChunks [] stream.chunks
  if stream.failure.isSome || last.isEmpty then lines else lines ++ [last.reverse]

def lines (stream : Stream) : List Line := Line.numberFrom 1 stream.rawLines

@[simp] theorem bytes_ofBytes (data : Bytes) : (ofBytes data).bytes = data := by
  simp [ofBytes, bytes]

end Stream
end SuffixLint
