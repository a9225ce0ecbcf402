import GraphQLTokens.Text.Classes

namespace GraphQLTokens

def byteSize : Text → Nat
  | [] => 0
  | c :: rest => c.utf8Size + byteSize rest

structure ByteRange where
  start : Nat
  stop : Nat
  deriving DecidableEq, Repr

def ByteRange.slice (r : ByteRange) : Text → Nat → Text
  | [], _ => []
  | c :: rest, offset =>
    if r.start ≤ offset && offset < r.stop then c :: r.slice rest (offset + c.utf8Size)
    else r.slice rest (offset + c.utf8Size)

/-- The tables of the lines of a document of which `offset` bytes and `length` scalars have been read:
the bytes of each line that has ended, without its terminator, and the scalar index at which each line
starts. -/
structure LineTables where
  ranges : Array ByteRange
  starts : Array Nat
  lineStart : Nat
  offset : Nat
  length : Nat
  deriving DecidableEq, Repr

namespace LineTables

def empty : LineTables :=
  ⟨#[], #[0], 0, 0, 0⟩

def pass (c : Char) (l : LineTables) : LineTables :=
  { l with offset := l.offset + c.utf8Size, length := l.length + 1 }

def endLine (size : Nat) (l : LineTables) : LineTables where
  ranges := l.ranges.push ⟨l.lineStart, l.offset⟩
  starts := l.starts.push (l.length + size)
  lineStart := l.offset + size
  offset := l.offset + size
  length := l.length + size

def finish (l : LineTables) : LineTables :=
  { l with ranges := l.ranges.push ⟨l.lineStart, l.offset⟩ }

def read : Text → LineTables → LineTables
  | [], l => l.finish
  | '\r' :: '\n' :: rest, l => read rest (l.endLine 2)
  | c :: rest, l =>
    if isLineTerminator c then read rest (l.endLine 1) else read rest (l.pass c)

def ofText (t : Text) : LineTables :=
  empty.read t

end LineTables

end GraphQLTokens
