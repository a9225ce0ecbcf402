import GraphQLTokens.Ascending
import GraphQLTokens.Source.Lines
import GraphQLTokens.Source.Position
import GraphQLTokens.Source.Snippet

namespace GraphQLTokens

inductive SourceError where
  | indexOutOfBounds (index length : Nat)
  | invalidSpan (start stop : Nat)
  | invalidLine (line lineCount : Nat)
  deriving DecidableEq, Repr

def SourceError.message : SourceError → Text
  | .indexOutOfBounds index length =>
    "Index out of bounds: index ".toList ++ decimal index ++ ", file has ".toList ++
      decimal length ++ " scalars".toList
  | .invalidSpan start stop =>
    "Invalid span: start ".toList ++ decimal start ++ " > end ".toList ++ decimal stop
  | .invalidLine line lineCount =>
    "Invalid line number: ".toList ++ decimal line ++ " (file has ".toList ++ decimal lineCount ++
      " lines)".toList

structure SourceFile where
  name : Text
  content : Text
  scalars : Array Char
  length : Nat
  lines : Array ByteRange
  lineStarts : Array Nat
  deriving DecidableEq, Repr

namespace SourceFile

def ofText (name content : Text) : SourceFile :=
  let tables := LineTables.ofText content
  ⟨name, content, content.toArray, tables.length, tables.ranges, tables.starts⟩

def slice (f : SourceFile) (s : Span) : Text :=
  (f.scalars.extract s.start s.stop).toList

theorem slice_ofText (name content : Text) (s : Span) :
    (ofText name content).slice s = s.slice content := by
  simp [slice, ofText, Span.slice]

/-- The position of a scalar by the table of line starts: its line is the number of lines that start
at or before it. An index past the end has the position just after the last scalar. -/
def position (f : SourceFile) (index : Nat) : Position :=
  let index := min index f.length
  let line := countUpTo f.lineStarts index
  ⟨line, index - f.lineStarts.getD (line - 1) 0 + 1⟩

def position? (f : SourceFile) (index : Nat) : Except SourceError Position :=
  if index ≤ f.length then .ok (f.position index) else .error (.indexOutOfBounds index f.length)

def line? (f : SourceFile) (number : Nat) : Except SourceError Text :=
  match number with
  | 0 => .error (.invalidLine 0 f.lines.size)
  | previous + 1 =>
    match f.lines[previous]? with
    | some range => .ok (range.slice f.content 0)
    | none => .error (.invalidLine number f.lines.size)

def accept (f : SourceFile) (s : Span) : Except SourceError Unit :=
  if s.stop < s.start then .error (.invalidSpan s.start s.stop)
  else if f.length < s.stop then .error (.indexOutOfBounds s.stop f.length)
  else .ok ()

def snippet? (f : SourceFile) (s : Span) (label : Option Text) : Except SourceError Snippet := do
  f.accept s
  let start := f.position s.start
  let stop := f.position s.stop
  let line ← f.line? start.line
  let endColumn := if stop.line = start.line then stop.column else line.length + 1
  return ⟨line, start.line, start.column, max endColumn (start.column + 1), label⟩

end SourceFile

end GraphQLTokens
