import GraphQLTokens.Text.Classes
import GraphQLTokens.Source.Span

/-! Lines and columns. A line ends after LF, after CR LF, and after a CR that no LF follows. -/

namespace GraphQLTokens

structure Position where
  line : Nat
  column : Nat
  deriving DecidableEq, Repr

namespace Position

def first : Position :=
  ⟨1, 1⟩

instance : Inhabited Position :=
  ⟨first⟩

def render (p : Position) : Text :=
  decimal p.line ++ ':' :: decimal p.column

instance : Ord Position where
  compare a b := (compare a.line b.line).then (compare a.column b.column)

end Position

def endsLine (c : Char) (rest : Text) : Bool :=
  c == '\n' || (c == '\r' && rest.head? != some '\n')

def Position.after (p : Position) (c : Char) (rest : Text) : Position :=
  if endsLine c rest then ⟨p.line + 1, 1⟩ else ⟨p.line, p.column + 1⟩

def Position.advance (p : Position) : Text → Nat → Position
  | c :: rest, count + 1 => (p.after c rest).advance rest count
  | _, _ => p

def positionAt (index : Nat) (t : Text) : Position :=
  Position.first.advance t index

end GraphQLTokens
