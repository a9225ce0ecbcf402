import GraphQLTokens.Text.Basic

namespace GraphQLTokens

/-- The scalars from index `start` up to, but not including, index `stop`. Nothing forces
`start ≤ stop`; the operations that need it check it. -/
structure Span where
  start : Nat
  stop : Nat
  deriving DecidableEq, Repr, Inhabited

namespace Span

def point (index : Nat) : Span :=
  ⟨index, index⟩

/-- A span whose ends are the wrong way round has length zero, but is not empty. -/
def length (s : Span) : Nat :=
  s.stop - s.start

def isEmpty (s : Span) : Bool :=
  s.start == s.stop

def shift (s : Span) (offset : Nat) : Span :=
  ⟨s.start + offset, s.stop + offset⟩

def render (s : Span) : Text :=
  decimal s.start ++ "..".toList ++ decimal s.stop

instance : Ord Span where
  compare a b := (compare a.start b.start).then (compare a.stop b.stop)

def slice (s : Span) (t : Text) : Text :=
  (t.drop s.start).take (s.stop - s.start)

end Span

end GraphQLTokens
