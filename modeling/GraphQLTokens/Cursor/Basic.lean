import GraphQLTokens.Text.Basic

namespace GraphQLTokens

structure Cursor where
  source : Text
  position : Nat
  deriving DecidableEq, Repr

namespace Cursor

def ofText (t : Text) : Cursor :=
  ⟨t, 0⟩

def remaining (c : Cursor) : Text :=
  c.source.drop c.position

def isAtEnd (c : Cursor) : Bool :=
  c.source.length ≤ c.position

def peek (c : Cursor) : Option Char :=
  c.source[c.position]?

def peekNth (c : Cursor) (n : Nat) : Except Overflow (Option Char) :=
  (indexSum c.position n).map (c.source[·]?)

def peekMany (c : Cursor) (n : Nat) : Option Text :=
  if n ≤ c.remaining.length then some (c.remaining.take n) else none

def startsWith (c : Cursor) (t : Text) : Bool :=
  t.isPrefixOf c.remaining

def moveBy (c : Cursor) (n : Nat) : Cursor :=
  { c with position := c.position + n }

def advance (c : Cursor) : Option Char × Cursor :=
  match c.peek with
  | some x => (some x, c.moveBy 1)
  | none => (none, c)

def advanceMany (c : Cursor) (n : Nat) : Nat × Cursor :=
  let count := min n (c.source.length - c.position)
  (count, c.moveBy count)

def eatIf (p : Char → Bool) (c : Cursor) : Option Char × Cursor :=
  match c.peek with
  | some x => if p x then (some x, c.moveBy 1) else (none, c)
  | none => (none, c)

def eat (x : Char) (c : Cursor) : Bool × Cursor :=
  let (eaten, c) := c.eatIf (· == x)
  (eaten.isSome, c)

def eatWhile (p : Char → Bool) (c : Cursor) : Nat × Cursor :=
  let count := (c.remaining.takeWhile p).length
  (count, c.moveBy count)

/-- The scalars from `start` up to the cursor. There are none if `start` lies beyond the cursor, or the
cursor beyond the end. -/
def sliceFrom? (c : Cursor) (start : Nat) : Option Text :=
  if start ≤ c.position ∧ c.position ≤ c.source.length then
    some ((c.source.take c.position).drop start)
  else none

structure Snapshot where
  position : Nat
  deriving DecidableEq, Repr

def snapshot (c : Cursor) : Snapshot :=
  ⟨c.position⟩

def restore (c : Cursor) (s : Snapshot) : Cursor :=
  { c with position := s.position }

end Cursor

end GraphQLTokens
