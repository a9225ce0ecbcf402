import GraphQLTokens.Text.Basic

namespace GraphQLTokens

structure Snippet where
  line : Text
  lineNumber : Nat
  startColumn : Nat
  endColumn : Nat
  label : Option Text
  deriving DecidableEq, Repr

namespace Snippet

def withLabel (s : Snippet) (label : Text) : Snippet :=
  { s with label := some label }

def gutter (s : Snippet) : Nat :=
  max (decimal s.lineNumber).length 3

def underline (s : Snippet) : Text :=
  List.replicate (max (s.endColumn - s.startColumn) 1) '^'

def sourceRow (s : Snippet) : Text :=
  (decimal s.lineNumber).leftpad s.gutter ' ' ++ " | ".toList ++ s.line

def caretRow (s : Snippet) : Text :=
  indent s.gutter ++ " | ".toList ++ indent (s.startColumn - 1) ++ s.underline ++
    (s.label.map (' ' :: ·)).getD []

def render (s : Snippet) : Text :=
  s.sourceRow ++ '\n' :: s.caretRow

/-- The most bytes that a text can have. -/
def byteLimit : Nat :=
  0x7fffffffffffffff

def fits (s : Snippet) : Bool :=
  s.startColumn - 1 ≤ byteLimit && s.endColumn - s.startColumn ≤ byteLimit

end Snippet

end GraphQLTokens
