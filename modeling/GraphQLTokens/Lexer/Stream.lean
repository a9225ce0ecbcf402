import GraphQLTokens.Lexer.Recognizer
import GraphQLTokens.Lexer.Trivia

/-! Lexing as a stream. A token is what the first successful recognizer reads after the trivia.
Where none succeeds, everything that is left is one unrecognized token, and the stream ends. -/

namespace GraphQLTokens

structure Lexer where
  position : Nat
  rest : Text
  recorded : Option (Array Trivia)
  finished : Bool
  deriving DecidableEq, Repr

namespace Lexer

def ofText (t : Text) : Lexer :=
  ⟨0, t, none, false⟩

def withTrivia (l : Lexer) : Lexer :=
  { l with recorded := some #[] }

def takeTrivia (l : Lexer) : List Trivia × Lexer :=
  ((l.recorded.getD #[]).toList, { l with recorded := l.recorded.map fun _ => #[] })

def nextBy (chain : List Recognizer) (l : Lexer) : Option Token × Lexer :=
  if l.finished then (none, l)
  else
    let (start, rest) := afterTrivia l.position l.rest
    let recorded := l.recorded.map (·.appendList (triviaFrom l.position l.rest))
    if rest.isEmpty then (none, ⟨start, rest, recorded, true⟩)
    else
      match firstToken chain rest with
      | some (kind, after) =>
        let stop := start + kind.lexeme.length
        (some ⟨kind, start, stop⟩, ⟨stop, after, recorded, false⟩)
      | none =>
        let stop := start + rest.length
        (some ⟨.unrecognized rest, start, stop⟩, ⟨stop, [], recorded, true⟩)

def pending (l : Lexer) : Nat :=
  if l.finished then 0 else l.rest.length + 1

theorem pending_lt_of_nextBy {chain : List Recognizer} {l l' : Lexer} {token : Token}
    (h : l.nextBy chain = (some token, l')) : l'.pending < l.pending := by
  unfold nextBy at h
  have := length_afterTrivia_le l.position l.rest
  split at h
  · simp at h
  · simp only at h
    split at h
    · simp at h
    · split at h
      · rename_i kind after hfirst
        cases h
        have := length_lt_of_firstToken hfirst
        simp_all [pending]
        omega
      · cases h
        simp_all [pending]

def collectBy (chain : List Recognizer) (l : Lexer) : List Token × Lexer :=
  match h : l.nextBy chain with
  | (none, l') => ([], l')
  | (some token, l') =>
    have := pending_lt_of_nextBy h
    let (tokens, final) := collectBy chain l'
    (token :: tokens, final)
termination_by l.pending

def next (l : Lexer) : Option Token × Lexer :=
  l.nextBy Recognizer.order

def collect (l : Lexer) : List Token × Lexer :=
  l.collectBy Recognizer.order

inductive Call where
  | next
  | collect
  | withTrivia
  | takeTrivia
  deriving DecidableEq, Repr

inductive Reply where
  | token (token : Option Token)
  | tokens (tokens : List Token)
  | trivia (trivia : List Trivia)
  | done
  deriving DecidableEq, Repr

def call (l : Lexer) : Call → Reply × Lexer
  | .next => let (token, l) := l.next; (.token token, l)
  | .collect => let (tokens, l) := l.collect; (.tokens tokens, l)
  | .withTrivia => (.done, l.withTrivia)
  | .takeTrivia => let (trivia, l) := l.takeTrivia; (.trivia trivia, l)

def replies (l : Lexer) : List Call → List (Reply × Nat)
  | [] => []
  | c :: calls =>
    let (reply, l) := l.call c
    (reply, l.position) :: l.replies calls

end Lexer

def tokensOf (t : Text) : List Token :=
  (Lexer.ofText t).collect.1

def tokensAndTriviaOf (t : Text) : List Token × List Trivia :=
  let (tokens, l) := (Lexer.ofText t).withTrivia.collect
  (tokens, l.takeTrivia.1)

end GraphQLTokens
