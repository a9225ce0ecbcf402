import GraphQLTokens.Text.Classes
import GraphQLTokens.Token

namespace GraphQLTokens

def leadingTrivia? : Text → Option (TriviaKind × Text × Text)
  | [] => none
  | c :: rest =>
    if isWhitespace c then
      some (.whitespace, c :: rest.takeWhile isWhitespace, rest.dropWhile isWhitespace)
    else if c = ',' then some (.comma, [c], rest)
    else if c = '#' then
      some (.comment, c :: rest.takeWhile (!isLineTerminator ·),
        rest.dropWhile (!isLineTerminator ·))
    else none

theorem append_of_leadingTrivia? {t m rest : Text} {kind : TriviaKind}
    (h : leadingTrivia? t = some (kind, m, rest)) : m ++ rest = t ∧ m ≠ [] := by
  cases t with
  | nil => simp [leadingTrivia?] at h
  | cons c t => grind [leadingTrivia?, List.takeWhile_append_dropWhile]

theorem length_lt_of_leadingTrivia? {t m rest : Text} {kind : TriviaKind}
    (h : leadingTrivia? t = some (kind, m, rest)) : rest.length < t.length := by
  obtain ⟨rfl, hne⟩ := append_of_leadingTrivia? h
  have := List.length_pos_iff.2 hne
  grind

def afterTrivia (start : Nat) (t : Text) : Nat × Text :=
  match h : leadingTrivia? t with
  | none => (start, t)
  | some (_, m, rest) =>
    have := length_lt_of_leadingTrivia? h
    afterTrivia (start + m.length) rest
termination_by t.length

def triviaFrom (start : Nat) (t : Text) : List Trivia :=
  match h : leadingTrivia? t with
  | none => []
  | some (kind, m, rest) =>
    have := length_lt_of_leadingTrivia? h
    ⟨kind, start, start + m.length⟩ :: triviaFrom (start + m.length) rest
termination_by t.length

theorem length_afterTrivia_le (start : Nat) (t : Text) :
    (afterTrivia start t).2.length ≤ t.length := by
  fun_induction afterTrivia start t with
  | case1 => exact Nat.le_refl _
  | case2 => omega

end GraphQLTokens
