import GraphQLTokens.Lexer.Stream
import GraphQLTokens.Proofs.Lexing.Trivia

/-! A document as one sequence of tokens and trivia in the order in which they stand. The lexer hands
out the two apart, so its answers are read off the sequence. -/

namespace GraphQLTokens.Lexing

inductive Piece where
  | token (token : Token)
  | trivia (trivia : Trivia)
  deriving DecidableEq

def Piece.span : Piece → Span
  | .token x => x.span
  | .trivia v => v.span

def pieces (start : Nat) (t : Text) : List Piece :=
  match h : leadingTrivia? t with
  | some (kind, m, rest) =>
    have := length_lt_of_leadingTrivia? h
    .trivia ⟨kind, start, start + m.length⟩ :: pieces (start + m.length) rest
  | none =>
    match h : firstToken Recognizer.order t with
    | some (kind, rest) =>
      have := length_lt_of_firstToken h
      let stop := start + kind.lexeme.length
      .token ⟨kind, start, stop⟩ :: pieces stop rest
    | none => if t.isEmpty then [] else [.token ⟨.unrecognized t, start, start + t.length⟩]
termination_by t.length

def Piece.token? : Piece → Option Token
  | .token x => some x
  | .trivia _ => none

def Piece.trivia? : Piece → Option Trivia
  | .token _ => none
  | .trivia v => some v

def Piece.map (f : Token → Token) (g : Trivia → Trivia) : Piece → Piece
  | .token x => .token (f x)
  | .trivia v => .trivia (g v)

def tokensIn (ps : List Piece) : List Token :=
  ps.filterMap Piece.token?

def triviaIn (ps : List Piece) : List Trivia :=
  ps.filterMap Piece.trivia?

variable {start : Nat} {t m rest : Text} {kind : TriviaKind} {k : TokenKind} {ps qs : List Piece}
  {x : Token} {v : Trivia} {vs : List Trivia}

@[simp]
lemma tokensIn_nil : tokensIn [] = [] :=
  rfl

@[simp]
lemma triviaIn_nil : triviaIn [] = [] :=
  rfl

@[simp]
lemma tokensIn_token : tokensIn (.token x :: ps) = x :: tokensIn ps :=
  rfl

@[simp]
lemma tokensIn_trivia : tokensIn (.trivia v :: ps) = tokensIn ps :=
  rfl

@[simp]
lemma triviaIn_token : triviaIn (.token x :: ps) = triviaIn ps :=
  rfl

@[simp]
lemma triviaIn_trivia : triviaIn (.trivia v :: ps) = v :: triviaIn ps :=
  rfl

lemma mem_tokensIn : x ∈ tokensIn ps ↔ .token x ∈ ps := by
  induction ps with
  | nil => simp
  | cons p ps ih => cases p <;> simp [ih]

lemma mem_triviaIn : v ∈ triviaIn ps ↔ .trivia v ∈ ps := by
  induction ps with
  | nil => simp
  | cons p ps ih => cases p <;> simp [ih]

lemma tokensIn_append : tokensIn (ps ++ qs) = tokensIn ps ++ tokensIn qs :=
  List.filterMap_append

lemma triviaIn_append : triviaIn (ps ++ qs) = triviaIn ps ++ triviaIn qs :=
  List.filterMap_append

lemma tokensIn_map_trivia : tokensIn (vs.map .trivia) = [] := by
  induction vs with
  | nil => rfl
  | cons v vs ih => simpa using ih

lemma triviaIn_map_trivia : triviaIn (vs.map .trivia) = vs := by
  induction vs with
  | nil => rfl
  | cons v vs ih => simpa using ih

lemma tokensIn_map (f : Token → Token) (g : Trivia → Trivia) (ps : List Piece) :
    tokensIn (ps.map (Piece.map f g)) = (tokensIn ps).map f := by
  induction ps with
  | nil => rfl
  | cons p ps ih =>
    cases p with
    | token x => exact congrArg _ ih
    | trivia v => exact ih

lemma pieces_of_trivia (h : leadingTrivia? t = some (kind, m, rest)) (start : Nat) : pieces start t =
    .trivia ⟨kind, start, start + m.length⟩ :: pieces (start + m.length) rest := by
  rw [pieces]
  split <;> simp_all

lemma pieces_of_token (h : leadingTrivia? t = none) (hk : firstToken Recognizer.order t = some (k, rest))
    (start : Nat) : pieces start t =
    .token ⟨k, start, start + k.lexeme.length⟩ :: pieces (start + k.lexeme.length) rest := by
  rw [pieces]
  split
  · simp_all
  · split <;> simp_all

lemma pieces_of_none (h : leadingTrivia? t = none) (hk : firstToken Recognizer.order t = none)
    (hne : t ≠ []) (start : Nat) :
    pieces start t = [.token ⟨.unrecognized t, start, start + t.length⟩] := by
  rw [pieces]
  split
  · simp_all
  · split <;> simp_all

@[simp]
lemma pieces_nil (start : Nat) : pieces start [] = [] := by
  rw [pieces]
  rfl

lemma pieces_eq_trivia_append (start : Nat) (t : Text) : pieces start t =
    (triviaFrom start t).map .trivia ++ pieces (afterTrivia start t).1 (afterTrivia start t).2 := by
  fun_induction triviaFrom start t with
  | case1 start t h => rw [afterTrivia_of_none h, List.map_nil, List.nil_append]
  | case2 start t kind m rest h _ ih =>
    rw [pieces_of_trivia h, ih, afterTrivia_of_some h]
    rfl

lemma tokensIn_pieces (start : Nat) (t : Text) : tokensIn (pieces start t) =
    tokensIn (pieces (afterTrivia start t).1 (afterTrivia start t).2) := by
  rw [pieces_eq_trivia_append, tokensIn_append, tokensIn_map_trivia, List.nil_append]

lemma triviaIn_pieces (start : Nat) (t : Text) : triviaIn (pieces start t) =
    triviaFrom start t ++ triviaIn (pieces (afterTrivia start t).1 (afterTrivia start t).2) := by
  rw [pieces_eq_trivia_append, triviaIn_append, triviaIn_map_trivia]

lemma length_afterTrivia (start : Nat) (t : Text) :
    (afterTrivia start t).1 + (afterTrivia start t).2.length = start + t.length := by
  obtain ⟨m, hstart, happ, -⟩ := skips_afterTrivia start t
  rw [hstart, ← congrArg List.length happ, List.length_append, Nat.add_assoc]

section Lexer

variable {l l' : Lexer} {recorded : Option (Array Trivia)}

lemma appendList_append (a : Array Trivia) (vs ws : List Trivia) :
    (a.appendList vs).appendList ws = a.appendList (vs ++ ws) := by
  apply Array.toList_inj.1
  simp

lemma collect_of_none (h : l.next = (none, l')) : l.collect = ([], l') := by
  unfold Lexer.next at h
  rw [Lexer.collect, Lexer.collectBy]
  split <;> simp_all

lemma collect_of_some (h : l.next = (some x, l')) : l.collect = (x :: l'.collect.1, l'.collect.2) := by
  unfold Lexer.next at h
  rw [Lexer.collect, Lexer.collectBy]
  split <;> simp_all [Lexer.collect]

lemma collect_finished (h : l.finished) : l.collect = ([], l) :=
  collect_of_none (by simp [Lexer.next, Lexer.nextBy, h])

lemma next_of_end (h : (afterTrivia start t).2 = []) :
    (Lexer.mk start t recorded false).next = (none, ⟨(afterTrivia start t).1, [],
      recorded.map (·.appendList (triviaFrom start t)), true⟩) := by
  simp [Lexer.next, Lexer.nextBy, h]

lemma next_of_token (h : firstToken Recognizer.order (afterTrivia start t).2 = some (k, rest)) :
    (Lexer.mk start t recorded false).next =
      (some ⟨k, (afterTrivia start t).1, (afterTrivia start t).1 + k.lexeme.length⟩,
        ⟨(afterTrivia start t).1 + k.lexeme.length, rest,
          recorded.map (·.appendList (triviaFrom start t)), false⟩) := by
  have hne : (afterTrivia start t).2 ≠ [] := by
    intro he
    have := length_lt_of_firstToken h
    simp [he] at this
  simp [Lexer.next, Lexer.nextBy, h, hne]

lemma next_of_remainder (h : firstToken Recognizer.order (afterTrivia start t).2 = none)
    (hne : (afterTrivia start t).2 ≠ []) :
    (Lexer.mk start t recorded false).next =
      (some ⟨.unrecognized (afterTrivia start t).2, (afterTrivia start t).1, start + t.length⟩,
        ⟨start + t.length, [], recorded.map (·.appendList (triviaFrom start t)), true⟩) := by
  rw [← length_afterTrivia]
  simp [Lexer.next, Lexer.nextBy, h, hne]

lemma collect_eq (start : Nat) (t : Text) (recorded : Option (Array Trivia)) :
    (Lexer.mk start t recorded false).collect = (tokensIn (pieces start t),
      ⟨start + t.length, [], recorded.map (·.appendList (triviaIn (pieces start t))), true⟩) := by
  -- On the length, since a step goes past trivia and a token at once.
  induction hn : t.length using Nat.strong_induction_on generalizing start t recorded with
  | _ n ih =>
  subst hn
  have hlen := length_afterTrivia start t
  have hnone := leadingTrivia?_afterTrivia start t
  rw [tokensIn_pieces, triviaIn_pieces]
  cases hk : firstToken Recognizer.order (afterTrivia start t).2 with
  | some found =>
    obtain ⟨k, rest⟩ := found
    have happ := congrArg List.length (append_of_firstToken hk).1
    have hlt := (length_lt_of_firstToken hk).trans_le (length_afterTrivia_le start t)
    rw [List.length_append] at happ
    rw [collect_of_some (next_of_token hk), ih rest.length hlt _ _ _ rfl, pieces_of_token hnone hk]
    have hstop : (afterTrivia start t).1 + k.lexeme.length + rest.length = start + t.length := by omega
    simp only [hstop, tokensIn_token, triviaIn_token, Option.map_map, Function.comp_def, appendList_append]
  | none =>
    by_cases hr : (afterTrivia start t).2 = []
    · have hstop : (afterTrivia start t).1 = start + t.length := by simpa [hr] using hlen
      simp [collect_of_none (next_of_end hr), hr, hstop]
    · rw [collect_of_some (next_of_remainder hk hr), collect_finished rfl, pieces_of_none hnone hk hr]
      simp [hlen]

end Lexer

lemma tokensOf_eq (t : Text) : tokensOf t = tokensIn (pieces 0 t) := by
  rw [tokensOf, Lexer.ofText, collect_eq]

lemma tokensAndTriviaOf_eq (t : Text) :
    tokensAndTriviaOf t = (tokensIn (pieces 0 t), triviaIn (pieces 0 t)) := by
  simp [tokensAndTriviaOf, Lexer.withTrivia, Lexer.ofText, collect_eq, Lexer.takeTrivia]

end GraphQLTokens.Lexing
