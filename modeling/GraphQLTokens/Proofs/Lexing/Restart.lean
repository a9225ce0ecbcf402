import GraphQLTokens.Proofs.Lexing.Tiling

namespace GraphQLTokens

def Token.shift (x : Token) (offset : Nat) : Token :=
  ⟨x.kind, x.span.shift offset⟩

def Trivia.shift (v : Trivia) (offset : Nat) : Trivia :=
  ⟨v.kind, v.span.shift offset⟩

namespace Lexing

open scoped List

def Piece.shift (p : Piece) (offset : Nat) : Piece :=
  p.map (·.shift offset) (·.shift offset)

def piecesOf (t : Text) : List Piece :=
  let (tokens, trivia) := tokensAndTriviaOf t
  (tokens.map Piece.token ++ trivia.map Piece.trivia).mergeSort (·.span.start ≤ ·.span.start)

def boundary (t : Text) (k : Nat) : Nat :=
  endFrom 0 ((piecesOf t).take k)

lemma piecesOf_eq (t : Text) : piecesOf t = pieces 0 t := by
  have hascend := (tiles_pieces 0 t).ascending
  rw [List.pairwise_map] at hascend
  have hperm := perm_map_pieces (pieces 0 t) id
  rw [List.map_id] at hperm
  rw [piecesOf, tokensAndTriviaOf_eq]
  exact mergeSort_eq_of_perm hperm hascend

lemma pieces_shift (start offset : Nat) (t : Text) :
    pieces (start + offset) t = (pieces start t).map (·.shift offset) := by
  fun_induction pieces start t with
  | case1 start t kind m rest h _ ih =>
    rw [pieces_of_trivia h, List.map_cons, ← ih, Nat.add_right_comm start]
    rfl
  | case2 start t h k rest hk _ stop ih =>
    rw [pieces_of_token h hk, List.map_cons, ← ih, Nat.add_right_comm start]
    rfl
  | case3 start t h hk hempty =>
    obtain rfl : t = [] := by simpa using hempty
    simp
  | case4 start t h hk hempty =>
    rw [pieces_of_none h hk (by simpa using hempty), Nat.add_right_comm start]
    rfl

lemma tokensIn_shift (start offset : Nat) (t : Text) :
    (tokensIn (pieces start t)).map (·.shift offset) = tokensIn (pieces (start + offset) t) := by
  rw [pieces_shift]
  exact (tokensIn_map _ _ _).symm

lemma piecesOf_drop (t : Text) (k : Nat) : (piecesOf t).drop k =
    (piecesOf (t.drop (boundary t k))).map (·.shift (boundary t k)) := by
  have hsplit := (List.take_append_drop k (piecesOf t)).symm
  rw [piecesOf_eq (t.drop _), ← pieces_shift, Nat.zero_add]
  exact pieces_after ((piecesOf_eq t).symm.trans hsplit)

/-- Past the first `k` pieces of a document come the pieces of the rest of it, moved by where it starts.
So the next piece is the same, up to its place, after whatever text the rest follows. -/
theorem piecesOf_restart (t : Text) (k : Nat) :
    (piecesOf t).drop k = (piecesOf (t.drop (boundary t k))).map (·.shift (boundary t k)) ∧
      ∀ t' k', t'.drop (boundary t' k') = t.drop (boundary t k) → ∃ next : Option Piece,
        (piecesOf t)[k]? = next.map (·.shift (boundary t k)) ∧
          (piecesOf t')[k']? = next.map (·.shift (boundary t' k')) := by
  have hnext : ∀ t k, (piecesOf t)[k]? =
      (piecesOf (t.drop (boundary t k))).head?.map (·.shift (boundary t k)) := by
    intro t k
    rw [← List.head?_map, ← piecesOf_drop, List.head?_drop]
  refine ⟨piecesOf_drop t k, fun t' k' hrest => ?_⟩
  exact ⟨(piecesOf (t.drop (boundary t k))).head?, hnext t k, hrest ▸ hnext t' k'⟩

end Lexing

end GraphQLTokens
