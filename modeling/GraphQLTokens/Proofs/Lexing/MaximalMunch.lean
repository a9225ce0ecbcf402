import GraphQLTokens.Proofs.Grammar.Chain
import GraphQLTokens.Proofs.Lexing.Pieces

namespace GraphQLTokens.Lexing

open Grammar

variable {start : Nat} {t m m' lexeme rest rest' : Text} {k k' : TokenKind} {tokens tokens' : List Token}

structure LongestTrivia (m rest : Text) : Prop where
  skips : Skips m rest
  longest : ∀ m' rest', m' ++ rest' = m ++ rest → Skips m' rest' → m'.length ≤ m.length

structure LongestToken (k : TokenKind) (lexeme rest : Text) : Prop where
  spells : Spells lexeme k
  longest : ∀ m k', m <+: lexeme ++ rest → Spells m k' → m.length ≤ lexeme.length

/-- The tokens of a text that starts at a given index. -/
inductive MaximalMunch : Nat → Text → List Token → Prop
  | finish {start : Nat} {m : Text} : LongestTrivia m [] → MaximalMunch start m []
  | token {start : Nat} {m lexeme rest : Text} {k : TokenKind} {tokens : List Token} :
      LongestTrivia m (lexeme ++ rest) → LongestToken k lexeme rest →
      MaximalMunch (start + m.length + lexeme.length) rest tokens →
      MaximalMunch start (m ++ (lexeme ++ rest))
        (⟨k, start + m.length, start + m.length + lexeme.length⟩ :: tokens)
  | remainder {start : Nat} {m rest : Text} : LongestTrivia m rest → rest ≠ [] →
      (∀ m' k, m' <+: rest → ¬ Spells m' k) →
      MaximalMunch start (m ++ rest)
        [⟨.unrecognized rest, start + m.length, start + m.length + rest.length⟩]

lemma longestTrivia_iff (h : Skips m rest) : LongestTrivia m rest ↔ leadingTrivia? rest = none := by
  constructor
  · intro hlongest
    cases hnone : leadingTrivia? rest with
    | none => rfl
    | some found =>
      obtain ⟨kind, m', rest'⟩ := found
      obtain ⟨happ, hne⟩ := append_of_leadingTrivia? hnone
      have hmore := h.append_leadingTrivia? hnone
      have hle := hlongest.longest (m ++ m') rest' (by rw [List.append_assoc, happ]) hmore
      rw [List.length_append] at hle
      have hpos := List.length_pos_iff.2 hne
      omega
  · intro hnone
    exact ⟨h, fun _ _ he h' => h.length_le h' he.symm hnone⟩

lemma LongestToken.unique {lexeme' : Text} (h : LongestToken k lexeme rest)
    (h' : LongestToken k' lexeme' rest') (he : lexeme ++ rest = lexeme' ++ rest') :
    k = k' ∧ rest = rest' := by
  have hle := h'.longest lexeme k ⟨rest, he⟩ h.spells
  have hge := h.longest lexeme' k' ⟨rest', he.symm⟩ h'.spells
  obtain ⟨rfl, rfl⟩ := List.append_inj he (Nat.le_antisymm hle hge)
  exact ⟨spells_unique h.spells h'.spells, rfl⟩

lemma longestToken_of_firstToken (h : firstToken Recognizer.order t = some (k, rest)) :
    LongestToken k k.lexeme rest where
  spells := by
    obtain ⟨r, hread, -⟩ := ordered_order.read_of_firstToken h
    exact spells_of_read hread
  longest m k' hm hk' := by
    rw [(append_of_firstToken h).1] at hm
    exact firstToken_longest h hk' hm

lemma LongestToken.firstToken_eq (h : LongestToken k lexeme rest) :
    firstToken Recognizer.order (lexeme ++ rest) = some (k, rest) := by
  cases hk : firstToken Recognizer.order (lexeme ++ rest) with
  | none => exact absurd h.spells (firstToken_none_iff.1 hk _ _ ⟨rest, rfl⟩)
  | some found =>
    obtain ⟨k', rest'⟩ := found
    obtain ⟨rfl, rfl⟩ := h.unique (longestToken_of_firstToken hk) (append_of_firstToken hk).1.symm
    rfl

lemma maximalMunch_pieces (start : Nat) (t : Text) :
    MaximalMunch start t (tokensIn (pieces start t)) := by
  induction hn : t.length using Nat.strong_induction_on generalizing start t with
  | _ n ih =>
  subst hn
  obtain ⟨m, hstart, happ, hskips⟩ := skips_afterTrivia start t
  have hnone := leadingTrivia?_afterTrivia start t
  have hle := length_afterTrivia_le start t
  rw [tokensIn_pieces, hstart]
  generalize (afterTrivia start t).2 = r at happ hskips hnone hle
  subst happ
  have hlongest := (longestTrivia_iff hskips).2 hnone
  cases hk : firstToken Recognizer.order r with
  | some found =>
    obtain ⟨k, rest⟩ := found
    have hlt := (length_lt_of_firstToken hk).trans_le hle
    rw [pieces_of_token hnone hk, tokensIn_token]
    have htoken := longestToken_of_firstToken hk
    obtain ⟨rfl, -⟩ := append_of_firstToken hk
    exact .token hlongest htoken (ih rest.length hlt _ _ rfl)
  | none =>
    by_cases hr : r = []
    · subst hr
      rw [pieces_nil, List.append_nil]
      exact .finish hlongest
    · rw [pieces_of_none hnone hk hr]
      exact .remainder hlongest hr (firstToken_none_iff.1 hk)

lemma LongestTrivia.tokensIn_pieces (h : LongestTrivia m rest) (start : Nat) :
    tokensIn (pieces start (m ++ rest)) = tokensIn (pieces (start + m.length) rest) := by
  have hnone := (longestTrivia_iff h.skips).1 h
  rw [Lexing.tokensIn_pieces, h.skips.afterTrivia_append, afterTrivia_of_none hnone]

lemma MaximalMunch.eq_pieces (h : MaximalMunch start t tokens) : tokensIn (pieces start t) = tokens := by
  induction h with
  | @finish start m hm =>
    have hpieces := hm.tokensIn_pieces start
    rw [List.append_nil] at hpieces
    rw [hpieces, pieces_nil, tokensIn_nil]
  | token hm hk _ ih =>
    have hnone := (longestTrivia_iff hm.skips).1 hm
    rw [hm.tokensIn_pieces, pieces_of_token hnone hk.firstToken_eq, tokensIn_token, hk.spells.lexeme_eq, ih]
  | remainder hm hne hno =>
    have hnone := (longestTrivia_iff hm.skips).1 hm
    rw [hm.tokensIn_pieces, pieces_of_none hnone (firstToken_none_iff.2 hno) hne]
    rfl

theorem tokensOf_eq_iff_maximalMunch (t : Text) (tokens : List Token) :
    tokensOf t = tokens ↔ MaximalMunch 0 t tokens := by
  rw [tokensOf_eq]
  constructor
  · rintro rfl
    exact maximalMunch_pieces 0 t
  · exact MaximalMunch.eq_pieces

end GraphQLTokens.Lexing
