import GraphQLTokens.Proofs.Grammar.Breaks
import GraphQLTokens.Proofs.Lexing.Printing
import GraphQLTokens.Proofs.Lexing.Restart

namespace GraphQLTokens.Lexing

open Grammar Lines

variable {start : Nat} {s t m m' lexeme rest rest' body after b : Text} {k : TokenKind} {c : Char}
  {tokens tokens' : List Token}

lemma prefix_or_mem (h : m <+: t ++ c :: b) : m <+: t ∨ c ∈ m := by
  rcases Nat.lt_or_ge t.length m.length with hlt | hle
  · have hpre : t ++ [c] <+: m := by
      refine List.prefix_of_prefix_length_le ⟨b, List.append_cons .. |>.symm⟩ h ?_
      rwa [List.length_append]
    exact .inr (hpre.subset (by simp))
  · exact .inl (List.prefix_of_prefix_length_le h (List.prefix_append t _) hle)

lemma string_of_block (h : Spells lexeme k) (hb : blockString? (lexeme ++ rest) = some (body, after)) :
    lexeme = blockQuote ++ body ++ blockQuote ∨ k = .string .single [] ∧ rest.head? = some '"' := by
  obtain ⟨r, hr⟩ := spells_iff.1 ⟨k, h⟩
  have hread : (r.read (lexeme ++ rest)).isSome := isSome_of_mem hr ⟨rest, rfl⟩
  have hstring : (Recognizer.string.read (lexeme ++ rest)).isSome := by simp [Recognizer.read, hb]
  obtain rfl : r = .string := by
    rcases eq_or_number_of_read hread hstring with he | ⟨-, he⟩ | ⟨-, he⟩
    · exact he
    · cases he
    · cases he
  rcases hr with ⟨line, hline, rfl⟩ | ⟨block, hblock, rfl⟩
  · obtain ⟨rfl, rfl⟩ := block_of_single hline hb
    exact .inr ⟨spells_unique h (.single hline), rfl⟩
  · have hown := blockString?_eq_some_iff.2 ⟨hblock, Eq.refl (blockQuote ++ block ++ blockQuote ++ rest)⟩
    rw [hb] at hown
    cases hown
    exact .inl rfl

lemma LongestToken.append_break (h : LongestToken k lexeme rest) (hc : isLineTerminator c)
    (hopen : k = .string .single [] → rest.head? ≠ some '"') (b : Text) :
    LongestToken k lexeme (rest ++ c :: b) where
  spells := h.spells
  longest m k' hm hk' := by
    have hwhole := hm
    rw [← List.append_assoc] at hm
    rcases prefix_or_mem hm with hm | hmem
    · exact h.longest m k' hm hk'
    -- A longer token would go over the end of the line, so it would be a block string.
    · rcases hk'.plain_or_block with hplain | ⟨body, hbody, rfl⟩
      · exact absurd hc (hplain c hmem)
      · obtain ⟨after, hafter⟩ := hwhole
        have hb := blockString?_eq_some_iff.2 ⟨hbody, hafter.symm⟩
        rcases string_of_block h.spells hb with rfl | ⟨hk, hhead⟩
        · exact Nat.le_refl _
        · rcases rest with _ | ⟨d, rest⟩
          · obtain rfl : c = '"' := by simpa using hhead
            exact absurd hc (by decide)
          · exact absurd hhead (hopen hk)

lemma Skips.congr (h : Skips m rest) (hend : AtLineEnd rest → AtLineEnd rest') : Skips m rest' := by
  induction h with
  | nil => exact .nil _
  | whitespace hc _ ih => exact .whitespace hc (ih hend)
  | comma _ ih => exact .comma (ih hend)
  | @comment body m rest hbody hline _ ih =>
    refine .comment hbody ?_ (ih hend)
    cases m with
    | nil => exact hend hline
    | cons c m => exact hline

lemma LongestTrivia.append (h : LongestTrivia m rest) (hne : rest ≠ []) (b : Text) :
    LongestTrivia m (rest ++ b) := by
  obtain ⟨c, rest, rfl⟩ := List.exists_cons_of_ne_nil hne
  have hskips : Skips m (c :: rest ++ b) := h.skips.congr id
  rw [longestTrivia_iff hskips, leadingTrivia?_eq_none_iff, List.cons_append, stops_cons]
  rw [longestTrivia_iff h.skips, leadingTrivia?_eq_none_iff, stops_cons] at h
  exact h

lemma MaximalMunch.skip (hm : Skips m t) (h : MaximalMunch (start + m.length) t tokens) :
    MaximalMunch start (m ++ t) tokens := by
  rw [← h.eq_pieces, ← tokensIn_pieces_skips hm]
  exact maximalMunch_pieces start _

lemma skips_break (h : Skips m []) (hc : isLineTerminator c) (b : Text) : Skips (m ++ [c]) b := by
  apply Skips.append
  · exact h.congr fun _ => by simpa [AtLineEnd] using hc
  · exact skips_of_whitespace (by simpa using whitespace_of_lineTerminator hc)

/-- What the tokens of `s` promise to the text after it: nothing of `s` is left over, and no block string
that starts in `s` can be closed there. -/
structure Settled (s : Text) (x : Token) : Prop where
  recognized : ¬ x.kind.isUnrecognized
  closed : x.kind = .string .single [] → s[x.span.stop]? ≠ some '"'

lemma MaximalMunch.append_break (h : MaximalMunch start t tokens) (ht : s.drop start = t)
    (hs : ∀ x ∈ tokens, Settled s x) (hc : isLineTerminator c)
    (h' : MaximalMunch (start + t.length + 1) b tokens') :
    MaximalMunch start (t ++ c :: b) (tokens ++ tokens') := by
  induction h with
  | @finish start m hm =>
    rw [List.append_cons]
    refine MaximalMunch.skip (skips_break hm.skips hc b) ?_
    rwa [List.length_append, ← Nat.add_assoc]
  | @token start m lexeme rest k tokens hm hk _ ih =>
    have hrest : rest = s.drop (start + (m ++ lexeme).length) :=
      drop_of_append ((List.append_assoc ..).trans ht.symm)
    rw [List.length_append, ← Nat.add_assoc] at hrest
    have hopen : k = .string .single [] → rest.head? ≠ some '"' := by
      have hclosed := (hs _ (.head _)).closed
      rwa [← List.head?_drop, ← hrest] at hclosed
    have hne : lexeme ++ rest ≠ [] :=
      List.ne_nil_of_length_pos (Nat.zero_lt_of_lt (length_lt_of_firstToken hk.firstToken_eq))
    have hm' := hm.append hne (c :: b)
    simp only [List.append_assoc] at hm' ⊢
    refine .token hm' (hk.append_break hc hopen b) (ih hrest.symm (fun x hx => hs x (.tail _ hx)) ?_)
    simpa [Nat.add_assoc] using h'
  | remainder =>
    exact absurd rfl (hs _ (.head _)).recognized

theorem tokensOf_append_line (s b : Text) (hs : ∀ x ∈ tokensOf s, Settled s x) :
    tokensOf (s ++ '\n' :: b) = tokensOf s ++ (tokensOf b).map (·.shift (s.length + 1)) := by
  rw [tokensOf_eq] at hs
  have hbreak : isLineTerminator '\n' := rfl
  have hafter : MaximalMunch (0 + s.length + 1) b ((tokensOf b).map (·.shift (s.length + 1))) := by
    rw [tokensOf_eq, tokensIn_shift, Nat.add_assoc]
    exact maximalMunch_pieces _ b
  have hjoined := (maximalMunch_pieces 0 s).append_break List.drop_zero hs hbreak hafter
  rw [tokensOf_eq, hjoined.eq_pieces, tokensOf_eq s]

theorem tokensOf_append_line_open :
    (∀ x ∈ tokensOf "\"\"1e#".toList, Settled "\"\"1e#".toList x) ∧
      tokensOf "\"\"1e#\n\"\"\"".toList =
        tokensOf "\"\"1e#".toList ++ (tokensOf "\"\"\"".toList).map (·.shift 6) := by
  have hstring : firstToken Recognizer.order "\"\"1e#".toList = some (.string .single [], ['1', 'e', '#']) := by
    decide
  have hint : firstToken Recognizer.order ['1', 'e', '#'] = some (.int ['1'], ['e', '#']) := by decide
  have hname : firstToken Recognizer.order ['e', '#'] = some (.identifier ['e'], ['#']) := by decide
  have hcomment : leadingTrivia? ['#'] = some (.comment, ['#'], []) := by decide
  have htokens : tokensOf "\"\"1e#".toList =
      [⟨.string .single [], 0, 2⟩, ⟨.int ['1'], 2, 3⟩, ⟨.identifier ['e'], 3, 4⟩] := by
    rw [tokensOf_eq, pieces_of_token (by decide) hstring, pieces_of_token (by decide) hint,
      pieces_of_token (by decide) hname, pieces_of_trivia hcomment, pieces_nil]
    rfl
  have hs : ∀ x ∈ tokensOf "\"\"1e#".toList, Settled "\"\"1e#".toList x := by
    rw [htokens]
    intro x hx
    constructor
    · revert x
      decide
    · revert x
      decide
  exact ⟨hs, tokensOf_append_line "\"\"1e#".toList "\"\"\"".toList hs⟩

end GraphQLTokens.Lexing
