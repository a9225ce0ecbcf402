import GraphQLTokens.Proofs.Grammar.Breaks
import GraphQLTokens.Proofs.Lexing.MaximalMunch
import GraphQLTokens.Proofs.Lexing.Tiling
import GraphQLTokens.Proofs.Source.LineEnds

namespace GraphQLTokens

def TokenKind.normalized : TokenKind → TokenKind
  | .identifier text => .identifier (Lines.normalized text)
  | .int text => .int (Lines.normalized text)
  | .float text => .float (Lines.normalized text)
  | .string quotation body => .string quotation (Lines.normalized body)
  | .punctuator p => .punctuator p
  | .unrecognized text => .unrecognized (Lines.normalized text)

namespace Lexing

open Grammar Lines

variable {start : Nat} {s t m rest before : Text} {k : TokenKind} {kind : TriviaKind} {c : Char} {x : Token}

lemma plain_delimiter (q : Quotation) : Plain q.delimiter := by
  cases q <;> simp [Quotation.delimiter, isLineTerminator]

lemma normalized_quoted (q : Quotation) (body : Text) :
    normalized (q.delimiter ++ body ++ q.delimiter) = q.delimiter ++ normalized body ++ q.delimiter := by
  have hcut : Apart body q.delimiter := by
    intro _
    cases q <;> simp [Quotation.delimiter]
  rw [List.append_assoc, normalized_plain_append (plain_delimiter q), normalized_append hcut,
    normalized_plain (plain_delimiter q), List.append_assoc]

lemma lexeme_normalized (k : TokenKind) : k.normalized.lexeme = normalized k.lexeme := by
  cases k with
  | string q body => exact (normalized_quoted q body).symm
  | punctuator p => exact (normalized_plain (plain_punctuator p)).symm
  | identifier | int | float | unrecognized => rfl

lemma plain_blockQuote : Plain blockQuote :=
  plain_delimiter .block

lemma splitAtBlockQuote_cons (h : ¬ blockQuote <+: c :: t) : splitAtBlockQuote (c :: t) =
    (splitAtBlockQuote t).map fun (before, rest) => (c :: before, rest) := by
  rw [splitAtBlockQuote]
  rintro rest rfl rfl
  exact h ⟨rest, rfl⟩

lemma splitAtBlockQuote_normalized (t : Text) : splitAtBlockQuote (normalized t) =
    (splitAtBlockQuote t).map fun (before, rest) => (normalized before, normalized rest) := by
  induction t using induction_on_pairs with
  | nil => rfl
  | pair t ih =>
    rw [normalized_pair, splitAtBlockQuote_cons (by simp), splitAtBlockQuote_cons (by simp),
      splitAtBlockQuote_cons (by simp), ih]
    cases splitAtBlockQuote t <;> rfl
  | single c t hc ih =>
    by_cases hq : blockQuote <+: c :: t
    · obtain ⟨rest, hrest⟩ := hq
      rw [← hrest, normalized_plain_append plain_blockQuote]
      rfl
    · have hq' : ¬ blockQuote <+: lineFeed c :: normalized t := by
        rwa [← normalized_single hc, prefix_normalized_iff plain_blockQuote]
      rw [normalized_single hc, splitAtBlockQuote_cons hq', splitAtBlockQuote_cons hq, ih]
      cases hsplit : splitAtBlockQuote t with
      | none => rfl
      | some found =>
        have hcut : Apart [c] found.1 := by
          refine hc.mono fun hhead => ?_
          rw [← append_of_splitAtBlockQuote hsplit, List.head?_append, hhead]
          rfl
        simp [normalized_single hcut]

lemma blockString?_of_unopened (h : ¬ blockQuote <+: t) : blockString? t = none := by
  unfold blockString?
  split
  · exact absurd ⟨_, rfl⟩ h
  · rfl

lemma blockString?_normalized (t : Text) : blockString? (normalized t) =
    (blockString? t).map fun (body, rest) => (normalized body, normalized rest) := by
  by_cases hq : blockQuote <+: t
  · obtain ⟨rest, rfl⟩ := hq
    rw [normalized_plain_append plain_blockQuote]
    exact splitAtBlockQuote_normalized rest
  · have hq' : ¬ blockQuote <+: normalized t := by
      rwa [prefix_normalized_iff plain_blockQuote]
    rw [blockString?_of_unopened hq, blockString?_of_unopened hq']
    rfl

lemma normalized_mem_blockBodies {body : Text} (h : body ∈ blockBodies) :
    normalized body ∈ blockBodies := by
  have hb := blockString?_eq_some_iff.2 ⟨h, Eq.refl (blockQuote ++ body ++ blockQuote ++ [])⟩
  have hb' := blockString?_normalized (blockQuote ++ body ++ blockQuote ++ [])
  rw [hb] at hb'
  exact (blockString?_eq_some_iff.1 hb').1

lemma Spells.normalized (h : Spells m k) : Spells (normalized m) k.normalized := by
  cases h with
  | punctuator p =>
    rw [normalized_plain (plain_punctuator p)]
    exact .punctuator p
  | identifier h =>
    rw [TokenKind.normalized, normalized_plain (allPlain_names _ h)]
    exact .identifier h
  | float h =>
    rw [TokenKind.normalized, normalized_plain (allPlain_floats _ h)]
    exact .float h
  | int h =>
    rw [TokenKind.normalized, normalized_plain (allPlain_ints _ h)]
    exact .int h
  | @single body h =>
    have hquoted : normalized (['"'] ++ body ++ ['"']) = ['"'] ++ normalized body ++ ['"'] :=
      normalized_quoted .single body
    rw [hquoted, TokenKind.normalized, normalized_plain (plain_of_lineBody h)]
    exact .single h
  | @block body h =>
    have hquoted : normalized (blockQuote ++ body ++ blockQuote) = blockQuote ++ normalized body ++ blockQuote :=
      normalized_quoted .block body
    rw [hquoted]
    exact .block (normalized_mem_blockBodies h)

lemma apart_of_spells (h : Spells m k) (rest : Text) : Apart m rest := by
  rcases h.plain_or_block with hplain | ⟨body, -, rfl⟩
  · exact apart_of_plain hplain rest
  · intro hlast
    rw [List.getLast?_append_of_ne_nil _ (List.cons_ne_nil _ _)] at hlast
    simp at hlast

lemma exists_spells_of_normalized (hm : m <+: normalized t) (h : Spells m k) :
    ∃ m' k', m' <+: t ∧ Spells m' k' ∧ normalized m' = m := by
  rcases h.plain_or_block with hplain | ⟨body, hbody, rfl⟩
  · exact ⟨m, k, (prefix_normalized_iff hplain).1 hm, h, normalized_plain hplain⟩
  · obtain ⟨after, ht⟩ := hm
    have hb := blockString?_eq_some_iff.2 ⟨hbody, ht.symm⟩
    rw [blockString?_normalized] at hb
    obtain ⟨⟨body', after'⟩, hblock, he⟩ := Option.map_eq_some_iff.1 hb
    cases he
    obtain ⟨hbody', rfl⟩ := blockString?_eq_some_iff.1 hblock
    exact ⟨_, _, ⟨after', rfl⟩, .block hbody', normalized_quoted .block body'⟩

lemma LongestToken.normalized {lexeme : Text} (h : LongestToken k lexeme rest) :
    LongestToken k.normalized (normalized lexeme) (normalized rest) where
  spells := Spells.normalized h.spells
  longest m' k' hm' hk' := by
    rw [← normalized_append (apart_of_spells h.spells rest)] at hm'
    obtain ⟨m, k, hm, hk, rfl⟩ := exists_spells_of_normalized hm' hk'
    have hle := h.longest m k hm hk
    obtain ⟨more, rfl⟩ := List.prefix_of_prefix_length_le hm (List.prefix_append lexeme rest) hle
    rw [normalized_append (apart_of_spells hk more), List.length_append]
    exact Nat.le_add_right _ _

lemma firstToken_normalized (t : Text) : firstToken Recognizer.order (normalized t) =
    (firstToken Recognizer.order t).map fun (k, rest) => (k.normalized, normalized rest) := by
  cases hk : firstToken Recognizer.order t with
  | some found =>
    have hlongest := longestToken_of_firstToken hk
    rw [← (append_of_firstToken hk).1, normalized_append (apart_of_spells hlongest.spells _)]
    exact hlongest.normalized.firstToken_eq
  | none =>
    refine firstToken_none_iff.2 fun m k hm hspells => ?_
    obtain ⟨m', k', hm', hk', -⟩ := exists_spells_of_normalized hm hspells
    exact firstToken_none_iff.1 hk m' k' hm' hk'

lemma leadingTrivia?_of_blank (h : ∃ c ∈ t.head?, isWhitespace c) : leadingTrivia? t =
    some (.whitespace, t.takeWhile isWhitespace, t.dropWhile isWhitespace) := by
  obtain ⟨c, hc, hblank⟩ := h
  obtain ⟨rest, rfl⟩ := List.head?_eq_some_iff.1 hc
  rw [leadingTrivia?_whitespace hblank, List.takeWhile_cons_of_pos hblank,
    List.dropWhile_cons_of_pos hblank]

lemma leadingTrivia?_normalized (t : Text) : leadingTrivia? (normalized t) =
    (leadingTrivia? t).map fun (kind, m, rest) => (kind, normalized m, normalized rest) := by
  by_cases hblank : ∃ c ∈ t.head?, isWhitespace c
  · have hblank' : ∃ c ∈ (normalized t).head?, isWhitespace c := by
      cases t using induction_on_pairs with
      | nil => simp at hblank
      | pair t => exact ⟨'\n', rfl, rfl⟩
      | single c t hc =>
        rw [normalized_single hc]
        have hc : isWhitespace c := by simpa using hblank
        exact ⟨lineFeed c, rfl, (apply_lineFeed (p := isWhitespace) rfl c).trans hc⟩
    rw [leadingTrivia?_of_blank hblank, leadingTrivia?_of_blank hblank', takeWhile_normalized rfl,
      dropWhile_normalized rfl]
    rfl
  · cases t with
    | nil => rfl
    | cons c t =>
      have hc : ¬ isWhitespace c := by simpa using hblank
      have hplain : ¬ isLineTerminator c := fun hl => hc (whitespace_of_lineTerminator hl)
      rw [normalized_cons_plain hplain, leadingTrivia?, leadingTrivia?, if_neg hc, if_neg hc]
      split_ifs with hcomma hhash
      · subst hcomma
        rfl
      · have hline := takeWhile_normalized (p := (!isLineTerminator ·)) rfl t
        rw [hline, dropWhile_normalized rfl]
        simp [normalized_cons_plain hplain]
      · rfl

def normalizedSpan (s : Text) (r : Span) : Span :=
  ⟨(normalized (s.take r.start)).length, (normalized (s.take r.stop)).length⟩

def normalizedToken (s : Text) (x : Token) : Token :=
  ⟨x.kind.normalized, normalizedSpan s x.span⟩

def normalizedTrivia (s : Text) (v : Trivia) : Trivia :=
  ⟨v.kind, normalizedSpan s v.span⟩

lemma normalizedSpan_append (h : Apart before m) (rest : Text) :
    normalizedSpan (before ++ (m ++ rest)) ⟨before.length, before.length + m.length⟩ =
      ⟨(normalized before).length, (normalized before).length + (normalized m).length⟩ := by
  have hstop : (before ++ (m ++ rest)).take (before.length + m.length) = before ++ m := by
    rw [← List.append_assoc, ← List.length_append, List.take_left]
  rw [normalizedSpan, List.take_left, hstop, normalized_append h, List.length_append]

lemma apart_of_leadingTrivia? (h : leadingTrivia? t = some (kind, m, rest)) : Apart m rest := by
  cases t with
  | nil => simp [leadingTrivia?] at h
  | cons c t =>
    rw [leadingTrivia?] at h
    split_ifs at h with hc hcomma hhash
    · cases h
      intro _ hhead
      exact stops_dropWhile isWhitespace t '\n' hhead rfl
    · cases h
      exact apart_of_plain (by simp [hcomma, isLineTerminator]) _
    · cases h
      refine apart_of_plain (plain_cons.2 ⟨by simp [hhash, isLineTerminator], ?_⟩) _
      intro d hd
      simpa using List.mem_takeWhile_imp hd

lemma pieces_normalized (start : Nat) (t : Text) : ∀ before, before.length = start → Apart before t →
    pieces (normalized before).length (normalized t) =
      (pieces start t).map (Piece.map (normalizedToken (before ++ t)) (normalizedTrivia (before ++ t))) := by
  -- The induction is for every text before `t`: the spans count from its start, and each piece joins it.
  fun_induction pieces start t with
  | case1 start t kind m rest h _ ih =>
    rintro before rfl hbefore
    obtain ⟨rfl, hne⟩ := append_of_leadingTrivia? h
    have hcut := apart_of_leadingTrivia? h
    have hm := hbefore.left
    have hnormal := leadingTrivia?_normalized (m ++ rest)
    rw [h] at hnormal
    have ih := ih (before ++ m) List.length_append (hcut.append_left hne before)
    rw [normalized_append hm, List.length_append, List.append_assoc] at ih
    rw [pieces_of_trivia hnormal, ih, List.map_cons, Piece.map, normalizedTrivia, normalizedSpan_append hm]
  | case2 start t h k rest hk _ stop ih =>
    rintro before rfl hbefore
    obtain ⟨rfl, hne⟩ := append_of_firstToken hk
    have hcut := apart_of_spells (longestToken_of_firstToken hk).spells rest
    have hm := hbefore.left
    have htrivia := leadingTrivia?_normalized (k.lexeme ++ rest)
    have hnormal := firstToken_normalized (k.lexeme ++ rest)
    rw [h] at htrivia
    rw [hk] at hnormal
    have ih := ih (before ++ k.lexeme) List.length_append (hcut.append_left hne before)
    rw [normalized_append hm, List.length_append, List.append_assoc] at ih
    rw [pieces_of_token htrivia hnormal, lexeme_normalized, ih, List.map_cons, Piece.map, normalizedToken,
      normalizedSpan_append hm]
  | case3 start t h hk hempty =>
    rintro before - -
    obtain rfl : t = [] := by simpa using hempty
    rw [normalized_nil, pieces_nil, List.map_nil]
  | case4 start t h hk hempty =>
    rintro before rfl hbefore
    have htrivia := leadingTrivia?_normalized t
    have hnormal := firstToken_normalized t
    rw [h] at htrivia
    rw [hk] at hnormal
    have hne : normalized t ≠ [] := fun hnil => hempty (List.isEmpty_iff.2 (eq_nil_of_normalized hnil))
    have hspan := normalizedSpan_append hbefore []
    rw [List.append_nil] at hspan
    rw [pieces_of_none htrivia hnormal hne, List.map_singleton, Piece.map, normalizedToken, hspan]
    rfl

lemma tokensOf_normalized_eq (t : Text) :
    tokensOf (normalized t) = (tokensOf t).map (normalizedToken t) := by
  have hpieces := pieces_normalized 0 t [] rfl fun h => by simp at h
  rw [List.nil_append] at hpieces
  rw [tokensOf_eq, tokensOf_eq, ← tokensIn_map, ← hpieces]
  rfl

lemma apart_of_mem (h : x ∈ tokensOf t) :
    Apart (t.take x.span.start) (t.drop x.span.start) ∧ x.span.start ≤ t.length := by
  rw [tokensOf_eq] at h
  have hmem := mem_tokensIn.1 h
  obtain ⟨hnone, -⟩ := readIn_of_mem rfl (Nat.zero_le _) hmem
  have hbounds := (tiles_pieces 0 t).bounds (List.mem_map_of_mem hmem)
  refine ⟨fun _ hhead => leadingTrivia?_eq_none_iff.1 hnone '\n' hhead (.inl rfl), ?_⟩
  rw [Nat.zero_add] at hbounds
  exact hbounds.2.1.le.trans hbounds.2.2

lemma positionAt_normalized (h : Apart (t.take start) (t.drop start)) (hle : start ≤ t.length) :
    positionAt (normalized (t.take start)).length (normalized t) = positionAt start t := by
  have hadvance := advance_normalized h .first
  rwa [← normalized_append h, List.take_append_drop, List.length_take, Nat.min_eq_left hle] at hadvance

theorem tokensOf_normalized (t : Text) : List.Forall₂ (fun x y => y.kind = x.kind.normalized ∧
      positionAt y.span.start (normalized t) = positionAt x.span.start t)
    (tokensOf t) (tokensOf (normalized t)) := by
  rw [tokensOf_normalized_eq, List.forall₂_map_right_iff, List.forall₂_same]
  intro x hx
  obtain ⟨hcut, hle⟩ := apart_of_mem hx
  exact ⟨rfl, positionAt_normalized hcut hle⟩

end Lexing

end GraphQLTokens
