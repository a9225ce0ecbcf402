import GraphQLTokens.Proofs.Lexing.MaximalMunch

namespace GraphQLTokens.Lexing

open Grammar
open scoped Computability List

variable {start : Nat} {t m rest sep body : Text} {k : TokenKind} {c : Char}

def Printable : TokenKind → Prop
  | .identifier text => text ∈ names
  | .int text => text ∈ ints
  | .float text => text ∈ floats
  | .string .single body => ∀ c ∈ body, c ≠ '"' ∧ c ≠ '\n' ∧ c ≠ '\r'
  | .string .block body => ¬ blockQuote <:+: body ∧ body.getLast? ≠ some '"'
  | .punctuator _ => True
  | .unrecognized _ => False

def IsRemainder (k : TokenKind) : Prop :=
  ∃ u, k = .unrecognized u ∧ (tokensOf u).map (·.kind) = [.unrecognized u]

def printed : List TokenKind → List Text → Text
  | [], _ => []
  | k :: kinds, seps => k.lexeme ++ (seps.headD [] ++ printed kinds seps.tail)

def placed : Nat → List TokenKind → List Text → List Token
  | _, [], _ => []
  | start, k :: kinds, seps =>
    let stop := start + k.lexeme.length
    ⟨k, start, stop⟩ :: placed (stop + (seps.headD []).length) kinds seps.tail

lemma mem_blockBodies (hq : ¬ blockQuote <:+: body) (hlast : body.getLast? ≠ some '"') :
    body ∈ blockBodies := by
  intro before after he
  by_contra hlt
  obtain ⟨mid, rfl⟩ : before <+: body := by
    have hbody := List.prefix_append body blockQuote
    refine List.prefix_of_prefix_length_le ⟨blockQuote ++ after, ?_⟩ hbody (by omega)
    rw [← List.append_assoc, he]
  rw [List.append_assoc, List.append_assoc, List.append_cancel_left_eq] at he
  rcases mid with _ | ⟨a, _ | ⟨b, _ | ⟨c, mid⟩⟩⟩
  · simp at hlt
  · simp at he
    simp [← he.1] at hlast
  · simp at he
    simp [← he.2.1] at hlast
  · simp at he
    obtain ⟨rfl, rfl, rfl, -⟩ := he
    exact hq ⟨before, mid, by simp⟩

lemma Printable.spells (h : Printable k) : Spells k.lexeme k := by
  cases k with
  | identifier text => exact .identifier h
  | int text => exact .int h
  | float text => exact .float h
  | string q body =>
    cases q with
    | block => exact .block (mem_blockBodies h.1 h.2)
    | single => exact .single (mem_star_oneOf.2 h)
  | punctuator p => exact .punctuator p
  | unrecognized text => exact h.elim

lemma skips_separator (h : sep ∈ separators) (rest : Text) : Skips sep rest := by
  rw [separators, Language.mem_kstar] at h
  obtain ⟨parts, rfl, hparts⟩ := h
  induction parts with
  | nil => exact .nil rest
  | cons part parts ih =>
    have ih := ih fun y hy => hparts y (by simp [hy])
    rcases hparts part (by simp) with (⟨c, hc, rfl⟩ | ⟨c, rfl, rfl⟩) | hcomment
    · exact .whitespace hc ih
    · exact .comma ih
    · obtain ⟨_, _, rfl, hline, rfl⟩ := mem_oneOf_mul.1 hcomment
      obtain ⟨body, hbody, _, ⟨c, hc, rfl⟩, rfl⟩ := Language.mem_mul.1 hline
      have hend : AtLineEnd (c :: parts.flatten ++ rest) := by simpa [AtLineEnd] using hc
      have hbreak := Skips.whitespace (whitespace_of_lineTerminator hc) ih
      have hskips := Skips.comment (mem_star_oneOf.1 hbody) hend hbreak
      simpa using hskips

lemma comment_mem_separators (hbody : ∀ c ∈ body, ¬ isLineTerminator c) (hc : isLineTerminator c) :
    '#' :: (body ++ [c]) ∈ separators := by
  refine ⟨['#' :: (body ++ [c])], by simp, ?_⟩
  intro part hpart
  rw [List.mem_singleton.1 hpart]
  refine .inr (mem_oneOf_mul.2 ⟨'#', _, rfl, ?_, rfl⟩)
  exact Language.append_mem_mul (mem_star_oneOf.2 hbody) ⟨c, hc, rfl⟩

lemma not_extends_of_startsTrivia (h : StartsTrivia c) : ¬ Extends c := by
  rintro (hn | rfl | rfl)
  · exact not_nameContinue_of_startsTrivia h hn
  · exact absurd h (by decide)
  · exact absurd h (by decide)

lemma stops_extends_of_separator (h : sep ∈ separators) (hne : sep ≠ []) : Stops Extends (sep ++ rest) := by
  obtain ⟨c, sep, hc, rfl⟩ := (skips_separator h rest).head hne
  exact stops_cons.2 (not_extends_of_startsTrivia hc)

lemma leadingTrivia?_of_spells (h : Spells m k) (rest : Text) : leadingTrivia? (m ++ rest) = none := by
  obtain ⟨r, hr⟩ := spells_iff.1 ⟨k, h⟩
  exact leadingTrivia?_eq_none_iff.2 (stops_startsTrivia hr)

lemma pieces_of_spells (h : Spells m k) (hs : Stops Extends rest) (start : Nat) :
    pieces start (m ++ rest) = .token ⟨k, start, start + m.length⟩ :: pieces (start + m.length) rest := by
  rw [pieces_of_token (leadingTrivia?_of_spells h rest) (firstToken_of_spells h hs), h.lexeme_eq]

lemma tokensIn_pieces_skips (h : Skips m rest) (start : Nat) :
    tokensIn (pieces start (m ++ rest)) = tokensIn (pieces (start + m.length) rest) := by
  rw [tokensIn_pieces, h.afterTrivia_append, ← tokensIn_pieces]

lemma IsRemainder.pieces_eq (h : IsRemainder k) (start : Nat) :
    pieces start k.lexeme = [.token ⟨k, start, start + k.lexeme.length⟩] := by
  obtain ⟨u, rfl, hu⟩ := h
  have hnone := leadingTrivia?_afterTrivia 0 u
  rw [tokensOf_eq, tokensIn_pieces] at hu
  generalize (afterTrivia 0 u).2 = r at hnone hu
  cases hk : firstToken Recognizer.order r with
  | some found =>
    obtain ⟨k, rest⟩ := found
    rw [pieces_of_token hnone hk] at hu
    obtain ⟨rfl, -⟩ := List.cons.inj hu
    exact absurd rfl (not_unrecognized_of_firstToken hk)
  | none =>
    by_cases hr : r = []
    · simp [hr] at hu
    · rw [pieces_of_none hnone hk hr] at hu
      obtain rfl : r = u := by simpa using hu
      rw [TokenKind.lexeme, pieces_of_none hnone hk hr]

lemma tokensIn_printed (start : Nat) (kinds : List TokenKind) (seps : List Text)
    (hlen : seps.length = kinds.length - 1) (hseps : ∀ sep ∈ seps, sep ∈ separators ∧ sep ≠ [])
    (hkinds : ∀ k ∈ kinds.dropLast, Printable k)
    (hlast : ∀ k ∈ kinds.getLast?, Printable k ∨ IsRemainder k) :
    tokensIn (pieces start (printed kinds seps)) = placed start kinds seps := by
  induction kinds generalizing start seps with
  | nil => simp [printed, placed]
  | cons k kinds ih =>
    cases kinds with
    | nil =>
      obtain rfl := List.eq_nil_of_length_eq_zero hlen
      have hpieces : pieces start (k.lexeme ++ []) = [.token ⟨k, start, start + k.lexeme.length⟩] := by
        rcases hlast k rfl with hk | hk
        · rw [pieces_of_spells hk.spells stops_nil, pieces_nil]
        · rw [List.append_nil, hk.pieces_eq]
      rw [printed, printed, List.headD_nil, List.nil_append, hpieces]
      rfl
    | cons k' kinds =>
      cases seps with
      | nil => simp at hlen
      | cons sep seps =>
        obtain ⟨hsep, hne⟩ := hseps sep (by simp)
        have hk := hkinds k (by simp)
        have ih := ih (start + k.lexeme.length + sep.length) seps (by simpa using hlen)
          (fun s hs => hseps s (by simp [hs])) (fun k hk => hkinds k (by simp [hk])) hlast
        rw [printed, placed, List.headD_cons, List.tail_cons,
          pieces_of_spells hk.spells (stops_extends_of_separator hsep hne), tokensIn_token,
          tokensIn_pieces_skips (skips_separator hsep _), ih]

theorem tokensOf_printed (kinds : List TokenKind) (seps : List Text)
    (hlen : seps.length = kinds.length - 1) (hseps : ∀ sep ∈ seps, sep ∈ separators ∧ sep ≠ [])
    (hkinds : ∀ k ∈ kinds.dropLast, Printable k)
    (hlast : ∀ k ∈ kinds.getLast?, Printable k ∨ IsRemainder k) :
    tokensOf (printed kinds seps) = placed 0 kinds seps := by
  rw [tokensOf_eq]
  exact tokensIn_printed 0 kinds seps hlen hseps hkinds hlast

theorem tokensOf_printed_strings :
    tokensOf "\"\"#\n\"\"\"\"a\"\"\"#,\n-0#e\n-.".toList =
      [⟨.string .single [], 0, 2⟩, ⟨.string .block ['"', 'a'], 4, 12⟩, ⟨.int ['-', '0'], 15, 17⟩,
        ⟨.unrecognized ['-', '.'], 20, 22⟩] := by
  have hint : ['-', '0'] ∈ ints :=
    ⟨['-'], .inr ⟨'-', rfl, rfl⟩, ['0'], .inl ⟨'0', rfl, rfl⟩, rfl⟩
  have hrem : IsRemainder (.unrecognized ['-', '.']) := by
    refine ⟨_, rfl, ?_⟩
    rw [tokensOf_eq, pieces_of_none (by decide) (by decide) (List.cons_ne_nil _ _)]
    rfl
  refine tokensOf_printed
    [.string .single [], .string .block ['"', 'a'], .int ['-', '0'], .unrecognized ['-', '.']]
    [['#', '\n'], ['#', ',', '\n'], ['#', 'e', '\n']] rfl ?_ ?_ ?_
  · have hline : ∀ body ∈ [[], [','], ['e']], ∀ c ∈ body, ¬ isLineTerminator c := by
      simp [isLineTerminator]
    intro sep hsep
    rcases List.mem_cons.1 hsep with rfl | hsep
    · exact ⟨comment_mem_separators (hline [] (by simp)) rfl, List.cons_ne_nil _ _⟩
    · rcases List.mem_pair.1 hsep with rfl | rfl
      · exact ⟨comment_mem_separators (hline [','] (by simp)) rfl, List.cons_ne_nil _ _⟩
      · exact ⟨comment_mem_separators (hline ['e'] (by simp)) rfl, List.cons_ne_nil _ _⟩
  · simp only [List.dropLast_cons_cons, List.dropLast_singleton, List.forall_mem_cons]
    refine ⟨by simp [Printable], ⟨by decide, by decide⟩, hint, by simp⟩
  · rintro k ⟨⟩
    exact .inr hrem

end GraphQLTokens.Lexing
