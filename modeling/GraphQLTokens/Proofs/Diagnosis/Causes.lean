import GraphQLTokens.Proofs.Diagnosis.Findings
import GraphQLTokens.Proofs.Lexing.Tiling

namespace GraphQLTokens.Diagnosis

open Grammar Lexing

variable {t m u rest : Text} {r opening : Span} {c : Char} {x : Token} {touching : Option Token} {F : Finding}

inductive Explained (t : Text) (p : Nat) : Code → Span → Prop
  | blockString {q : Nat} : p = q + 2 → blockQuote <+: t.drop q →
      (∀ i, q + 3 ≤ i → ¬ blockQuote <+: t.drop i) →
      Explained t p .unterminatedBlockString ⟨q, t.length⟩
  | string {body rest : Text} : t.drop p = '"' :: body ++ rest → body ∈ lineBodies → AtLineEnd rest →
      Explained t p .unterminatedString ⟨p, p + ('"' :: body).length⟩
  | dots {m rest : Text} : t.drop p = m ++ rest → m = ['.'] ∨ m = ['.', '.'] → Stops (· = '.') rest →
      Explained t p .invalidPunctuator ⟨p, p + m.length⟩
  | minus {rest : Text} : t.drop p = '-' :: rest → Stops (isDigit ·) rest →
      Explained t p .invalidNumber ⟨p, p + 1⟩
  | character {c : Char} {rest : Text} : t.drop p = c :: rest → ¬ isWhitespace c → ¬ isNameStart c →
      ¬ isDigit c → c ∉ [',', '#', '-', '.', '"'] → (∀ mark : Punctuator, c ∉ mark.text) →
      Explained t p .unexpectedCharacter ⟨p, p + 1⟩

structure Stuck (s : Text) : Prop where
  nonempty : s ≠ []
  trivia : Stops StartsTrivia s
  token : ∀ m k, m <+: s → ¬ Spells m k

lemma stuck_of_mem (h : ⟨.unrecognized u, r⟩ ∈ tokensOf t) :
    Stuck u ∧ u = t.drop r.start ∧ r.stop = t.length := by
  rw [tokensOf_eq] at h
  have hmem := mem_tokensIn.1 h
  obtain ⟨hnone, ⟨hk, -⟩ | ⟨hk, hu, hstop⟩⟩ := readIn_of_mem rfl (Nat.zero_le _) hmem
  · exact absurd rfl (not_unrecognized_of_firstToken hk)
  · obtain rfl : u = t.drop r.start := by simpa using hu
    refine ⟨⟨?_, leadingTrivia?_eq_none_iff.1 hnone, firstToken_none_iff.1 hk⟩, rfl, hstop⟩
    have hlt : r.start < r.stop := ((tiles_pieces 0 t).bounds (List.mem_map_of_mem hmem)).2.1
    rw [← List.length_pos_iff, List.length_drop]
    exact Nat.sub_pos_of_lt (hlt.trans_eq hstop)

lemma open_of_mem (h : ⟨.string .single [], opening⟩ ∈ tokensOf t)
    (hq : t.drop opening.stop = '"' :: rest) :
    opening.stop = opening.start + 2 ∧ t.drop opening.start = blockQuote ++ rest ∧
      ∀ b a, b ++ blockQuote ++ a ≠ rest := by
  rw [tokensOf_eq] at h
  obtain ⟨-, ⟨hk, hstop⟩ | ⟨-, hk, -⟩⟩ := readIn_of_mem rfl (Nat.zero_le _) (mem_tokensIn.1 h)
  · have happ := (append_of_firstToken hk).1.symm
    rw [hq] at happ
    refine ⟨hstop, happ, ?_⟩
    rw [← splitAtBlockQuote_eq_none_iff]
    cases hsplit : splitAtBlockQuote rest with
    | none => rfl
    | some found =>
      obtain ⟨body, after⟩ := found
      have hblock : blockString? (t.drop opening.start) = some (body, after) := by
        rw [happ]
        exact hsplit
      obtain ⟨hbody, ht⟩ := blockString?_eq_some_iff.1 hblock
      have hle := firstToken_longest hk (.block hbody) ⟨after, ht.symm⟩
      simp [TokenKind.lexeme, Quotation.delimiter] at hle
  · simp at hk

lemma Stuck.dots (h : Stuck ('.' :: rest)) :
    ('.' :: rest).takeWhile (· == '.') = ['.'] ∨ ('.' :: rest).takeWhile (· == '.') = ['.', '.'] := by
  rcases rest with _ | ⟨c, _ | ⟨d, rest⟩⟩
  · exact .inl rfl
  · by_cases hc : c = '.' <;> simp [hc]
  · by_cases hc : c = '.'
    · by_cases hd : d = '.'
      · subst hc hd
        exact absurd (.punctuator .ellipsis) (h.token ['.', '.', '.'] _ ⟨rest, rfl⟩)
      · simp [hc, hd]
    · simp [hc]

lemma Stuck.minus (h : Stuck ('-' :: rest)) : Stops (isDigit ·) rest := by
  rcases stops_or_cons (isDigit ·) rest with hs | ⟨c, rest, hc, rfl⟩
  · exact hs
  · have hint : ['-', c] ∈ ints :=
      ⟨['-'], .inr ⟨'-', rfl, rfl⟩, [c], digit_mem_magnitudes hc, rfl⟩
    exact absurd (.int hint) (h.token _ _ ⟨rest, rfl⟩)

lemma Stuck.not_digit (h : Stuck (c :: rest)) : ¬ isDigit c := by
  intro hc
  have hint : [c] ∈ ints := ⟨[], .inl rfl, [c], digit_mem_magnitudes hc, rfl⟩
  exact h.token _ _ ⟨rest, rfl⟩ (.int hint)

lemma Stuck.not_nameStart (h : Stuck (c :: rest)) : ¬ isNameStart c := by
  intro hc
  have hname : [c] ∈ names := mem_oneOf_mul.2 ⟨c, [], hc, Language.nil_mem_kstar _, rfl⟩
  exact h.token _ _ ⟨rest, rfl⟩ (.identifier hname)

lemma Stuck.not_mem_text (h : Stuck (c :: rest)) (hc : c ≠ '.') (mark : Punctuator) : c ∉ mark.text := by
  intro hmem
  have htext : mark.text = [c] := by
    cases mark <;> simp_all [Punctuator.text]
  exact h.token mark.text _ ⟨rest, by rw [htext]; rfl⟩ (.punctuator mark)

lemma Stuck.line (h : Stuck ('"' :: rest)) : rest.takeWhile (!isLineTerminator ·) ∈ lineBodies := by
  refine mem_star_oneOf.2 fun c hc => ?_
  have hline : ∀ c ∈ rest.takeWhile (!isLineTerminator ·), c ≠ '\n' ∧ c ≠ '\r' := by
    intro c hc
    simpa [isLineTerminator] using List.mem_takeWhile_imp hc
  refine ⟨?_, hline c hc⟩
  rintro rfl
  obtain ⟨body, after, heq, hbody⟩ := List.eq_append_cons_of_mem hc
  have hmem : body ∈ lineBodies := by
    refine mem_star_oneOf.2 fun c hc => ⟨fun he => hbody (he ▸ hc), hline c ?_⟩
    rw [heq]
    exact List.mem_append_left _ hc
  have hpre : ['"'] ++ body ++ ['"'] <+: '"' :: rest := by
    rw [← List.takeWhile_append_dropWhile (p := (!isLineTerminator ·)) (l := rest), heq]
    exact ⟨after ++ rest.dropWhile (!isLineTerminator ·), by simp⟩
  exact h.token _ _ hpre (.single hmem)

lemma explained_blockString (hr : r.stop = t.length) (hopen : ⟨.string .single [], opening⟩ ∈ tokensOf t)
    (htouch : opening.stop = r.start) (hs : t.drop r.start = '"' :: rest) :
    Explained t r.start .unterminatedBlockString ⟨opening.start, r.stop⟩ := by
  obtain ⟨hstop, hdrop, hno⟩ := open_of_mem hopen (htouch ▸ hs)
  rw [hr]
  refine .blockString (htouch ▸ hstop) ⟨rest, hdrop.symm⟩ ?_
  -- Three quotes at a later index would have closed the block string.
  rintro i hi ⟨after, hafter⟩
  have hrest : rest = t.drop (opening.start + 3) := drop_of_append hdrop.symm
  refine hno (rest.take (i - (opening.start + 3))) after ?_
  rw [List.append_assoc, hafter, hrest]
  have hsplit : t.drop i = (t.drop (opening.start + 3)).drop (i - (opening.start + 3)) := by
    rw [List.drop_drop, Nat.add_sub_cancel' hi]
  rw [hsplit, List.take_append_drop]

lemma Stuck.explained_string (h : Stuck ('"' :: rest)) (hs : t.drop r.start = '"' :: rest) :
    Explained t r.start .unterminatedString
      ⟨r.start, r.start + (('"' :: rest).takeWhile (!isLineTerminator ·)).length⟩ := by
  have hsplit := List.takeWhile_append_dropWhile (p := (!isLineTerminator ·)) (l := rest)
  rw [← hsplit] at hs
  rw [List.takeWhile_cons_of_pos rfl]
  exact .string hs h.line (atLineEnd_dropWhile rest)

lemma Stuck.explained_dots (h : Stuck ('.' :: rest)) (hs : t.drop r.start = '.' :: rest) :
    Explained t r.start .invalidPunctuator
      ⟨r.start, r.start + (('.' :: rest).takeWhile (· == '.')).length⟩ := by
  have hsplit := List.takeWhile_append_dropWhile (p := (· == '.')) (l := '.' :: rest)
  rw [← hsplit] at hs
  refine .dots hs h.dots ?_
  exact (stops_dropWhile (· == '.') _).mono fun c hc => by simpa using hc

lemma Stuck.explained_character (h : Stuck (c :: rest)) (hs : t.drop r.start = c :: rest)
    (hc : c ∉ ['"', '.', '-']) : Explained t r.start .unexpectedCharacter ⟨r.start, r.start + 1⟩ := by
  have htrivia := stops_cons.1 h.trivia
  simp only [StartsTrivia, not_or] at htrivia
  obtain ⟨hspace, hcomma, hnumber⟩ := htrivia
  simp only [List.mem_cons, List.not_mem_nil, or_false, not_or] at hc
  obtain ⟨hquote, hdot, hminus⟩ := hc
  refine .character hs hspace h.not_nameStart h.not_digit ?_ (h.not_mem_text hdot)
  simp [hcomma, hnumber, hminus, hdot, hquote]

lemma explained_finding (h : Stuck (t.drop r.start)) (hr : r.stop = t.length)
    (htouch : ∀ x ∈ touching, x ∈ tokensOf t ∧ x.span.stop = r.start)
    (hF : Finding.ofRemainder touching (t.drop r.start) r = .ok F) : Explained t r.start F.code F.span := by
  generalize hs : t.drop r.start = s at h hF
  refine ofRemainder_cases hF ?block ?string ?dots ?minus ?character
  case block =>
    rintro opening rest rfl rfl
    obtain ⟨hmem, hstop⟩ := htouch _ rfl
    exact explained_blockString hr hmem hstop hs
  case string =>
    rintro rest rfl -
    exact h.explained_string hs
  case dots =>
    rintro rest rfl
    exact h.explained_dots hs
  case minus =>
    rintro rest rfl
    exact .minus hs h.minus
  case character =>
    intro hhead
    obtain ⟨c, rest, rfl⟩ := List.exists_cons_of_ne_nil h.nonempty
    exact h.explained_character hs (by simpa using hhead)

lemma exists_finding (hlen : t.length < indexLimit)
    (hlast : (tokensOf t).getLast? = some ⟨.unrecognized u, r⟩) :
    ∃ F, Finding.ofRemainder (touchingToken (tokensOf t) r) u r = .ok F := by
  obtain ⟨hstuck, rfl, hr⟩ := stuck_of_mem (List.mem_of_getLast? hlast)
  have hlength : t.length = r.start + (t.drop r.start).length :=
    length_of_append (List.append_nil _).symm hstuck.nonempty
  have hstop := exactSpan_stop_le hstuck.nonempty (hr.trans hlength).ge (touchingToken (tokensOf t) r)
  exact ofRemainder_of_lt (hstop.trans_lt (hr ▸ hlen))

lemma report_of_remainder (level : Level) (file : SourceFile) (log : Log) (hlen : t.length < indexLimit)
    (hlast : (tokensOf t).getLast? = some ⟨.unrecognized u, r⟩) : ∃ touching F,
      report level (tokensOf t) file log = .ok (1, log ++ [F.diagnostic level r file]) ∧
      Finding.ofRemainder touching u r = .ok F ∧ ∀ x ∈ touching, x ∈ tokensOf t ∧ x.span.stop = r.start := by
  obtain ⟨F, hF⟩ := exists_finding hlen hlast
  refine ⟨_, F, ?_, hF, fun _ hx => mem_of_touching hx⟩
  rw [report_of_last hlast, hF]
  rfl

/-- A text in memory has fewer scalars than there are indices. -/
theorem report_explained (level : Level) (t : Text) (file : SourceFile) (log : Log)
    (hlen : t.length < indexLimit) (hlast : (tokensOf t).getLast? = some ⟨.unrecognized u, r⟩) :
    ∃ d code, report level (tokensOf t) file log = .ok (1, log ++ [d]) ∧ d.code = some code ∧
      Explained t r.start code d.span := by
  obtain ⟨touching, F, hreport, hF, htouch⟩ := report_of_remainder level file log hlen hlast
  obtain ⟨hstuck, rfl, hr⟩ := stuck_of_mem (List.mem_of_getLast? hlast)
  exact ⟨_, _, hreport, rfl, explained_finding hstuck hr htouch hF⟩

theorem report_explained_block :
    (tokensOf "\"\"\"a\n".toList).getLast? = some ⟨.unrecognized ['"', 'a', '\n'], 2, 5⟩ ∧ ∃ d code,
      report .error (tokensOf "\"\"\"a\n".toList) (SourceFile.ofText [] "\"\"\"a\n".toList) [] = .ok (1, [d]) ∧
        d.code = some code ∧ Explained "\"\"\"a\n".toList 2 code d.span := by
  have hopen : firstToken Recognizer.order "\"\"\"a\n".toList =
      some (.string .single [], ['"', 'a', '\n']) := by decide
  have hlast : (tokensOf "\"\"\"a\n".toList).getLast? = some ⟨.unrecognized ['"', 'a', '\n'], 2, 5⟩ := by
    rw [tokensOf_eq, pieces_of_token (by decide) hopen,
      pieces_of_none (by decide) (by decide) (List.cons_ne_nil _ _)]
    rfl
  exact ⟨hlast, report_explained .error _ _ [] (by decide) hlast⟩

end GraphQLTokens.Diagnosis
