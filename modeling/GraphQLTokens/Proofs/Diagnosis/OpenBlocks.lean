import GraphQLTokens.Proofs.Diagnosis.Causes

/-! A block string that nothing closes is read as an empty string, and its third quote may open a string
of its own. Only where that string is not closed on its line is the block string reported. -/

namespace GraphQLTokens.Diagnosis

open Grammar Lexing

variable {t m u rest : Text} {r : Span} {x : Token} {touching : Option Token} {F : Finding} {d : Diagnostic}
  {level : Level} {file : SourceFile} {log : Log}

/-- The lexer finds three quotes where `x` starts, and no three quotes close the block string. -/
structure Opens (t : Text) (x : Token) : Prop where
  mem : x ∈ tokensOf t
  quotes : blockQuote <+: t.drop x.span.start
  unclosed : ∀ i, x.span.start + 3 ≤ i → ¬ blockQuote <+: t.drop i

def lineFrom (t : Text) (i : Nat) : Text :=
  (t.drop i).takeWhile (!isLineTerminator ·)

lemma firstToken_quote (rest : Text) :
    firstToken Recognizer.order ('"' :: rest) = Recognizer.string.read ('"' :: rest) := by
  cases hread : Recognizer.string.read ('"' :: rest) with
  | some found => exact ordered_order.firstToken_of_read hread (by simp)
  | none =>
    refine ordered_order.firstToken_eq_none_iff.2 fun r => ?_
    cases hr : r.read ('"' :: rest) with
    | none => rfl
    | some found =>
      obtain ⟨c, _, hlead, he⟩ := lead_of_read (Option.isSome_of_mem hr)
      cases he
      have hquote : leadOf '"' = .quote := by decide
      rw [hquote] at hlead
      cases r with
      | string => exact absurd (hread.symm.trans hr) (Option.some_ne_none _).symm
      | identifier | float | int | punctuator => cases hlead

lemma firstToken_open (h : ∀ b a, b ++ blockQuote ++ a ≠ rest) :
    firstToken Recognizer.order (blockQuote ++ rest) = some (.string .single [], '"' :: rest) := by
  have hblock : blockString? (blockQuote ++ rest) = none := splitAtBlockQuote_eq_none_iff.2 h
  have hsingle : singleString? (blockQuote ++ rest) = some ([], '"' :: rest) :=
    singleString?_eq_some_iff.2 ⟨mem_lineBodies.2 (by simp), rfl⟩
  rw [List.cons_append, firstToken_quote, ← List.cons_append, Recognizer.read, hblock, hsingle]
  rfl

lemma quote_mem_line (hm : m ∈ lineBodies) (after : Text) :
    '"' ∈ (m ++ '"' :: after).takeWhile (!isLineTerminator ·) := by
  have hplain : ∀ c ∈ m, (!isLineTerminator c) = true := by
    simpa using (mem_lineBodies_iff.1 hm).2
  rw [List.takeWhile_append_of_pos hplain, List.takeWhile_cons_of_pos rfl]
  simp

lemma firstToken_quote_eq_none (h : '"' ∉ rest.takeWhile (!isLineTerminator ·)) :
    firstToken Recognizer.order ('"' :: rest) = none := by
  have hblock : blockString? ('"' :: rest) = none := by
    cases hb : blockString? ('"' :: rest) with
    | none => rfl
    | some found =>
      obtain ⟨-, he⟩ := blockString?_eq_some_iff.1 hb
      cases he
      exact absurd (quote_mem_line (m := []) (mem_lineBodies.2 (by simp)) _) h
  have hsingle : singleString? ('"' :: rest) = none := by
    cases hb : singleString? ('"' :: rest) with
    | none => rfl
    | some found =>
      obtain ⟨hbody, he⟩ := singleString?_eq_some_iff.1 hb
      cases he
      exact absurd (by simpa using quote_mem_line hbody found.2) h
  rw [firstToken_quote, Recognizer.read, hblock, hsingle]
  rfl

lemma Opens.text (h : Opens t x) : t.drop x.span.start = blockQuote ++ t.drop (x.span.start + 3) ∧
    ∀ b a, b ++ blockQuote ++ a ≠ t.drop (x.span.start + 3) := by
  obtain ⟨rest, hrest⟩ := h.quotes
  obtain rfl := drop_of_append hrest
  refine ⟨hrest.symm, fun b a hclosed => ?_⟩
  have hdrop : blockQuote ++ a = t.drop (x.span.start + 3 + b.length) :=
    drop_of_append ((List.append_assoc b _ _).symm.trans hclosed)
  exact h.unclosed _ (Nat.le_add_right _ _) ⟨a, hdrop⟩

lemma Opens.token_eq (h : Opens t x) : x.kind = .string .single [] ∧ x.span.stop = x.span.start + 2 ∧
    t.drop x.span.stop = '"' :: t.drop (x.span.start + 3) := by
  obtain ⟨htext, hno⟩ := h.text
  have hmem := h.mem
  rw [tokensOf_eq] at hmem
  obtain ⟨-, hread⟩ := readIn_of_mem rfl (Nat.zero_le _) (mem_tokensIn.1 hmem)
  rw [htext, firstToken_open hno] at hread
  rcases hread with ⟨hk, hstop⟩ | ⟨hk, -⟩
  · simp only [Option.some.injEq, Prod.mk.injEq] at hk
    obtain ⟨hkind, hdrop⟩ := hk
    rw [← hkind] at hstop
    exact ⟨hkind.symm, hstop, hdrop.symm⟩
  · cases hk

lemma unclosed_of_lt {n : Nat} (h : ∀ i < t.length, n ≤ i → ¬ blockQuote <+: t.drop i) (i : Nat)
    (hi : n ≤ i) : ¬ blockQuote <+: t.drop i := by
  rcases Nat.lt_or_ge i t.length with hlt | hge
  · exact h i hlt hi
  · rw [List.drop_eq_nil_of_le hge]
    decide

lemma Opens.tokensOf_eq (h : Opens t x) (hline : '"' ∉ lineFrom t (x.span.start + 3)) : ∃ front,
    tokensOf t = front ++ [x] ++ [⟨.unrecognized (t.drop x.span.stop), x.span.stop, t.length⟩] := by
  obtain ⟨-, -, hdrop⟩ := h.token_eq
  have hmem := h.mem
  rw [Lexing.tokensOf_eq] at hmem ⊢
  obtain ⟨front, hfront⟩ := pieces_split List.drop_zero.symm (mem_tokensIn.1 hmem)
  have hlen : t.length = x.span.stop + (t.drop x.span.stop).length :=
    length_of_append (List.append_nil _).symm (hdrop ▸ List.cons_ne_nil _ _)
  have hpieces : pieces x.span.stop (t.drop x.span.stop) =
      [.token ⟨.unrecognized (t.drop x.span.stop), x.span.stop, t.length⟩] := by
    rw [hlen, hdrop]
    exact pieces_of_none rfl (firstToken_quote_eq_none hline) (List.cons_ne_nil _ _) _
  refine ⟨tokensIn front, ?_⟩
  rw [hfront, tokensIn_append, List.append_assoc]
  simp only [Piece.span, tokensIn_token, hpieces, tokensIn_nil, List.singleton_append]

lemma opening_of_code (hF : Finding.ofRemainder touching u r = .ok F)
    (h : F.code = .unterminatedBlockString) : ∃ opening rest, u = '"' :: rest ∧
      touching = some ⟨.string .single [], opening⟩ ∧ F.span = ⟨opening.start, r.stop⟩ := by
  revert h
  refine ofRemainder_cases hF ?block ?string ?dots ?minus ?character
  case block => exact fun opening rest hu htouching _ => ⟨opening, rest, hu, htouching, rfl⟩
  case string => exact fun _ _ _ (h : Code.unterminatedString = .unterminatedBlockString) => by cases h
  case dots => exact fun _ _ (h : Code.invalidPunctuator = .unterminatedBlockString) => by cases h
  case minus => exact fun _ _ (h : Code.invalidNumber = .unterminatedBlockString) => by cases h
  case character => exact fun _ (h : Code.unexpectedCharacter = .unterminatedBlockString) => by cases h

lemma remainder_of_report (h : report level (tokensOf t) file log = .ok (1, log ++ [d])) : ∃ u r touching F,
    (tokensOf t).getLast? = some ⟨.unrecognized u, r⟩ ∧ Finding.ofRemainder touching u r = .ok F ∧
      d = F.diagnostic level r file ∧ ∀ x ∈ touching, x ∈ tokensOf t ∧ x.span.stop = r.start := by
  by_cases hlast : ∃ u r, (tokensOf t).getLast? = some ⟨.unrecognized u, r⟩
  · obtain ⟨u, r, hlast⟩ := hlast
    rw [report_of_last hlast] at h
    cases hF : Finding.ofRemainder (touchingToken (tokensOf t) r) u r with
    | error =>
      rw [hF] at h
      cases h
    | ok F =>
      rw [hF] at h
      simp only [Except.map, Except.ok.injEq, Prod.mk.injEq, true_and, List.append_cancel_left_eq,
        List.cons.injEq, and_true] at h
      exact ⟨u, r, _, F, hlast, hF, h.symm, fun _ hx => mem_of_touching hx⟩
  · rw [report_of_no_remainder fun u r hur => hlast ⟨u, r, hur⟩] at h
    cases h

lemma Stuck.quote_notMem (h : Stuck ('"' :: rest)) : '"' ∉ rest.takeWhile (!isLineTerminator ·) :=
  (mem_lineBodies_iff.1 h.line).1

lemma report_concat (level : Level) (front : List Token) (hx : x.span.stop = r.start) (file : SourceFile)
    (log : Log) : report level (front ++ [x] ++ [⟨.unrecognized u, r⟩]) file log =
      (Finding.ofRemainder (some x) u r).map fun F => (1, log ++ [F.diagnostic level r file]) := by
  have hfilter : (some x).filter (·.span.stop == r.start) = some x :=
    Option.filter_some_pos (by simpa using hx)
  rw [report_of_last List.getLast?_concat, touchingToken, List.dropLast_concat, List.getLast?_concat, hfilter]

lemma ofRemainder_empty (hx : x.kind = .string .single []) :
    Finding.ofRemainder (some x) ('"' :: rest) r = .ok (.unterminatedBlockString x.span r) := by
  obtain ⟨kind, span⟩ := x
  cases hx
  rfl

theorem report_openBlock_iff (h : Opens t x) (level : Level) (file : SourceFile) (log : Log) :
    (∃ d, report level (tokensOf t) file log = .ok (1, log ++ [d]) ∧
      d.code = some .unterminatedBlockString ∧ d.span = ⟨x.span.start, t.length⟩) ↔
    '"' ∉ lineFrom t (x.span.start + 3) := by
  obtain ⟨hkind, hstop, hdrop⟩ := h.token_eq
  constructor
  · rintro ⟨d, hreport, hcode, hspan⟩
    obtain ⟨u, r, touching, F, hlast, hF, rfl, htouch⟩ := remainder_of_report hreport
    obtain ⟨hstuck, rfl, -⟩ := stuck_of_mem (List.mem_of_getLast? hlast)
    obtain ⟨opening, rest, hrest, rfl, hopening⟩ := opening_of_code hF (Option.some_inj.1 hcode)
    obtain ⟨hmem, hr⟩ := htouch _ rfl
    have hstart : opening.start = x.span.start := congrArg (·.start) (hopening.symm.trans hspan)
    -- Both tokens are empty strings, so that the remainder starts at the third quote.
    have hplace : r.start = x.span.stop := by
      rw [← hr, hstop, ← hstart]
      exact (open_of_mem hmem (hr ▸ hrest)).1
    rw [hplace, hdrop] at hstuck
    exact hstuck.quote_notMem
  · intro hline
    obtain ⟨front, htokens⟩ := h.tokensOf_eq hline
    rw [htokens, report_concat level front rfl file log, hdrop, ofRemainder_empty hkind]
    exact ⟨_, rfl, rfl, rfl⟩

theorem report_openBlock_iff_line : Opens "\"\"\"a\n".toList ⟨.string .single [], 0, 2⟩ ∧
    ((∃ d, report .error (tokensOf "\"\"\"a\n".toList) (SourceFile.ofText [] "\"\"\"a\n".toList) [] =
        .ok (1, [d]) ∧ d.code = some .unterminatedBlockString ∧ d.span = ⟨0, 5⟩) ↔
      '"' ∉ lineFrom "\"\"\"a\n".toList 3) := by
  have hopen : firstToken Recognizer.order "\"\"\"a\n".toList =
      some (.string .single [], ['"', 'a', '\n']) := by decide
  have hmem : ⟨.string .single [], 0, 2⟩ ∈ tokensOf "\"\"\"a\n".toList := by
    rw [Lexing.tokensOf_eq, pieces_of_token (by decide) hopen]
    exact .head _
  have hopens : Opens "\"\"\"a\n".toList ⟨.string .single [], 0, 2⟩ :=
    ⟨hmem, ⟨['a', '\n'], rfl⟩, unclosed_of_lt (by decide)⟩
  exact ⟨hopens, report_openBlock_iff hopens .error _ []⟩

theorem report_openBlock_silent : Opens "\"\"\"abc\"".toList ⟨.string .single [], 0, 2⟩ ∧
    ∀ level file log, report level (tokensOf "\"\"\"abc\"".toList) file log = .ok (0, log) := by
  have hopen : firstToken Recognizer.order "\"\"\"abc\"".toList =
      some (.string .single [], ['"', 'a', 'b', 'c', '"']) := by decide
  have hclosed : firstToken Recognizer.order ['"', 'a', 'b', 'c', '"'] =
      some (.string .single ['a', 'b', 'c'], []) := by decide
  have htokens : tokensOf "\"\"\"abc\"".toList =
      [⟨.string .single [], 0, 2⟩, ⟨.string .single ['a', 'b', 'c'], 2, 7⟩] := by
    rw [Lexing.tokensOf_eq, pieces_of_token (by decide) hopen, pieces_of_token (by decide) hclosed,
      pieces_nil]
    rfl
  refine ⟨⟨?_, ⟨['a', 'b', 'c', '"'], rfl⟩, unclosed_of_lt (by decide)⟩, fun level file log => ?_⟩
  · rw [htokens]
    exact .head _
  · rw [htokens]
    rfl

end GraphQLTokens.Diagnosis
