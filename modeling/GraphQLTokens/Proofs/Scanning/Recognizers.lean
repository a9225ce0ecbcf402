import GraphQLTokens.Cursor.Scan
import GraphQLTokens.Proofs.Grammar.Strings
import GraphQLTokens.Proofs.Grammar.Numbers

namespace GraphQLTokens.Scanning

open Grammar Scan

variable {α β : Type} {scan scan' : Scan α} {next : α → Scan β} {c c' : Cursor} {a : α} {x : Char}
  {p : Char → Bool} {m m' rest : Text} {k : TokenKind} {r : Recognizer} {n : Nat}

lemma moveBy_moveBy (c : Cursor) (n n' : Nat) : (c.moveBy n).moveBy n' = c.moveBy (n + n') := by
  simp [Cursor.moveBy, Nat.add_assoc]

lemma remaining_moveBy (h : c.remaining = m ++ rest) : (c.moveBy m.length).remaining = rest := by
  unfold Cursor.remaining at h ⊢
  rw [Cursor.moveBy, ← List.drop_drop, h, List.drop_left]

lemma remaining_moveBy_one (h : c.remaining = x :: rest) : (c.moveBy 1).remaining = rest :=
  remaining_moveBy (m := [x]) h

lemma length_le_of_remaining (h : c.remaining = m ++ rest) : m.length ≤ c.source.length - c.position := by
  have hlen := congrArg List.length h
  rw [Cursor.remaining, List.length_drop, List.length_append] at hlen
  omega

lemma position_le_of_append (h : c.remaining = m ++ rest) (hm : m ≠ []) : c.position ≤ c.source.length := by
  have hle := length_le_of_remaining h
  have hpos := List.length_pos_iff.2 hm
  omega

lemma position_moveBy_le (h : c.remaining = m ++ rest) (hm : m ≠ []) :
    (c.moveBy m.length).position ≤ (c.moveBy m.length).source.length := by
  have hle := length_le_of_remaining h
  have hpos := List.length_pos_iff.2 hm
  change c.position + m.length ≤ c.source.length
  omega

lemma sliceFrom?_moveBy (h : c.remaining = m ++ rest) (hc : c.position ≤ c.source.length) :
    (c.moveBy m.length).sliceFrom? c.position = some m := by
  have hle := length_le_of_remaining h
  have hbounds : c.position ≤ c.position + m.length ∧ c.position + m.length ≤ c.source.length := by omega
  unfold Cursor.remaining at h
  change (if c.position ≤ c.position + m.length ∧ c.position + m.length ≤ c.source.length then _ else _) = _
  rw [if_pos hbounds, Cursor.moveBy, List.drop_take, Nat.add_sub_cancel_left, h, List.take_left]

lemma peek_eq_head? (c : Cursor) : c.peek = c.remaining.head? := by
  rw [Cursor.peek, Cursor.remaining, List.head?_drop]

lemma on_bind_of_some (h : scan.on c = (some a, c')) : Scan.on (scan >>= next) c = (next a).on c' := by
  unfold Scan.on at h ⊢
  rw [OptionT.run_bind, Option.elimM, StateT.run_bind, h]
  rfl

lemma on_bind_of_none (h : scan.on c = (none, c')) : Scan.on (scan >>= next) c = (none, c') := by
  unfold Scan.on at h ⊢
  rw [OptionT.run_bind, Option.elimM, StateT.run_bind, h]
  rfl

lemma on_orElse_of_some (h : scan.on c = (some a, c')) : Scan.on (scan <|> scan') c = (some a, c') := by
  unfold Scan.on at h ⊢
  rw [OptionT.run_orElse, Option.elimM, StateT.run_bind, h]
  rfl

lemma on_orElse_of_none (h : scan.on c = (none, c')) : Scan.on (scan <|> scan') c = scan'.on c' := by
  unfold Scan.on at h ⊢
  rw [OptionT.run_orElse, Option.elimM, StateT.run_bind, h]
  rfl

lemma on_guard {q : Prop} [Decidable q] (h : q) : Scan.on (guard q) c = (some (), c) := by
  rw [guard, if_pos h]
  rfl

lemma on_guard_of_not {q : Prop} [Decidable q] (h : ¬ q) : Scan.on (guard q) c = (none, c) := by
  rw [guard, if_neg h]
  rfl

lemma on_attempt_of_some (h : scan.on c = (some a, c')) : (attempt scan).on c = (some a, c') := by
  rw [attempt, on, OptionT.run_mk, StateT.run]
  simp only [h]

lemma on_attempt_of_none (h : scan.on c = (none, c.moveBy n)) : (attempt scan).on c = (none, c) := by
  rw [attempt, on, OptionT.run_mk, StateT.run]
  simp only [h]
  rfl

lemma on_eatIf_of_cons (h : c.remaining = x :: rest) (hx : p x) :
    (eatIf p).on c = (some x, c.moveBy 1) := by
  change c.eatIf p = _
  rw [Cursor.eatIf, peek_eq_head?, h]
  exact if_pos hx

lemma on_eatIf_of_stops (h : Stops (p ·) c.remaining) : (eatIf p).on c = (none, c) := by
  change c.eatIf p = _
  rw [Cursor.eatIf, peek_eq_head?]
  cases hx : c.remaining.head? with
  | none => rfl
  | some x => exact if_neg (h x hx)

lemma on_eat_of_cons (h : c.remaining = x :: rest) : (eat x).on c = (some true, c.moveBy 1) := by
  have heat : c.eatIf (· == x) = _ := on_eatIf_of_cons h (beq_self_eq_true x)
  change (some (c.eat x).1, (c.eat x).2) = _
  rw [Cursor.eat, heat]
  rfl

lemma on_eat_of_stops (h : Stops (· = x) c.remaining) : (eat x).on c = (some false, c) := by
  have heat : c.eatIf (· == x) = _ := on_eatIf_of_stops (h.mono fun y hy => eq_of_beq hy)
  change (some (c.eat x).1, (c.eat x).2) = _
  rw [Cursor.eat, heat]
  rfl

lemma on_need_of_cons (h : c.remaining = x :: rest) (scan : Scan α) :
    Scan.on (do guard (← eat x); scan) c = scan.on (c.moveBy 1) :=
  (on_bind_of_some (on_eat_of_cons h)).trans (on_bind_of_some (on_guard rfl))

lemma on_need_of_stops (h : Stops (· = x) c.remaining) (scan : Scan α) :
    Scan.on (do guard (← eat x); scan) c = (none, c) :=
  (on_bind_of_some (on_eat_of_stops h)).trans (on_bind_of_none (on_guard_of_not Bool.false_ne_true))

lemma on_eatWhile (p : Char → Bool) (c : Cursor) : (eatWhile p).on c =
    (some (c.remaining.takeWhile p).length, c.moveBy (c.remaining.takeWhile p).length) :=
  rfl

lemma on_advanceMany (h : c.remaining = m ++ rest) :
    (advanceMany m.length).on c = (some m.length, c.moveBy m.length) := by
  change (some (c.advanceMany m.length).1, (c.advanceMany m.length).2) = _
  rw [Cursor.advanceMany, Nat.min_eq_left (length_le_of_remaining h)]

structure Skips (scan : Scan Unit) (part : Reader) : Prop where
  moves {c : Cursor} {m rest : Text} (h : part c.remaining = some (m, rest)) :
    scan.on c = (some (), c.moveBy m.length)
  fails {c : Cursor} (h : part c.remaining = none) : ∃ n, scan.on c = (none, c.moveBy n)

structure Matches (scan : Scan Unit) (part : Reader) : Prop where
  moves {c : Cursor} {m rest : Text} (h : part c.remaining = some (m, rest)) :
    scan.on c = (some (), c.moveBy m.length)
  stays {c : Cursor} (h : part c.remaining = none) : scan.on c = (none, c)

section Skips

variable {scan scan' : Scan Unit} {part part' : Reader} {q : Char → Prop}

lemma Skips.attempt (h : Skips scan part) : Matches (attempt scan) part where
  moves hm := on_attempt_of_some (h.moves hm)
  stays hnone := by
    obtain ⟨n, hn⟩ := h.fails hnone
    exact on_attempt_of_none hn

lemma Skips.cons (h : Skips scan part)
    (hc : ∀ x rest, q x → part' (x :: rest) = (part rest).map fun (m, rest) => (x :: m, rest))
    (hnext : ∀ c x rest, c.remaining = x :: rest → q x → scan'.on c = scan.on (c.moveBy 1))
    (hstop : ∀ c, Stops q c.remaining →
      part' c.remaining = part c.remaining ∧ scan'.on c = scan.on c ∨
        part' c.remaining = none ∧ scan'.on c = (none, c)) : Skips scan' part' where
  moves {c m rest} hm := by
    rcases stops_or_cons q c.remaining with hs | ⟨x, t, hx, ht⟩
    · rcases hstop c hs with ⟨hpart, hscan⟩ | ⟨hpart, -⟩
      · rw [hscan, h.moves (hpart.symm.trans hm)]
      · rw [hpart] at hm
        cases hm
    · rw [ht, hc x t hx] at hm
      obtain ⟨⟨m', after⟩, hm, he⟩ := Option.map_eq_some_iff.1 hm
      cases he
      rw [← remaining_moveBy_one ht] at hm
      rw [hnext c x t ht hx, h.moves hm, moveBy_moveBy, List.length_cons, Nat.add_comm]
  fails {c} hnone := by
    rcases stops_or_cons q c.remaining with hs | ⟨x, t, hx, ht⟩
    · rcases hstop c hs with ⟨hpart, hscan⟩ | ⟨-, hscan⟩
      · rw [hscan]
        exact h.fails (hpart.symm.trans hnone)
      · exact ⟨0, hscan⟩
    · rw [ht, hc x t hx, Option.map_eq_none_iff, ← remaining_moveBy_one ht] at hnone
      obtain ⟨n, hn⟩ := h.fails hnone
      exact ⟨1 + n, by rw [hnext c x t ht hx, hn, moveBy_moveBy]⟩

end Skips

lemma skips_magnitude : Skips magnitude magnitude? where
  moves {c m rest} h := by
    cases hc : c.remaining with
    | nil =>
      rw [hc] at h
      cases h
    | cons x t =>
      rw [hc, magnitude?] at h
      split at h
      · rename_i hx
        cases h
        exact on_bind_of_some (on_eat_of_cons (hx ▸ hc))
      · rename_i hx
        split at h
        · rename_i hdigit
          cases h
          refine (on_bind_of_some (on_eat_of_stops (by simpa [hc] using hx))).trans ?_
          refine (on_bind_of_some (on_eatIf_of_cons hc hdigit)).trans ?_
          refine (on_bind_of_some (on_eatWhile isDigit _)).trans ?_
          rw [remaining_moveBy_one hc, moveBy_moveBy, List.length_cons, Nat.add_comm]
          rfl
        · cases h
  fails {c} h := by
    have hstops : Stops (· = '0') c.remaining ∧ Stops (isNonzeroDigit ·) c.remaining := by
      cases hc : c.remaining with
      | nil => exact ⟨stops_nil, stops_nil⟩
      | cons x t =>
        rw [hc, magnitude?] at h
        split at h
        · cases h
        · split at h
          · cases h
          · exact ⟨stops_cons.2 ‹_›, stops_cons.2 ‹_›⟩
    exact ⟨0, (on_bind_of_some (on_eat_of_stops hstops.1)).trans
      (on_bind_of_none (on_eatIf_of_stops hstops.2))⟩

lemma skips_digits : Skips digits digits? where
  moves {c m rest} h := by
    rw [digits?] at h
    split at h
    · cases h
    · rename_i hne
      cases h
      refine (on_bind_of_some (on_eatWhile isDigit c)).trans (on_guard ?_)
      simpa [List.length_pos_iff] using hne
  fails {c} h := by
    rw [digits?] at h
    split at h
    · rename_i he
      refine ⟨_, (on_bind_of_some (on_eatWhile isDigit c)).trans (on_guard_of_not ?_)⟩
      simpa using he
    · cases h

lemma matches_integerPart : Matches integerPart integerPart? := by
  refine (skips_magnitude.cons (q := (· = '-')) ?_ ?_ ?_).attempt
  · rintro x rest rfl
    rfl
  · rintro c x rest hc rfl
    exact on_bind_of_some (on_eat_of_cons hc)
  · exact fun c hs => .inl ⟨integerPart?_of_stops hs, on_bind_of_some (on_eat_of_stops hs)⟩

lemma matches_fractionalPart : Matches fractionalPart fractionalPart? := by
  refine (skips_digits.cons (q := (· = '.')) ?_ ?_ ?_).attempt
  · rintro x rest rfl
    rfl
  · rintro c x rest hc rfl
    exact on_need_of_cons hc digits
  · exact fun c hs => .inr ⟨fractionalPart?_of_stops hs, on_need_of_stops hs digits⟩

lemma on_optionally (scan : Scan α) (c : Cursor) :
    (optionally scan).on c = (some (scan.on c).1.isSome, (scan.on c).2) :=
  rfl

lemma skips_signedDigits : Skips (do let _ ← optionally (eatIf isSign); digits) signedDigits? := by
  refine skips_digits.cons (q := (isSign ·)) ?_ ?_ ?_
  · intro x rest hx
    rw [signedDigits?, if_pos hx]
  · intro c x rest hc hx
    refine on_bind_of_some (a := true) ?_
    rw [on_optionally, on_eatIf_of_cons hc hx]
    rfl
  · intro c hs
    refine .inl ⟨signedDigits?_of_stops hs, on_bind_of_some (a := false) ?_⟩
    rw [on_optionally, on_eatIf_of_stops hs]
    rfl

lemma matches_exponentPart : Matches exponentPart exponentPart? := by
  refine (skips_signedDigits.cons (q := (isExponentMark ·)) ?_ ?_ ?_).attempt
  · intro x rest hx
    rw [exponentPart?, if_pos hx]
  · exact fun c x rest hc hx => on_bind_of_some (on_eatIf_of_cons hc hx)
  · intro c hs
    refine .inr ⟨exponentPart?_of_stops (hs.mono ?_), on_bind_of_none (on_eatIf_of_stops hs)⟩
    simp [isExponentMark]

lemma isEmpty_optionalPart {part : Reader} {p q : Char → Prop} {l : Language Char}
    (h : Reads part (oneOf p * l) q) (t : Text) :
    (optionalPart part t).1.isEmpty = !(part t).isSome := by
  rw [optionalPart]
  cases hm : part t with
  | none => rfl
  | some found =>
    obtain ⟨x, rest, -, -, he⟩ := mem_oneOf_mul.1 (h.mem hm)
    change found.1.isEmpty = false
    rw [he]
    rfl

lemma on_optionally_part {scan : Scan Unit} {part : Reader} {p q : Char → Prop} {l : Language Char}
    (h : Matches scan part) (hreads : Reads part (oneOf p * l) q) {t : Text} (hc : c.remaining = m ++ t) :
    (optionally scan).on (c.moveBy m.length) = (some (!(optionalPart part t).1.isEmpty),
      c.moveBy (m ++ (optionalPart part t).1).length) ∧
    c.remaining = m ++ (optionalPart part t).1 ++ (optionalPart part t).2 := by
  have happ := append_optionalPart (fun _ _ _ => hreads.append) t
  refine ⟨?_, by rw [List.append_assoc, happ, hc]⟩
  rw [isEmpty_optionalPart hreads, Bool.not_not, on_optionally, List.length_append, ← moveBy_moveBy,
    optionalPart]
  have ht := remaining_moveBy hc
  cases hm : part t with
  | none =>
    rw [h.stays (ht ▸ hm)]
    rfl
  | some found =>
    rw [h.moves (ht ▸ hm)]
    rfl

lemma on_textFrom_of_le (h : c.remaining = m ++ rest) (hc : c.position ≤ c.source.length) :
    (textFrom c.position).on (c.moveBy m.length) = (some m, c.moveBy m.length) := by
  change ((c.moveBy m.length).sliceFrom? c.position, _) = _
  rw [sliceFrom?_moveBy h hc]

lemma on_textFrom (h : c.remaining = m ++ rest) (hm : m ≠ []) :
    (textFrom c.position).on (c.moveBy m.length) = (some m, c.moveBy m.length) :=
  on_textFrom_of_le h (position_le_of_append h hm)

lemma on_position (c : Cursor) : position.on c = (some c.position, c) :=
  rfl

structure Recognizes (scan : Scan TokenKind) (read : Text → Option (TokenKind × Text)) : Prop where
  moves {c : Cursor} {k : TokenKind} {rest : Text} (h : read c.remaining = some (k, rest)) :
    scan.on c = (some k, c.moveBy k.lexeme.length)
  stays {c : Cursor} (h : read c.remaining = none) : scan.on c = (none, c)

lemma recognizes_int : Recognizes int Recognizer.int.read where
  moves {c k rest} h := by
    obtain ⟨⟨m, after⟩, hm, he⟩ := Option.map_eq_some_iff.1 h
    cases he
    obtain ⟨happ, hne⟩ := append_of_integerPart? hm
    refine (on_bind_of_some (on_position c)).trans ?_
    refine (on_bind_of_some (matches_integerPart.moves hm)).trans ?_
    exact on_bind_of_some (on_textFrom happ.symm hne)
  stays {c} h := by
    refine (on_bind_of_some (on_position c)).trans ?_
    exact on_bind_of_none (matches_integerPart.stays (Option.map_eq_none_iff.1 h))

lemma recognizes_identifier : Recognizes identifier Recognizer.identifier.read where
  moves {c k rest} h := by
    obtain ⟨⟨m, after⟩, hm, he⟩ := Option.map_eq_some_iff.1 h
    cases he
    obtain ⟨happ, hne⟩ := append_of_name? hm
    cases hc : c.remaining with
    | nil =>
      rw [hc] at hm
      cases hm
    | cons x t =>
      rw [hc, name?] at hm
      split at hm
      case isFalse => cases hm
      case isTrue hx =>
        cases hm
        refine (on_bind_of_some (on_position c)).trans ?_
        refine (on_bind_of_some (on_eatIf_of_cons hc hx)).trans ?_
        refine (on_bind_of_some (on_eatWhile isNameContinue _)).trans ?_
        rw [remaining_moveBy_one hc, moveBy_moveBy, Nat.add_comm, ← List.length_cons]
        exact on_bind_of_some (on_textFrom happ.symm hne)
  stays {c} h := by
    have hs : Stops (isNameStart ·) c.remaining := by
      have hnone := Option.map_eq_none_iff.1 h
      cases hc : c.remaining with
      | nil => exact stops_nil
      | cons x t =>
        rw [hc, name?] at hnone
        split at hnone
        · cases hnone
        · exact stops_cons.2 ‹_›
    refine (on_bind_of_some (on_position c)).trans ?_
    exact on_bind_of_none (on_eatIf_of_stops hs)

lemma on_floatParts {i t : Text} (hi : integerPart? c.remaining = some (i, t))
    (next : Nat → Bool → Bool → Scan TokenKind) :
    Scan.on (do
      let start ← position
      integerPart
      let fraction ← optionally fractionalPart
      let exponent ← optionally exponentPart
      next start fraction exponent) c =
    let f := optionalPart fractionalPart? t
    let e := optionalPart exponentPart? f.2
    (next c.position (!f.1.isEmpty) (!e.1.isEmpty)).on (c.moveBy (i ++ f.1 ++ e.1).length) := by
  have hint := (append_of_integerPart? hi).1
  obtain ⟨hfraction, hf⟩ := on_optionally_part matches_fractionalPart reads_fraction hint.symm
  obtain ⟨hexponent, -⟩ := on_optionally_part matches_exponentPart reads_exponent hf
  refine (on_bind_of_some (on_position c)).trans ?_
  refine (on_bind_of_some (matches_integerPart.moves hi)).trans ?_
  exact (on_bind_of_some hfraction).trans (on_bind_of_some hexponent)

lemma recognizes_float : Recognizes float Recognizer.float.read where
  moves {c k rest} h := by
    obtain ⟨⟨m, after⟩, hm, he⟩ := Option.map_eq_some_iff.1 h
    cases he
    obtain ⟨happ, hnil⟩ := append_of_floatLiteral? hm
    obtain ⟨i, f, e, afterInt, afterFraction, hi, hf, he, hne, rfl⟩ := parts_of_floatLiteral? hm
    refine on_attempt_of_some ((on_floatParts hi _).trans ?_)
    simp only [hf, he]
    refine (on_bind_of_some (on_guard ?_)).trans (on_bind_of_some (on_textFrom happ.symm hnil))
    simpa [← not_and_or] using hne
  stays {c} h := by
    have hnone := Option.map_eq_none_iff.1 h
    cases hi : integerPart? c.remaining with
    | none =>
      refine on_attempt_of_none (n := 0) ((on_bind_of_some (on_position c)).trans ?_)
      exact on_bind_of_none (matches_integerPart.stays hi)
    | some found =>
      refine on_attempt_of_none ((on_floatParts hi _).trans (on_bind_of_none (on_guard_of_not ?_)))
      simpa [floatLiteral?_of_int hi] using hnone

lemma punctuator?_text (p : Punctuator) (rest : Text) : punctuator? (p.text ++ rest) = some (p, rest) := by
  cases p <;> rfl

lemma on_ellipsis (h : c.remaining = Punctuator.ellipsis.text ++ rest) :
    ellipsis.on c = (some (.punctuator .ellipsis), c.moveBy 3) := by
  have hone := remaining_moveBy_one h
  have htwo := remaining_moveBy_one hone
  refine on_attempt_of_some ((on_need_of_cons h _).trans ?_)
  exact (on_need_of_cons hone _).trans (on_need_of_cons htwo _)

lemma on_ellipsis_of_not (h : ∀ rest, c.remaining ≠ Punctuator.ellipsis.text ++ rest) :
    ellipsis.on c = (none, c) := by
  rcases stops_or_cons (· = '.') c.remaining with hs | ⟨x, t, rfl, ht⟩
  · exact on_attempt_of_none (n := 0) (on_need_of_stops hs _)
  have hone := remaining_moveBy_one ht
  rcases stops_or_cons (· = '.') t with hs | ⟨x, t, rfl, rfl⟩
  · refine on_attempt_of_none (n := 1) ((on_need_of_cons ht _).trans ?_)
    exact on_need_of_stops (hone ▸ hs) _
  have htwo := remaining_moveBy_one hone
  rcases stops_or_cons (· = '.') t with hs | ⟨x, t, rfl, rfl⟩
  · refine on_attempt_of_none (n := 2) ((on_need_of_cons ht _).trans ((on_need_of_cons hone _).trans ?_))
    exact on_need_of_stops (htwo ▸ hs) _
  · exact absurd ht (h t)

lemma on_punctuator (h : c.remaining = x :: rest) : punctuator.on c =
    if x = '.' then ellipsis.on c
    else match Punctuator.all.find? (·.text == [x]) with
      | some p => (some (.punctuator p), c.moveBy 1)
      | none => (none, c) := by
  have hpeek : Scan.on (OptionT.mk fun c => (c.peek, c)) c = (some x, c) := by
    change (c.peek, c) = _
    rw [peek_eq_head?, h]
    rfl
  refine (on_bind_of_some hpeek).trans ?_
  split
  · rfl
  · cases Punctuator.all.find? (·.text == [x]) with
    | some p => exact on_bind_of_some (on_advanceMany (m := [x]) h)
    | none => rfl

lemma find?_text {p : Punctuator} (hp : p ≠ .ellipsis) :
    ∃ x, x ≠ '.' ∧ p.text = [x] ∧ Punctuator.all.find? (·.text == [x]) = some p := by
  cases p
  case ellipsis => exact absurd rfl hp
  all_goals exact ⟨_, by decide, rfl, rfl⟩

lemma recognizes_punctuator : Recognizes punctuator Recognizer.punctuator.read where
  moves {c k rest} h := by
    obtain ⟨⟨p, after⟩, hm, he⟩ := Option.map_eq_some_iff.1 h
    cases he
    have hc := (append_of_punctuator? hm).1.symm
    by_cases hp : p = .ellipsis
    · subst hp
      exact (on_punctuator hc).trans (on_ellipsis hc)
    · obtain ⟨x, hx, htext, hfind⟩ := find?_text hp
      rw [htext] at hc
      rw [on_punctuator hc, if_neg hx, hfind, TokenKind.lexeme, htext]
      rfl
  stays {c} h := by
    have hnone := Option.map_eq_none_iff.1 h
    have hnot : ∀ p : Punctuator, ∀ rest, c.remaining ≠ p.text ++ rest := by
      intro p rest hc
      rw [hc, punctuator?_text] at hnone
      cases hnone
    cases hc : c.remaining with
    | nil =>
      refine on_bind_of_none ?_
      change (c.peek, c) = _
      rw [peek_eq_head?, hc]
      rfl
    | cons x t =>
      rw [on_punctuator hc]
      split
      · exact on_ellipsis_of_not (hnot .ellipsis)
      · split
        · rename_i p hfind
          have htext : p.text = [x] := by simpa using List.find?_some hfind
          refine absurd hc ?_
          rw [← List.singleton_append, ← htext]
          exact hnot p t
        · rfl

lemma startsWith_iff (p : Text) : c.startsWith p ↔ p <+: c.remaining :=
  List.isPrefixOf_iff_prefix

lemma isAtEnd_iff : c.isAtEnd ↔ c.remaining = [] := by
  simp [Cursor.isAtEnd, Cursor.remaining]

lemma toBlockQuote_of_cons (h : c.remaining = x :: rest) (hnot : ¬ blockQuote <+: x :: rest) :
    toBlockQuote c = toBlockQuote (c.moveBy 1) := by
  have hstarts : ¬ c.startsWith Quotation.block.delimiter := by rwa [startsWith_iff, h]
  have hend : ¬ c.isAtEnd := by simp [isAtEnd_iff, h]
  rw [toBlockQuote, if_neg hstarts, if_neg hend]

lemma not_prefix_of_not {t : Text} (h : ∀ rest, x = '"' → t = '"' :: '"' :: rest → False) :
    ¬ blockQuote <+: x :: t := by
  rintro ⟨after, hafter⟩
  cases hafter
  exact h after rfl rfl

lemma toBlockQuote_of_some {before after : Text} (h : splitAtBlockQuote c.remaining = some (before, after)) :
    toBlockQuote c = (some (), c.moveBy before.length) := by
  generalize ht : c.remaining = t at h
  fun_induction splitAtBlockQuote t generalizing c before with
  | case1 => cases h
  | case2 =>
    cases h
    rw [toBlockQuote, if_pos ((startsWith_iff _).2 ⟨_, ht.symm⟩)]
    rfl
  | case3 x rest hnot ih =>
    obtain ⟨⟨b, a⟩, hb, he⟩ := Option.map_eq_some_iff.1 h
    cases he
    rw [toBlockQuote_of_cons ht (not_prefix_of_not hnot), ih (remaining_moveBy_one ht) hb, moveBy_moveBy,
      List.length_cons, Nat.add_comm]

lemma toBlockQuote_of_none (h : splitAtBlockQuote c.remaining = none) :
    ∃ n, toBlockQuote c = (none, c.moveBy n) := by
  generalize ht : c.remaining = t at h
  fun_induction splitAtBlockQuote t generalizing c with
  | case1 =>
    have hstarts : ¬ c.startsWith Quotation.block.delimiter := by
      rw [startsWith_iff, ht]
      simp [Quotation.delimiter]
    refine ⟨0, ?_⟩
    rw [toBlockQuote, if_neg hstarts, if_pos (isAtEnd_iff.2 ht)]
    rfl
  | case2 => cases h
  | case3 x rest hnot ih =>
    obtain ⟨n, hn⟩ := ih (remaining_moveBy_one ht) (Option.map_eq_none_iff.1 h)
    exact ⟨1 + n, by rw [toBlockQuote_of_cons ht (not_prefix_of_not hnot), hn, moveBy_moveBy]⟩

lemma on_startsWith (p : Text) (c : Cursor) : (startsWith p).on c = (some (c.startsWith p), c) :=
  rfl

lemma blockString?_of_prefix (t : Text) : blockString? (blockQuote ++ t) = splitAtBlockQuote t :=
  rfl

lemma recognizes_blockString : Recognizes blockString fun t =>
    (blockString? t).map fun (body, rest) => (.string .block body, rest) where
  moves {c k rest} h := by
    obtain ⟨⟨body, after⟩, hb, he⟩ := Option.map_eq_some_iff.1 h
    cases he
    have hc : c.remaining = blockQuote ++ (body ++ (blockQuote ++ rest)) := by
      rw [← append_of_blockString? hb, List.append_assoc, List.append_assoc]
      rfl
    have hbody := remaining_moveBy hc
    have hclose := remaining_moveBy hbody
    rw [hc, blockString?_of_prefix, ← hbody] at hb
    refine on_attempt_of_some ?_
    refine (on_bind_of_some (on_startsWith _ c)).trans ?_
    refine (on_bind_of_some (on_guard ((startsWith_iff _).2 ⟨_, hc.symm⟩))).trans ?_
    refine (on_bind_of_some (on_advanceMany hc)).trans ?_
    refine (on_bind_of_some (on_position _)).trans ?_
    refine (on_bind_of_some (toBlockQuote_of_some hb)).trans ?_
    refine (on_bind_of_some (on_textFrom_of_le hbody (position_moveBy_le hc (by simp)))).trans ?_
    refine (on_bind_of_some (on_advanceMany hclose)).trans ?_
    rw [moveBy_moveBy, moveBy_moveBy, ← List.length_append, ← List.length_append, ← List.append_assoc]
    rfl
  stays {c} h := by
    have hnone := Option.map_eq_none_iff.1 h
    by_cases hopen : blockQuote <+: c.remaining
    · obtain ⟨rest, hc⟩ := hopen
      rw [← hc, blockString?_of_prefix, ← remaining_moveBy hc.symm] at hnone
      obtain ⟨n, hn⟩ := toBlockQuote_of_none hnone
      rw [moveBy_moveBy] at hn
      refine on_attempt_of_none (n := blockQuote.length + n) ?_
      refine (on_bind_of_some (on_startsWith _ c)).trans ?_
      refine (on_bind_of_some (on_guard ((startsWith_iff _).2 ⟨_, hc⟩))).trans ?_
      refine (on_bind_of_some (on_advanceMany hc.symm)).trans ?_
      exact (on_bind_of_some (on_position _)).trans (on_bind_of_none hn)
    · refine on_attempt_of_none (n := 0) ((on_bind_of_some (on_startsWith _ c)).trans ?_)
      refine on_bind_of_none (on_guard_of_not ?_)
      rwa [startsWith_iff]

lemma on_singleBody {t : Text} (h : c.remaining = ['"'] ++ t) (next : Text → Scan TokenKind) :
    Scan.on (do
      guard (← eat '"')
      let start ← position
      let _ ← eatWhile isStringScalar
      next (← textFrom start)) c =
    (next (t.takeWhile isStringScalar)).on (c.moveBy (['"'] ++ t.takeWhile isStringScalar).length) := by
  have ht := remaining_moveBy h
  have hle := position_moveBy_le h (List.cons_ne_nil _ _)
  rw [← List.takeWhile_append_dropWhile (p := isStringScalar) (l := t)] at ht
  refine (on_need_of_cons h _).trans ((on_bind_of_some (on_position _)).trans ?_)
  refine (on_bind_of_some (on_eatWhile isStringScalar _)).trans ?_
  rw [remaining_moveBy_one h]
  refine (on_bind_of_some (on_textFrom_of_le ht hle)).trans ?_
  rw [moveBy_moveBy, ← List.length_append]

lemma recognizes_singleString : Recognizes singleString fun t =>
    (singleString? t).map fun (body, rest) => (.string .single body, rest) where
  moves {c k rest} h := by
    obtain ⟨⟨body, after⟩, hb, he⟩ := Option.map_eq_some_iff.1 h
    cases he
    obtain ⟨hscalars, hc⟩ := singleString?_eq_some_iff.1 hb
    rw [mem_lineBodies] at hscalars
    have htake : (body ++ (['"'] ++ rest)).takeWhile isStringScalar = body := by
      simp [List.takeWhile_append_of_pos hscalars, isStringScalar]
    have hopen : c.remaining = ['"'] ++ (body ++ (['"'] ++ rest)) := by
      rw [hc, List.append_assoc, List.append_assoc]
    rw [List.append_assoc] at hc
    have hclose := remaining_moveBy hc
    have hlength : (['"'] ++ body ++ ['"']).length = (['"'] ++ body).length + 1 := List.length_append
    refine on_attempt_of_some ((on_singleBody hopen _).trans ?_)
    rw [htake]
    refine (on_need_of_cons hclose _).trans ?_
    rw [moveBy_moveBy, ← hlength]
    rfl
  stays {c} h := by
    have hnone := Option.map_eq_none_iff.1 h
    rcases stops_or_cons (· = '"') c.remaining with hs | ⟨x, t, rfl, ht⟩
    · exact on_attempt_of_none (n := 0) (on_need_of_stops hs _)
    · have hstops : Stops (· = '"') (t.dropWhile isStringScalar) := by
        intro x hx hquote
        rw [ht, singleString?] at hnone
        split at hnone
        · cases hnone
        · rename_i hnot
          obtain ⟨after, hafter⟩ := List.head?_eq_some_iff.1 hx
          exact hnot after (hquote ▸ hafter)
      have hbody : c.remaining = ['"'] ++ t.takeWhile isStringScalar ++ t.dropWhile isStringScalar := by
        rw [List.append_assoc, List.takeWhile_append_dropWhile, ht]
        rfl
      refine on_attempt_of_none ((on_singleBody ht _).trans (on_need_of_stops ?_ _))
      rwa [remaining_moveBy hbody]

lemma recognizes_string : Recognizes (blockString <|> singleString) Recognizer.string.read where
  moves {c k rest} h := by
    simp only [Recognizer.read] at h
    split at h
    · rename_i hblock
      cases h
      exact on_orElse_of_some (recognizes_blockString.moves (Option.map_eq_some_iff.2 ⟨_, hblock, rfl⟩))
    · rename_i hblock
      refine (on_orElse_of_none (recognizes_blockString.stays (Option.map_eq_none_iff.2 hblock))).trans ?_
      exact recognizes_singleString.moves h
  stays {c} h := by
    simp only [Recognizer.read] at h
    split at h
    · cases h
    · rename_i hblock
      refine (on_orElse_of_none (recognizes_blockString.stays (Option.map_eq_none_iff.2 hblock))).trans ?_
      exact recognizes_singleString.stays h

lemma recognizes (r : Recognizer) : Recognizes r.scan r.read := by
  cases r with
  | punctuator => exact recognizes_punctuator
  | identifier => exact recognizes_identifier
  | float => exact recognizes_float
  | int => exact recognizes_int
  | string => exact recognizes_string

end GraphQLTokens.Scanning
