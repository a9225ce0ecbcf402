import GraphQLTokens.Lexer.Number
import GraphQLTokens.Proofs.Grammar.Reading
import GraphQLTokens.Proofs.Grammar.Scalars

namespace GraphQLTokens.Grammar

open scoped Computability

variable {t m rest : Text} {c : Char}

lemma reads_digits : Reads digits? digits (isDigit ·) := by
  apply reads_run
  · intro c rest hc
    simp [digits?, hc]
  · intro t hs
    cases t with
    | nil => rfl
    | cons c t => simp [digits?, stops_cons.1 hs]

lemma magnitude?_cons (hc : isNonzeroDigit c) :
    magnitude? (c :: t) = some (c :: t.takeWhile isDigit, t.dropWhile isDigit) := by
  simp [magnitude?, (nonzeroDigit_iff.1 hc).2, hc]

lemma reads_magnitude : Reads magnitude? magnitudes (isDigit ·) where
  append h := (append_of_magnitude? h).1
  mem {t m rest} h := by
    cases t with
    | nil => simp [magnitude?] at h
    | cons c t =>
      by_cases hz : c = '0'
      · subst hz
        cases h
        exact .inl ⟨'0', rfl, rfl⟩
      · by_cases hc : isNonzeroDigit c
        · rw [magnitude?_cons hc] at h
          cases h
          exact .inr (mem_run hc t)
        · simp [magnitude?, hz, hc] at h
  past {m} rest hm := by
    rcases hm with ⟨c, rfl, rfl⟩ | hm
    · exact ⟨[], rest, rfl, by simp, rfl⟩
    · obtain ⟨c, m, hc, hp, rfl⟩ := mem_oneOf_mul.1 hm
      exact past_run (fun t => magnitude?_cons hc) (mem_star_oneOf.1 hp) rest

lemma head_magnitude (hm : m ∈ magnitudes) : ∃ c rest, isDigit c ∧ m = c :: rest := by
  rcases hm with ⟨c, rfl, rfl⟩ | hm
  · exact ⟨'0', [], rfl, rfl⟩
  · obtain ⟨c, rest, hc, -, rfl⟩ := mem_oneOf_mul.1 hm
    exact ⟨c, rest, (nonzeroDigit_iff.1 hc).1, rfl⟩

lemma digit_mem_magnitudes (hc : isDigit c) : [c] ∈ magnitudes := by
  by_cases h0 : c = '0'
  · exact .inl ⟨c, h0, rfl⟩
  · exact .inr (mem_oneOf_mul.2 ⟨c, [], nonzeroDigit_iff.2 ⟨hc, h0⟩, Language.nil_mem_kstar _, rfl⟩)

lemma head_digits (hm : m ∈ digits) : ∃ c rest, isDigit c ∧ m = c :: rest := by
  obtain ⟨c, rest, hc, -, rfl⟩ := mem_oneOf_mul.1 hm
  exact ⟨c, rest, hc, rfl⟩

lemma integerPart?_of_stops (hs : Stops (· = '-') t) : integerPart? t = magnitude? t := by
  unfold integerPart?
  split
  · simp at hs
  · rfl

lemma reads_int : Reads integerPart? ints (isDigit ·) := by
  apply reads_magnitude.optional
  · intro m hm
    obtain ⟨c, rest, hc, rfl⟩ := head_magnitude hm
    refine ⟨by simp, stops_cons.2 ?_⟩
    rintro rfl
    simp [isDigit] at hc
  · rintro c rest rfl
    rfl
  · exact fun t => integerPart?_of_stops

lemma signedDigits?_of_stops (hs : Stops (isSign ·) t) : signedDigits? t = digits? t := by
  cases t with
  | nil => rfl
  | cons c t => rw [signedDigits?, if_neg (stops_cons.1 hs)]

lemma reads_signedDigits :
    Reads signedDigits? (optional (oneOf fun c => c = '+' ∨ c = '-') * digits) (isDigit ·) := by
  apply reads_digits.optional
  · intro m hm
    obtain ⟨c, rest, hc, rfl⟩ := head_digits hm
    refine ⟨by simp, stops_cons.2 ?_⟩
    rintro (rfl | rfl) <;> simp [isDigit] at hc
  · intro c rest hc
    simp [signedDigits?, isSign, hc]
  · exact fun t hs => signedDigits?_of_stops (hs.mono fun c hc => by simpa [isSign] using hc)

lemma fractionalPart?_of_stops (hs : Stops (· = '.') t) : fractionalPart? t = none := by
  unfold fractionalPart?
  split
  · simp at hs
  · rfl

lemma reads_fraction : Reads fractionalPart? fractions (isDigit ·) := by
  refine reads_digits.cons ?_ fun t => fractionalPart?_of_stops
  rintro c rest rfl
  rfl

lemma exponentPart?_of_stops (hs : Stops (fun c => c = 'e' ∨ c = 'E') t) :
    exponentPart? t = none := by
  cases t with
  | nil => rfl
  | cons c t => simp [exponentPart?, isExponentMark, stops_cons.1 hs]

lemma reads_exponent : Reads exponentPart? exponents (isDigit ·) := by
  refine reads_signedDigits.cons ?_ fun t => exponentPart?_of_stops
  intro c rest hc
  simp [exponentPart?, isExponentMark, hc]

section Optional

variable {part : Reader} {l : Language Char} {p : Char → Prop}

lemma optionalPart_mem (h : Reads part l p) (t : Text) : (optionalPart part t).1 ∈ optional l := by
  unfold optionalPart
  cases hp : part t with
  | none => exact .inl rfl
  | some found => exact .inr (h.mem hp)

lemma optionalPart_exact (h : Reads part l p) (hm : m ∈ optional l) (hs : Stops p rest)
    (hn : part rest = none) : optionalPart part (m ++ rest) = (m, rest) := by
  rcases hm with rfl | hm
  · simp [optionalPart, hn]
  · simp [optionalPart, h.exact hm hs]

end Optional

lemma head_exponent {e : Text} (he : e ∈ exponents) :
    ∃ c rest, (c = 'e' ∨ c = 'E') ∧ e = c :: rest := by
  obtain ⟨c, rest, hc, -, rfl⟩ := mem_oneOf_mul.1 he
  exact ⟨c, rest, hc, rfl⟩

lemma stops_exponent {e : Text} (he : e ∈ exponents) (rest : Text) :
    Stops (isDigit ·) (e ++ rest) ∧ Stops (· = '.') (e ++ rest) := by
  obtain ⟨c, e, rfl | rfl, rfl⟩ := head_exponent he <;> simp [isDigit]

lemma stops_fraction {f : Text} (hf : f ∈ fractions) (rest : Text) : Stops (isDigit ·) (f ++ rest) := by
  obtain ⟨c, f, rfl, -, rfl⟩ := mem_oneOf_mul.1 hf
  simp [isDigit]

lemma floatLiteral?_of_int {i : Text} (h : integerPart? t = some (i, rest)) :
    floatLiteral? t =
      let (f, rest) := optionalPart fractionalPart? rest
      let (e, rest) := optionalPart exponentPart? rest
      if f.isEmpty && e.isEmpty then none else some (i ++ f ++ e, rest) := by
  simp [floatLiteral?, h]

def FloatGoesOn (c : Char) : Prop :=
  isDigit c ∨ c = 'e' ∨ c = 'E'

lemma float_past_fraction {i f : Text} (hi : i ∈ ints) (hf : f ∈ fractions) (rest : Text) :
    ∃ more after, more ++ after = rest ∧ (∀ c ∈ more.head?, FloatGoesOn c) ∧
      floatLiteral? (i ++ f ++ rest) = some (i ++ f ++ more, after) := by
  have hint := reads_int.exact hi (stops_fraction hf rest)
  obtain ⟨more, after, rfl, hmore, hread⟩ := reads_fraction.past rest hf
  have he := optionalPart_mem reads_exponent after
  have happ := append_optionalPart (fun _ _ _ => append_of_exponentPart?) after
  have hne : f ≠ [] := by
    rintro rfl
    simp [fractions] at hf
  refine ⟨more ++ (optionalPart exponentPart? after).1, (optionalPart exponentPart? after).2,
    by rw [List.append_assoc, happ], ?_, ?_⟩
  · cases more with
    -- Without further digits the exponent follows.
    | nil =>
      rcases he with he | he
      · rw [(Language.mem_one _).1 he]
        simp
      · obtain ⟨c, rest, hc, he⟩ := head_exponent he
        simp [he, FloatGoesOn, hc]
    | cons c more =>
      intro d hd
      exact .inl (hmore d hd)
  · rw [List.append_assoc, floatLiteral?_of_int hint, optionalPart, hread]
    simp [hne]

lemma float_past_exponent {i f e : Text} (hi : i ∈ ints) (hf : f ∈ optional fractions)
    (he : e ∈ exponents) (rest : Text) :
    ∃ more after, more ++ after = rest ∧ (∀ c ∈ more.head?, FloatGoesOn c) ∧
      floatLiteral? (i ++ f ++ e ++ rest) = some (i ++ f ++ e ++ more, after) := by
  have hs := stops_exponent he rest
  have hfe : Stops (isDigit ·) (f ++ (e ++ rest)) := by
    rcases hf with rfl | hf
    · exact hs.1
    · exact stops_fraction hf _
  have hint := reads_int.exact hi hfe
  have hfrac := optionalPart_exact reads_fraction hf hs.1 (fractionalPart?_of_stops hs.2)
  obtain ⟨more, after, hrest, hmore, hread⟩ := reads_exponent.past rest he
  have hne : e ≠ [] := by
    obtain ⟨c, e, -, rfl⟩ := head_exponent he
    simp
  have hexp : optionalPart exponentPart? (e ++ rest) = (e ++ more, after) := by
    rw [optionalPart, hread]
    rfl
  refine ⟨more, after, hrest, fun c hc => .inl (hmore c hc), ?_⟩
  rw [List.append_assoc, List.append_assoc, floatLiteral?_of_int hint, hfrac]
  simp [hexp, hne]

lemma parts_of_floatLiteral? (h : floatLiteral? t = some (m, rest)) : ∃ i f e afterInt afterFraction,
    integerPart? t = some (i, afterInt) ∧ optionalPart fractionalPart? afterInt = (f, afterFraction) ∧
      optionalPart exponentPart? afterFraction = (e, rest) ∧ (f ≠ [] ∨ e ≠ []) ∧ m = i ++ f ++ e := by
  obtain ⟨⟨i, afterInt⟩, hi, h⟩ := Option.bind_eq_some_iff.1 h
  rcases hf : optionalPart fractionalPart? afterInt with ⟨f, afterFraction⟩
  rcases he : optionalPart exponentPart? afterFraction with ⟨e, afterExponent⟩
  simp only [hf, he] at h
  split at h
  · cases h
  · rename_i hne
    cases h
    refine ⟨i, f, e, afterInt, afterFraction, hi, hf, he, ?_, rfl⟩
    simpa [← not_and_or] using hne

lemma reads_float : Reads floatLiteral? floats FloatGoesOn where
  append h := (append_of_floatLiteral? h).1
  mem {t m rest} h := by
    obtain ⟨i, f, e, afterInt, afterFraction, hi, hf, he, hne, rfl⟩ := parts_of_floatLiteral? h
    have hfraction := optionalPart_mem reads_fraction afterInt
    have hexponent := optionalPart_mem reads_exponent afterFraction
    rw [hf] at hfraction
    rw [he] at hexponent
    exact mem_floats.2 ⟨i, reads_int.mem hi, f, hfraction, e, hexponent, hne, rfl⟩
  past {m} rest hm := by
    obtain ⟨i, hi, f, hf, e, rfl | he, hne, rfl⟩ := mem_floats.1 hm
    · have hf := (mem_optional.1 hf).resolve_left (by simpa using hne)
      simpa using float_past_fraction hi hf rest
    · exact float_past_exponent hi hf he rest

lemma floatLiteral?_int {i : Text} (hi : i ∈ ints) (hs : Stops FloatGoesOn rest)
    (hp : Stops (· = '.') rest) : floatLiteral? (i ++ rest) = none := by
  have hint := reads_int.exact hi (hs.mono fun c => .inl)
  have hfrac := fractionalPart?_of_stops hp
  have hexp := exponentPart?_of_stops (hs.mono fun c => .inr)
  simp [floatLiteral?_of_int hint, optionalPart, hfrac, hexp]

end GraphQLTokens.Grammar
