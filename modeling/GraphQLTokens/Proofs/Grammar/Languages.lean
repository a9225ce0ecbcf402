import GraphQLTokens.Text.Classes
import GraphQLTokens.Token
import Mathlib.Computability.Language

namespace GraphQLTokens.Grammar

open scoped Computability

def oneOf (p : Char → Prop) : Language Char :=
  {t | ∃ c, p c ∧ t = [c]}

def optional (l : Language Char) : Language Char :=
  1 + l

def punctuators : Language Char :=
  {t | ∃ p : Punctuator, t = p.text}

def names : Language Char :=
  oneOf (isNameStart ·) * (oneOf (isNameContinue ·))∗

def digits : Language Char :=
  oneOf (isDigit ·) * (oneOf (isDigit ·))∗

def magnitudes : Language Char :=
  oneOf (· = '0') + oneOf (isNonzeroDigit ·) * (oneOf (isDigit ·))∗

def ints : Language Char :=
  optional (oneOf (· = '-')) * magnitudes

def fractions : Language Char :=
  oneOf (· = '.') * digits

def exponents : Language Char :=
  oneOf (fun c => c = 'e' ∨ c = 'E') * (optional (oneOf fun c => c = '+' ∨ c = '-') * digits)

def floats : Language Char :=
  ints * (fractions + exponents + fractions * exponents)

def lineBodies : Language Char :=
  (oneOf fun c => c ≠ '"' ∧ c ≠ '\n' ∧ c ≠ '\r')∗

abbrev blockQuote : Text :=
  ['"', '"', '"']

/-- The bodies after which the closing delimiter is the first place with three quotes in a row. -/
def blockBodies : Language Char :=
  {body | ∀ before after, before ++ blockQuote ++ after = body ++ blockQuote →
    body.length ≤ before.length}

def singleStrings : Language Char :=
  {t | ∃ body ∈ lineBodies, t = ['"'] ++ body ++ ['"']}

def blockStrings : Language Char :=
  {t | ∃ body ∈ blockBodies, t = blockQuote ++ body ++ blockQuote}

def separators : Language Char :=
  (oneOf (isWhitespace ·) + oneOf (· = ',') +
    oneOf (· = '#') * ((oneOf (¬ isLineTerminator ·))∗ * oneOf (isLineTerminator ·)))∗

/-- `Spells t k` if `t` belongs to the language of the kind `k` and `k` carries its text, or for
a string its body. -/
inductive Spells : Text → TokenKind → Prop
  | punctuator (p : Punctuator) : Spells p.text (.punctuator p)
  | identifier {t : Text} : t ∈ names → Spells t (.identifier t)
  | float {t : Text} : t ∈ floats → Spells t (.float t)
  | int {t : Text} : t ∈ ints → Spells t (.int t)
  | single {body : Text} : body ∈ lineBodies → Spells (['"'] ++ body ++ ['"']) (.string .single body)
  | block {body : Text} : body ∈ blockBodies →
      Spells (blockQuote ++ body ++ blockQuote) (.string .block body)

variable {p : Char → Prop} {l : Language Char} {t : Text}

@[simp]
lemma mem_oneOf : t ∈ oneOf p ↔ ∃ c, p c ∧ t = [c] :=
  Iff.rfl

@[simp]
lemma mem_oneOf_mul : t ∈ oneOf p * l ↔ ∃ c rest, p c ∧ rest ∈ l ∧ t = c :: rest := by
  rw [Language.mem_mul]
  constructor
  · rintro ⟨_, ⟨c, hc, rfl⟩, rest, hrest, rfl⟩
    exact ⟨c, rest, hc, hrest, rfl⟩
  · rintro ⟨c, rest, hc, hrest, rfl⟩
    exact ⟨[c], ⟨c, hc, rfl⟩, rest, hrest, rfl⟩

@[simp]
lemma mem_star_oneOf : t ∈ (oneOf p)∗ ↔ ∀ c ∈ t, p c := by
  rw [Language.mem_kstar]
  constructor
  · rintro ⟨pieces, rfl, hp⟩ c hc
    obtain ⟨piece, hpiece, hc⟩ := List.mem_flatten.1 hc
    obtain ⟨d, hd, rfl⟩ := hp piece hpiece
    rwa [List.mem_singleton.1 hc]
  · intro h
    refine ⟨t.map fun c => [c], (List.flatMap_singleton' t).symm, ?_⟩
    intro piece hpiece
    obtain ⟨c, hc, rfl⟩ := List.mem_map.1 hpiece
    exact ⟨c, h c hc, rfl⟩

lemma mem_optional : t ∈ optional l ↔ t = [] ∨ t ∈ l :=
  Iff.rfl

lemma mem_floats : t ∈ floats ↔ ∃ i ∈ ints, ∃ f ∈ optional fractions, ∃ e ∈ optional exponents,
    (f ≠ [] ∨ e ≠ []) ∧ t = i ++ f ++ e := by
  have hf : [] ∉ fractions := by simp [fractions]
  have he : [] ∉ exponents := by simp [exponents]
  simp only [floats, Language.mem_mul, Language.mem_add, mem_optional]
  constructor
  · rintro ⟨i, hi, _, (hf' | he') | ⟨f, hf', e, he', rfl⟩, rfl⟩
    · exact ⟨i, hi, _, .inr hf', [], .inl rfl, .inl fun h => hf (h ▸ hf'), by simp⟩
    · exact ⟨i, hi, [], .inl rfl, _, .inr he', .inr fun h => he (h ▸ he'), by simp⟩
    · exact ⟨i, hi, f, .inr hf', e, .inr he', .inl fun h => hf (h ▸ hf'), by simp⟩
  · rintro ⟨i, hi, f, rfl | hf', e, rfl | he', hne, rfl⟩
    · simp at hne
    · exact ⟨i, hi, e, .inl (.inr he'), by simp⟩
    · exact ⟨i, hi, f, .inl (.inl hf'), by simp⟩
    · exact ⟨i, hi, f ++ e, .inr ⟨f, hf', e, he', rfl⟩, by simp⟩

end GraphQLTokens.Grammar
