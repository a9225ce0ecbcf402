import GraphQLTokens.Proofs.Grammar.Chain
import GraphQLTokens.Proofs.Source.Lines

namespace GraphQLTokens.Grammar

open Lines
open scoped Computability

variable {p : Char → Prop} {l l' : Language Char} {m : Text} {k : TokenKind}

def AllPlain (l : Language Char) : Prop :=
  ∀ m ∈ l, Plain m

lemma allPlain_oneOf (hp : ∀ c, p c → ¬ isLineTerminator c) : AllPlain (oneOf p) := by
  rintro m ⟨c, hc, rfl⟩
  exact plain_cons.2 ⟨hp c hc, plain_nil⟩

lemma allPlain_star (hp : ∀ c, p c → ¬ isLineTerminator c) : AllPlain (oneOf p)∗ := by
  intro m hm c hc
  exact hp c (mem_star_oneOf.1 hm c hc)

lemma AllPlain.optional (h : AllPlain l) : AllPlain (optional l) := by
  rintro m (rfl | hm)
  · exact plain_nil
  · exact h m hm

lemma AllPlain.mul (h : AllPlain l) (h' : AllPlain l') : AllPlain (l * l') := by
  intro m hm
  obtain ⟨a, ha, b, hb, rfl⟩ := Language.mem_mul.1 hm
  exact (h a ha).append (h' b hb)

lemma AllPlain.add (h : AllPlain l) (h' : AllPlain l') : AllPlain (l + l') := by
  rintro m (hm | hm)
  · exact h m hm
  · exact h' m hm

lemma not_lineTerminator_of_nameContinue (c : Char) (h : isNameContinue c) : ¬ isLineTerminator c :=
  fun hl => not_nameContinue_of_whitespace (whitespace_of_lineTerminator hl) h

lemma not_lineTerminator_of_digit (c : Char) (h : isDigit c) : ¬ isLineTerminator c :=
  not_lineTerminator_of_nameContinue c (nameContinue_of_digit h)

lemma plain_punctuator (p : Punctuator) : Plain p.text := by
  cases p <;> simp [Punctuator.text, isLineTerminator]

lemma allPlain_names : AllPlain names := by
  apply AllPlain.mul
  · exact allPlain_oneOf fun c hc => not_lineTerminator_of_nameContinue c (nameContinue_of_nameStart hc)
  · exact allPlain_star not_lineTerminator_of_nameContinue

lemma allPlain_digits : AllPlain digits :=
  (allPlain_oneOf not_lineTerminator_of_digit).mul (allPlain_star not_lineTerminator_of_digit)

lemma allPlain_ints : AllPlain ints := by
  apply AllPlain.mul
  · exact (allPlain_oneOf (by rintro c rfl; decide)).optional
  · apply AllPlain.add
    · exact allPlain_oneOf (by rintro c rfl; decide)
    · apply AllPlain.mul
      · exact allPlain_oneOf fun c hc => not_lineTerminator_of_digit c (nonzeroDigit_iff.1 hc).1
      · exact allPlain_star not_lineTerminator_of_digit

lemma allPlain_fractions : AllPlain fractions :=
  (allPlain_oneOf (by rintro c rfl; decide)).mul allPlain_digits

lemma allPlain_exponents : AllPlain exponents := by
  apply AllPlain.mul
  · exact allPlain_oneOf (by rintro c (rfl | rfl) <;> decide)
  · apply AllPlain.mul
    · exact (allPlain_oneOf (by rintro c (rfl | rfl) <;> decide)).optional
    · exact allPlain_digits

lemma allPlain_floats : AllPlain floats :=
  allPlain_ints.mul
    ((allPlain_fractions.add allPlain_exponents).add (allPlain_fractions.mul allPlain_exponents))

lemma plain_of_lineBody (h : m ∈ lineBodies) : Plain m :=
  (mem_lineBodies_iff.1 h).2

lemma Spells.plain_or_block (h : Spells m k) :
    Plain m ∨ ∃ body ∈ blockBodies, m = blockQuote ++ body ++ blockQuote := by
  cases h with
  | punctuator p => exact .inl (plain_punctuator p)
  | identifier h => exact .inl (allPlain_names _ h)
  | float h => exact .inl (allPlain_floats _ h)
  | int h => exact .inl (allPlain_ints _ h)
  | single h =>
    have hquote : Plain ['"'] := plain_cons.2 ⟨by decide, plain_nil⟩
    exact .inl ((hquote.append (plain_of_lineBody h)).append hquote)
  | block h => exact .inr ⟨_, h, rfl⟩

end GraphQLTokens.Grammar
