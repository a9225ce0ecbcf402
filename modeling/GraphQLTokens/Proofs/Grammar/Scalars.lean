import GraphQLTokens.Text.Classes
import Mathlib.Data.List.Basic

namespace GraphQLTokens.Grammar

def whitespaceCodes : List Nat :=
  List.range' 9 5 ++ [0x20, 0x85, 0xA0, 0x1680] ++ List.range' 0x2000 11 ++
    [0x2028, 0x2029, 0x202F, 0x205F, 0x3000, 0xFEFF]

variable {c : Char}

lemma of_codes {P : Char → Prop} {codes : List Nat} (h : ∀ n ∈ codes, P (Char.ofNat n))
    (hc : c.toNat ∈ codes) : P c := by
  have hn := h c.toNat hc
  rwa [Char.ofNat_toNat] at hn

lemma toNat_mem_whitespaceCodes (h : isWhitespace c) : c.toNat ∈ whitespaceCodes := by
  simp [isWhitespace, whitespaceCodes, List.mem_range'_1] at h ⊢
  omega

lemma not_nameContinue_of_whitespace (h : isWhitespace c) : ¬ isNameContinue c :=
  of_codes (P := (¬ isNameContinue ·)) (by decide +kernel) (toNat_mem_whitespaceCodes h)

lemma digit_iff : isDigit c ↔ 48 ≤ c.toNat ∧ c.toNat ≤ 57 := by
  simp [isDigit, Char.le_def, UInt32.le_iff_toNat_le]

lemma toNat_mem_digitCodes (h : isDigit c) : c.toNat ∈ List.range' 48 10 := by
  rw [digit_iff] at h
  simp [List.mem_range'_1]
  omega

lemma not_nameStart_of_digit (h : isDigit c) : ¬ isNameStart c :=
  of_codes (P := (¬ isNameStart ·)) (by decide) (toNat_mem_digitCodes h)

lemma nonzeroDigit_iff : isNonzeroDigit c ↔ isDigit c ∧ c ≠ '0' := by
  rw [← Char.toNat_inj.ne]
  simp [isDigit, isNonzeroDigit, Char.le_def, UInt32.le_iff_toNat_le]
  omega

lemma nameContinue_of_nameStart (h : isNameStart c) : isNameContinue c := by
  simp [isNameContinue, h]

lemma nameContinue_of_digit (h : isDigit c) : isNameContinue c := by
  simp [isNameContinue, h]

lemma whitespace_of_lineTerminator (h : isLineTerminator c) : isWhitespace c := by
  simp only [isLineTerminator, Bool.or_eq_true, beq_iff_eq] at h
  rcases h with rfl | rfl <;> rfl

def StartsTrivia (c : Char) : Prop :=
  isWhitespace c ∨ c = ',' ∨ c = '#'

instance : DecidablePred StartsTrivia :=
  fun c => inferInstanceAs (Decidable (isWhitespace c ∨ c = ',' ∨ c = '#'))

lemma not_nameContinue_of_startsTrivia (h : StartsTrivia c) : ¬ isNameContinue c := by
  rcases h with h | rfl | rfl
  · exact not_nameContinue_of_whitespace h
  · decide
  · decide

end GraphQLTokens.Grammar
