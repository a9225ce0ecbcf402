/-! Text as the sequence of its Unicode scalars. Every index, column and length of the library
counts scalars. -/

namespace GraphQLTokens

abbrev Text := List Char

/-- An index is a word of 64 bits, and so below this. -/
def indexLimit : Nat :=
  0x10000000000000000

/-- What stops the program where a sum is no index. -/
inductive Overflow where
  | overflow
  deriving DecidableEq, Repr

def indexSum (a b : Nat) : Except Overflow Nat :=
  if a + b < indexLimit then .ok (a + b) else .error .overflow

theorem indexSum_of_lt {a b : Nat} (h : a + b < indexLimit) : indexSum a b = .ok (a + b) :=
  if_pos h

theorem indexSum_of_le {a b : Nat} (h : indexLimit ≤ a + b) : indexSum a b = .error .overflow :=
  if_neg (Nat.not_lt.2 h)

def decimal (n : Nat) : Text :=
  Nat.toDigits 10 n

def decimalValue (digits : Text) : Nat :=
  digits.foldl (fun value digit => 10 * value + (digit.toNat - '0'.toNat)) 0

theorem decimalValue_decimal (n : Nat) : decimalValue (decimal n) = n :=
  Nat.ofDigitChars_toDigits (by decide) (by decide)

theorem decimal_inj {m n : Nat} : decimal m = decimal n ↔ m = n := by
  refine ⟨fun h => ?_, congrArg decimal⟩
  rw [← decimalValue_decimal m, h, decimalValue_decimal]

def indent (width : Nat) : Text :=
  List.replicate width ' '

end GraphQLTokens
