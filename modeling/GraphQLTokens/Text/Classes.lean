import GraphQLTokens.Text.Alphabetic
import GraphQLTokens.Text.Basic

namespace GraphQLTokens

/-- The Unicode property White_Space, and the byte-order mark wherever it stands. -/
def isWhitespace (c : Char) : Bool :=
  let n := c.toNat
  (9 ≤ n && n ≤ 13) || n == 0x20 || n == 0x85 || n == 0xA0 || n == 0x1680 ||
    (0x2000 ≤ n && n ≤ 0x200A) || n == 0x2028 || n == 0x2029 || n == 0x202F || n == 0x205F ||
    n == 0x3000 || n == 0xFEFF

def isLineTerminator (c : Char) : Bool :=
  c == '\n' || c == '\r'

def isDigit (c : Char) : Bool :=
  '0' ≤ c && c ≤ '9'

theorem isDigit_of_mem_decimal {c : Char} {n : Nat} (h : c ∈ decimal n) : isDigit c := by
  have hc := Nat.isDigit_of_mem_toDigits (by decide) (by decide) h
  simpa [isDigit, Char.isDigit, Char.le_def, UInt32.le_iff_toNat_le] using hc

theorem not_mem_decimal {c : Char} (h : ¬ isDigit c) (n : Nat) : c ∉ decimal n :=
  fun hc => h (isDigit_of_mem_decimal hc)

def isNonzeroDigit (c : Char) : Bool :=
  '1' ≤ c && c ≤ '9'

def isNameStart (c : Char) : Bool :=
  c == '_' || isAlphabetic c

def isNameContinue (c : Char) : Bool :=
  isNameStart c || isDigit c

inductive CharClass where
  | whitespace
  | lineTerminator
  | nameStart
  | nameContinue
  | digit
  | nonzeroDigit
  deriving DecidableEq, Repr

namespace CharClass

def all : List CharClass :=
  [.whitespace, .lineTerminator, .nameStart, .nameContinue, .digit, .nonzeroDigit]

def name : CharClass → String
  | .whitespace => "whitespace"
  | .lineTerminator => "line_terminator"
  | .nameStart => "name_start"
  | .nameContinue => "name_continue"
  | .digit => "digit"
  | .nonzeroDigit => "nonzero_digit"

def ofName? (s : String) : Option CharClass :=
  all.find? (·.name == s)

def contains : CharClass → Char → Bool
  | .whitespace => isWhitespace
  | .lineTerminator => isLineTerminator
  | .nameStart => isNameStart
  | .nameContinue => isNameContinue
  | .digit => isDigit
  | .nonzeroDigit => isNonzeroDigit

instance : Coe CharClass (Char → Bool) :=
  ⟨contains⟩

def containsCode (k : CharClass) (code : Nat) : Bool :=
  decide code.isValidChar && k.contains (Char.ofNat code)

def extendRuns (runs : List (Nat × Nat)) (code : Nat) : List (Nat × Nat) :=
  match runs with
  | (first, last) :: earlier =>
    if last + 1 = code then (first, code) :: earlier else (code, code) :: runs
  | [] => [(code, code)]

def runs (k : CharClass) (first last : Nat) : List (Nat × Nat) :=
  let codes := List.range' first (min last 0x10FFFF + 1 - first)
  ((codes.filter k.containsCode).foldl extendRuns []).reverse

end CharClass

end GraphQLTokens
