import GraphQLTokens.Lexer.Number
import GraphQLTokens.Proofs.Grammar.Languages
import Mathlib.Algebra.Field.Rat

/-! The JSON grammar: for every value the texts that stand for it. Nothing here depends on how values are
written or read. -/

namespace GraphQLTokens.JsonText

open Grammar
open scoped Computability

inductive Value where
  | null
  | boolean (b : Bool)
  | number (q : ℚ)
  | string (t : Text)
  | array (items : List Value)
  | object (members : List (Text × Value))

def isBlank (c : Char) : Bool :=
  c == ' ' || c == '\t' || c == '\n' || c == '\r'

def blanks : Language Char :=
  (oneOf (isBlank ·))∗

def padded (l : Language Char) : Language Char :=
  blanks * l * blanks

def numbers : Language Char :=
  ints + floats

def wholeDigits (t : Text) : Text :=
  (t.dropWhile (· == '-')).takeWhile isDigit

def decimalPlaces (t : Text) : Text :=
  match (t.dropWhile (· == '-')).dropWhile isDigit with
  | '.' :: rest => rest.takeWhile isDigit
  | _ => []

def scale (t : Text) : ℤ :=
  match t.dropWhile (!isExponentMark ·) with
  | _ :: '-' :: rest => -decimalValue rest
  | _ :: '+' :: rest => decimalValue rest
  | _ :: rest => decimalValue rest
  | [] => 0

def amount (t : Text) : ℚ :=
  (if t.head? = some '-' then -1 else 1) * decimalValue (wholeDigits t ++ decimalPlaces t) *
    10 ^ (scale t - (decimalPlaces t).length)

def hexValue? (c : Char) : Option Nat :=
  "0123456789abcdef".toList.idxOf? c <|> "0123456789ABCDEF".toList.idxOf? c

def codeUnit? : Text → Option Nat
  | [a, b, c, d] => do
    let a ← hexValue? a
    let b ← hexValue? b
    let c ← hexValue? c
    let d ← hexValue? d
    some (((a * 16 + b) * 16 + c) * 16 + d)
  | _ => none

def shortEscape? : Char → Option Char
  | '"' => some '"'
  | '\\' => some '\\'
  | '/' => some '/'
  | 'b' => some '\x08'
  | 'f' => some '\x0c'
  | 'n' => some '\n'
  | 'r' => some '\r'
  | 't' => some '\t'
  | _ => none

/-- How the scalar `c` may be written between quotes: as it is, with a short escape, by its number, or by
the two surrogates of its number. -/
inductive Spelling (c : Char) : Text → Prop
  | plain : 0x20 ≤ c.toNat → c ≠ '"' → c ≠ '\\' → Spelling c [c]
  | short {e : Char} : shortEscape? e = some c → Spelling c ['\\', e]
  | code {u : Text} : codeUnit? u = some c.toNat → Spelling c ('\\' :: 'u' :: u)
  | pair {u v : Text} {high low : Nat} : codeUnit? u = some (0xD800 + high) →
      codeUnit? v = some (0xDC00 + low) → high < 0x400 → low < 0x400 →
      c.toNat = 0x10000 + high * 0x400 + low → Spelling c ('\\' :: 'u' :: u ++ '\\' :: 'u' :: v)

def bodies : Text → Language Char
  | [] => 1
  | c :: t => {m | ∃ first rest, Spelling c first ∧ rest ∈ bodies t ∧ m = first ++ rest}

def strings (t : Text) : Language Char :=
  {m | ∃ body ∈ bodies t, m = '"' :: body ++ ['"']}

def sequence : List (Language Char) → Language Char
  | [] => blanks
  | [l] => padded l
  | l :: ls => {m | ∃ item ∈ padded l, ∃ rest ∈ sequence ls, m = item ++ ',' :: rest}

def bracketed (opening closing : Char) (l : Language Char) : Language Char :=
  {m | ∃ inside ∈ l, m = opening :: inside ++ [closing]}

mutual

def texts : Value → Language Char
  | .null => {m | m = "null".toList}
  | .boolean true => {m | m = "true".toList}
  | .boolean false => {m | m = "false".toList}
  | .number q => {m | m ∈ numbers ∧ amount m = q}
  | .string t => strings t
  | .array items => bracketed '[' ']' (sequence (itemTexts items))
  | .object members => bracketed '{' '}' (sequence (memberTexts members))

def itemTexts : List Value → List (Language Char)
  | [] => []
  | v :: vs => texts v :: itemTexts vs

def memberTexts : List (Text × Value) → List (Language Char)
  | [] => []
  | (key, v) :: ms => strings key * padded (oneOf (· = ':')) * texts v :: memberTexts ms

end

lemma mem_padded {l : Language Char} {m : Text} :
    m ∈ padded l ↔ ∃ w ∈ blanks, ∃ a ∈ l, ∃ w' ∈ blanks, m = w ++ a ++ w' := by
  simp only [padded, Language.mem_mul]
  constructor
  · rintro ⟨_, ⟨w, hw, a, ha, rfl⟩, w', hw', rfl⟩
    exact ⟨w, hw, a, ha, w', hw', rfl⟩
  · rintro ⟨w, hw, a, ha, w', hw', rfl⟩
    exact ⟨_, ⟨w, hw, a, ha, rfl⟩, w', hw', rfl⟩

end GraphQLTokens.JsonText
