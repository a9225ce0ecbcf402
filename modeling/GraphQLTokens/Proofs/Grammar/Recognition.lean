import GraphQLTokens.Proofs.Grammar.Numbers
import GraphQLTokens.Proofs.Grammar.Strings

namespace GraphQLTokens.Grammar

open scoped Computability

variable {t m rest : Text} {r r' : Recognizer} {k k' : TokenKind} {c : Char}

def languageOf : Recognizer → Language Char
  | .punctuator => punctuators
  | .identifier => names
  | .float => floats
  | .int => ints
  | .string => singleStrings + blockStrings

def GoesOn : Recognizer → Char → Prop
  | .punctuator, _ => False
  | .identifier, c => isNameContinue c
  | .float, c => FloatGoesOn c
  | .int, c => isDigit c
  | .string, c => c = '"'

def lexeme? (r : Recognizer) (t : Text) : Option (Text × Text) :=
  (r.read t).map fun (kind, rest) => (kind.lexeme, rest)

lemma spells_iff : (∃ k, Spells m k) ↔ ∃ r, m ∈ languageOf r := by
  constructor
  · rintro ⟨k, h⟩
    cases h with
    | punctuator p => exact ⟨.punctuator, p, rfl⟩
    | identifier h => exact ⟨.identifier, h⟩
    | float h => exact ⟨.float, h⟩
    | int h => exact ⟨.int, h⟩
    | single h => exact ⟨.string, .inl ⟨_, h, rfl⟩⟩
    | block h => exact ⟨.string, .inr ⟨_, h, rfl⟩⟩
  · rintro ⟨r, h⟩
    cases r with
    | punctuator =>
      obtain ⟨p, rfl⟩ := h
      exact ⟨_, .punctuator p⟩
    | identifier => exact ⟨_, .identifier h⟩
    | float => exact ⟨_, .float h⟩
    | int => exact ⟨_, .int h⟩
    | string =>
      rcases h with ⟨body, h, rfl⟩ | ⟨body, h, rfl⟩
      · exact ⟨_, .single h⟩
      · exact ⟨_, .block h⟩

lemma Spells.lexeme_eq (h : Spells m k) : k.lexeme = m := by
  cases h <;> rfl

lemma Spells.not_unrecognized (h : Spells m k) : ¬ k.isUnrecognized := by
  cases h <;> exact Bool.false_ne_true

lemma lexeme?_eq_some_iff :
    lexeme? r t = some (m, rest) ↔ ∃ k, r.read t = some (k, rest) ∧ k.lexeme = m := by
  simp [lexeme?]

lemma reads_punctuator : Reads (lexeme? .punctuator) punctuators (GoesOn .punctuator) where
  append h := by
    obtain ⟨k, hk, rfl⟩ := lexeme?_eq_some_iff.1 h
    exact (Recognizer.append_of_read hk).1
  mem h := by
    obtain ⟨k, hk, rfl⟩ := lexeme?_eq_some_iff.1 h
    obtain ⟨⟨p, after⟩, -, he⟩ := Option.map_eq_some_iff.1 hk
    cases he
    exact ⟨p, rfl⟩
  past {m} rest hm := by
    obtain ⟨p, rfl⟩ := hm
    refine ⟨[], rest, rfl, by simp, ?_⟩
    cases p <;> rfl

lemma reads_name : Reads name? names (isNameContinue ·) := by
  apply reads_run
  · intro c t hc
    simp [name?, hc]
  · intro t hs
    cases t with
    | nil => rfl
    | cons c t => simp [name?, stops_cons.1 hs]

lemma read_block {body : Text} (hbody : body ∈ blockBodies) (rest : Text) :
    Recognizer.string.read (blockQuote ++ body ++ blockQuote ++ rest) =
      some (.string .block body, rest) := by
  simp only [Recognizer.read, blockString?_eq_some_iff.2 ⟨hbody, rfl⟩]

lemma read_single {body : Text} (hbody : body ∈ lineBodies)
    (hblock : blockString? (['"'] ++ body ++ ['"'] ++ rest) = none) :
    Recognizer.string.read (['"'] ++ body ++ ['"'] ++ rest) = some (.string .single body, rest) := by
  have hsingle := singleString?_eq_some_iff.2 ⟨hbody, Eq.refl (['"'] ++ body ++ ['"'] ++ rest)⟩
  simp only [Recognizer.read, hblock, hsingle, Option.map_some]

lemma block_of_single {body b after : Text} (hbody : body ∈ lineBodies)
    (h : blockString? (['"'] ++ body ++ ['"'] ++ rest) = some (b, after)) :
    body = [] ∧ rest = '"' :: b ++ blockQuote ++ after := by
  obtain ⟨-, ht⟩ := blockString?_eq_some_iff.1 h
  cases body with
  | nil =>
    refine ⟨rfl, ?_⟩
    simpa using ht
  | cons c body =>
    have hc := mem_lineBodies.1 hbody c (by simp)
    obtain rfl : c = '"' := by
      simp at ht
      exact ht.1
    simp [isStringScalar] at hc

lemma reads_string : Reads (lexeme? .string) (languageOf .string) (GoesOn .string) where
  append h := by
    obtain ⟨k, hk, rfl⟩ := lexeme?_eq_some_iff.1 h
    exact (Recognizer.append_of_read hk).1
  mem {t m rest} h := by
    obtain ⟨k, hk, rfl⟩ := lexeme?_eq_some_iff.1 h
    simp only [Recognizer.read] at hk
    split at hk
    · rename_i hb
      cases hk
      exact .inr ⟨_, (blockString?_eq_some_iff.1 hb).1, rfl⟩
    · obtain ⟨⟨body, after⟩, hb, he⟩ := Option.map_eq_some_iff.1 hk
      cases he
      exact .inl ⟨_, (singleString?_eq_some_iff.1 hb).1, rfl⟩
  past {m} rest hm := by
    rcases hm with ⟨body, hbody, rfl⟩ | ⟨body, hbody, rfl⟩
    · cases hblock : blockString? (['"'] ++ body ++ ['"'] ++ rest) with
      | none =>
        refine ⟨[], rest, rfl, by simp, lexeme?_eq_some_iff.2 ⟨_, read_single hbody hblock, ?_⟩⟩
        simp [TokenKind.lexeme, Quotation.delimiter]
      | some found =>
        obtain ⟨b, after⟩ := found
        obtain ⟨rfl, rfl⟩ := block_of_single hbody hblock
        refine ⟨'"' :: b ++ blockQuote, after, rfl, by simp [GoesOn], lexeme?_eq_some_iff.2 ?_⟩
        exact ⟨_, read_block (blockString?_eq_some_iff.1 hblock).1 after, rfl⟩
    · refine ⟨[], rest, rfl, by simp, lexeme?_eq_some_iff.2 ⟨_, read_block hbody rest, ?_⟩⟩
      simp [TokenKind.lexeme, Quotation.delimiter]

lemma lexeme?_identifier : lexeme? .identifier = name? := by
  funext t
  simp [lexeme?, Recognizer.read, TokenKind.lexeme, Function.comp_def]

lemma lexeme?_float : lexeme? .float = floatLiteral? := by
  funext t
  simp [lexeme?, Recognizer.read, TokenKind.lexeme, Function.comp_def]

lemma lexeme?_int : lexeme? .int = integerPart? := by
  funext t
  simp [lexeme?, Recognizer.read, TokenKind.lexeme, Function.comp_def]

lemma reads_recognizer (r : Recognizer) : Reads (lexeme? r) (languageOf r) (GoesOn r) := by
  cases r with
  | punctuator => exact reads_punctuator
  | identifier => exact lexeme?_identifier ▸ reads_name
  | float => exact lexeme?_float ▸ reads_float
  | int => exact lexeme?_int ▸ reads_int
  | string => exact reads_string

lemma lexeme?_of_read (h : r.read t = some (k, rest)) : lexeme? r t = some (k.lexeme, rest) :=
  lexeme?_eq_some_iff.2 ⟨k, h, rfl⟩

lemma isSome_lexeme? : (lexeme? r t).isSome = (r.read t).isSome := by
  simp [lexeme?]

lemma spells_of_read (h : r.read t = some (k, rest)) : Spells k.lexeme k := by
  have hm := (reads_recognizer r).mem (lexeme?_of_read h)
  cases r with
  | punctuator =>
    obtain ⟨⟨p, after⟩, -, he⟩ := Option.map_eq_some_iff.1 h
    cases he
    exact .punctuator p
  | identifier =>
    obtain ⟨⟨m, after⟩, -, he⟩ := Option.map_eq_some_iff.1 h
    cases he
    exact .identifier hm
  | float =>
    obtain ⟨⟨m, after⟩, -, he⟩ := Option.map_eq_some_iff.1 h
    cases he
    exact .float hm
  | int =>
    obtain ⟨⟨m, after⟩, -, he⟩ := Option.map_eq_some_iff.1 h
    cases he
    exact .int hm
  | string =>
    simp only [Recognizer.read] at h
    split at h
    · rename_i hb
      cases h
      exact .block (blockString?_eq_some_iff.1 hb).1
    · obtain ⟨⟨body, after⟩, hb, he⟩ := Option.map_eq_some_iff.1 h
      cases he
      exact .single (singleString?_eq_some_iff.1 hb).1

end GraphQLTokens.Grammar
