import GraphQLTokens.Lexer.Number
import GraphQLTokens.Token

namespace GraphQLTokens

def punctuator? : Text → Option (Punctuator × Text)
  | '!' :: rest => some (.bang, rest)
  | '$' :: rest => some (.dollar, rest)
  | '(' :: rest => some (.leftParen, rest)
  | ')' :: rest => some (.rightParen, rest)
  | '.' :: '.' :: '.' :: rest => some (.ellipsis, rest)
  | ':' :: rest => some (.colon, rest)
  | '=' :: rest => some (.equals, rest)
  | '@' :: rest => some (.at, rest)
  | '[' :: rest => some (.leftBracket, rest)
  | ']' :: rest => some (.rightBracket, rest)
  | '{' :: rest => some (.leftBrace, rest)
  | '}' :: rest => some (.rightBrace, rest)
  | '|' :: rest => some (.pipe, rest)
  | _ => none

theorem append_of_punctuator? {t rest : Text} {p : Punctuator}
    (h : punctuator? t = some (p, rest)) : p.text ++ rest = t ∧ p.text ≠ [] := by
  unfold punctuator? at h
  split at h <;> simp_all <;> grind [Punctuator.text]

def name? : Text → Option (Text × Text)
  | [] => none
  | c :: rest =>
    if isNameStart c then some (c :: rest.takeWhile isNameContinue, rest.dropWhile isNameContinue)
    else none

theorem append_of_name? {t m rest : Text} (h : name? t = some (m, rest)) :
    m ++ rest = t ∧ m ≠ [] := by
  cases t with
  | nil => simp [name?] at h
  | cons c t => grind [name?, List.takeWhile_append_dropWhile]

def splitAtBlockQuote : Text → Option (Text × Text)
  | [] => none
  | '"' :: '"' :: '"' :: rest => some ([], rest)
  | c :: rest => (splitAtBlockQuote rest).map fun (before, rest) => (c :: before, rest)

theorem append_of_splitAtBlockQuote {t before after : Text}
    (h : splitAtBlockQuote t = some (before, after)) :
    before ++ '"' :: '"' :: '"' :: after = t := by
  fun_induction splitAtBlockQuote t generalizing before after with
  | case1 => simp at h
  | case2 => simp_all
  | case3 c rest _ ih =>
    obtain ⟨⟨b, r⟩, hb, h⟩ := Option.map_eq_some_iff.1 h
    cases h
    simp [← ih hb]

def blockString? : Text → Option (Text × Text)
  | '"' :: '"' :: '"' :: rest => splitAtBlockQuote rest
  | _ => none

theorem append_of_blockString? {t body rest : Text} (h : blockString? t = some (body, rest)) :
    Quotation.block.delimiter ++ body ++ Quotation.block.delimiter ++ rest = t := by
  unfold blockString? at h
  split at h
  · simp [Quotation.delimiter, ← append_of_splitAtBlockQuote h]
  · simp at h

def isStringScalar (c : Char) : Bool :=
  c != '"' && !isLineTerminator c

def singleString? : Text → Option (Text × Text)
  | '"' :: rest =>
    match rest.dropWhile isStringScalar with
    | '"' :: after => some (rest.takeWhile isStringScalar, after)
    | _ => none
  | _ => none

theorem append_of_singleString? {t body rest : Text} (h : singleString? t = some (body, rest)) :
    Quotation.single.delimiter ++ body ++ Quotation.single.delimiter ++ rest = t := by
  unfold singleString? at h
  split at h
  · split at h
    · rename_i line _ after hq
      cases h
      have := List.takeWhile_append_dropWhile (p := isStringScalar) (l := line)
      simp [Quotation.delimiter]
      grind
    · simp at h
  · simp at h

inductive Recognizer where
  | punctuator
  | identifier
  | float
  | int
  | string
  deriving DecidableEq, Repr

namespace Recognizer

def name : Recognizer → String
  | .punctuator => "punctuator"
  | .identifier => "identifier"
  | .float => "float"
  | .int => "int"
  | .string => "string"

/-- The order in which they are tried. A float starts with an int, so it comes before it. -/
def order : List Recognizer :=
  [.punctuator, .identifier, .float, .int, .string]

def ofName? (s : String) : Option Recognizer :=
  order.find? (·.name == s)

/-- The token at the front of `t` and the text after it. A block string that is never closed is read
as an empty single string; its third quote stays. -/
def read : Recognizer → Text → Option (TokenKind × Text)
  | .punctuator, t => (punctuator? t).map fun (p, rest) => (.punctuator p, rest)
  | .identifier, t => (name? t).map fun (matched, rest) => (.identifier matched, rest)
  | .float, t => (floatLiteral? t).map fun (matched, rest) => (.float matched, rest)
  | .int, t => (integerPart? t).map fun (matched, rest) => (.int matched, rest)
  | .string, t =>
    match blockString? t with
    | some (body, rest) => some (.string .block body, rest)
    | none => (singleString? t).map fun (body, rest) => (.string .single body, rest)

theorem append_of_read {r : Recognizer} {t rest : Text} {kind : TokenKind}
    (h : r.read t = some (kind, rest)) : kind.lexeme ++ rest = t ∧ kind.lexeme ≠ [] := by
  cases r with
  | punctuator =>
    obtain ⟨⟨p, after⟩, hp, h⟩ := Option.map_eq_some_iff.1 h
    cases h
    exact append_of_punctuator? hp
  | identifier =>
    obtain ⟨⟨m, after⟩, hm, h⟩ := Option.map_eq_some_iff.1 h
    cases h
    exact append_of_name? hm
  | float =>
    obtain ⟨⟨m, after⟩, hm, h⟩ := Option.map_eq_some_iff.1 h
    cases h
    exact append_of_floatLiteral? hm
  | int =>
    obtain ⟨⟨m, after⟩, hm, h⟩ := Option.map_eq_some_iff.1 h
    cases h
    exact append_of_integerPart? hm
  | string =>
    simp only [read] at h
    split at h
    · rename_i hb
      cases h
      exact ⟨append_of_blockString? hb, by simp [TokenKind.lexeme, Quotation.delimiter]⟩
    · obtain ⟨⟨body, after⟩, hb, h⟩ := Option.map_eq_some_iff.1 h
      cases h
      exact ⟨append_of_singleString? hb, by simp [TokenKind.lexeme, Quotation.delimiter]⟩

theorem length_lt_of_read {r : Recognizer} {t rest : Text} {kind : TokenKind}
    (h : r.read t = some (kind, rest)) : rest.length < t.length := by
  obtain ⟨rfl, hne⟩ := append_of_read h
  have := List.length_pos_iff.2 hne
  grind

end Recognizer

def firstToken (chain : List Recognizer) (t : Text) : Option (TokenKind × Text) :=
  chain.findSome? (·.read t)

theorem append_of_firstToken {chain : List Recognizer} {t rest : Text} {kind : TokenKind}
    (h : firstToken chain t = some (kind, rest)) : kind.lexeme ++ rest = t ∧ kind.lexeme ≠ [] := by
  obtain ⟨r, -, h⟩ := List.exists_of_findSome?_eq_some h
  exact Recognizer.append_of_read h

theorem length_lt_of_firstToken {chain : List Recognizer} {t rest : Text} {kind : TokenKind}
    (h : firstToken chain t = some (kind, rest)) : rest.length < t.length := by
  obtain ⟨r, -, h⟩ := List.exists_of_findSome?_eq_some h
  exact Recognizer.length_lt_of_read h

end GraphQLTokens
