import GraphQLTokens.Diagnostic
import GraphQLTokens.Token

namespace GraphQLTokens

namespace Code

def unexpectedCharacter : Code := ⟨"E".toList, 1001⟩

def unterminatedString : Code := ⟨"E".toList, 1002⟩

def unterminatedBlockString : Code := ⟨"E".toList, 1003⟩

def invalidNumber : Code := ⟨"E".toList, 1004⟩

def invalidPunctuator : Code := ⟨"E".toList, 1005⟩

end Code

structure Finding where
  code : Code
  message : Text
  span : Span
  label : Text
  help : Text
  note : Option Text
  deriving DecidableEq, Repr

namespace Finding

def leading (remainder : Span) (length : Nat) : Except Overflow Span :=
  (indexSum remainder.start length).map (Span.mk remainder.start)

def unterminatedBlockString (opening remainder : Span) : Finding where
  code := .unterminatedBlockString
  message := "unterminated block string".toList
  span := ⟨opening.start, remainder.stop⟩
  label := "block string starts here".toList
  help := "close the block string with `\"\"\"`".toList
  note := none

def unterminatedString (span : Span) : Finding where
  code := .unterminatedString
  message := "unterminated string".toList
  span := span
  label := "string is never closed".toList
  help := ("close the string with `\"` before the end of the line, ".toList ++
    "or use a block string `\"\"\"` for multi-line text".toList)
  note := none

def invalidPunctuator (dots : Text) (afterNumber : Bool) (span : Span) : Finding where
  code := .invalidPunctuator
  message := "invalid punctuator ".toList ++ TokenKind.ticked dots
  span := span
  label := "not a valid token".toList
  help := "a spread is written with exactly three dots: `...`".toList
  note :=
    if afterNumber then
      some ("a number cannot end with `.`; write at least one digit after it, ".toList ++
        "like `1.0`".toList)
    else none

def invalidNumber (span : Span) : Finding where
  code := .invalidNumber
  message := "invalid number".toList
  span := span
  label := "expected a digit after `-`".toList
  help := ("a negative number is written as `-` followed directly by digits, ".toList ++
    "like `-42`".toList)
  note := none

def unexpectedCharacter (c : Char) (span : Span) : Finding where
  code := .unexpectedCharacter
  message := "unexpected character ".toList ++ quotedScalar c
  span := span
  label := "unexpected character".toList
  help := ("remove this character; GraphQL does not use it outside strings ".toList ++
    "and comments".toList)
  note := none

/-- The finding for a remainder. `touching` is the token that ends where the remainder starts, if
there is one: a block string that is never closed leaves an empty string there. A remainder without
text counts as NUL. -/
def ofRemainder (touching : Option Token) (text : Text) (remainder : Span) :
    Except Overflow Finding :=
  match text with
  | '"' :: _ =>
    match touching with
    | some ⟨.string .single [], opening⟩ => .ok (unterminatedBlockString opening remainder)
    | _ =>
      -- The string is taken to have been meant to end on the line where it starts.
      (leading remainder (text.takeWhile (!isLineTerminator ·)).length).map unterminatedString
  | '.' :: _ =>
    let dots := text.takeWhile (· == '.')
    (leading remainder dots.length).map (invalidPunctuator dots (touching.any (·.kind.isNumber)))
  | '-' :: _ => (leading remainder 1).map invalidNumber
  | c :: _ => (leading remainder 1).map (unexpectedCharacter c)
  | [] => (leading remainder 1).map (unexpectedCharacter '\x00')

def unscannedNote (f : Finding) (remainder : Span) : Option Text :=
  if remainder.stop - f.span.stop = 0 then none
  else
    some ("lexing stopped here; the remaining ".toList ++
      decimal (remainder.stop - f.span.stop) ++ " character(s) were not scanned".toList)

def diagnostic (f : Finding) (level : Level) (remainder : Span) (file : SourceFile) :
    Diagnostic where
  level := level
  message := f.message
  span := f.span
  code := some f.code
  notes := f.note.toList ++ (f.unscannedNote remainder).toList
  helps := [f.help]
  snippets := (file.snippet? f.span (some f.label)).toOption.toList

end Finding

def diagnose? (level : Level) (tokens : List Token) (file : SourceFile) :
    Except Overflow (Option Diagnostic) :=
  match tokens.getLast? with
  | some ⟨.unrecognized text, remainder⟩ =>
    let touching := tokens.dropLast.getLast?.filter (·.span.stop == remainder.start)
    (Finding.ofRemainder touching text remainder).map fun finding =>
      some (finding.diagnostic level remainder file)
  | _ => .ok none

def report (level : Level) (tokens : List Token) (file : SourceFile) (log : Log) :
    Except Overflow (Nat × Log) :=
  (diagnose? level tokens file).map fun
    | some d => (1, log ++ [d])
    | none => (0, log)

end GraphQLTokens
