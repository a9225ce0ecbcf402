import GraphQLTokens.Source.Span
import GraphQLTokens.Text.Quoted

namespace GraphQLTokens

inductive Punctuator where
  | bang
  | dollar
  | leftParen
  | rightParen
  | ellipsis
  | colon
  | equals
  | at
  | leftBracket
  | rightBracket
  | leftBrace
  | rightBrace
  | pipe
  deriving DecidableEq, Repr

namespace Punctuator

def all : List Punctuator :=
  [.bang, .dollar, .leftParen, .rightParen, .ellipsis, .colon, .equals, .at, .leftBracket,
    .rightBracket, .leftBrace, .rightBrace, .pipe]

def text : Punctuator → Text
  | .bang => ['!']
  | .dollar => ['$']
  | .leftParen => ['(']
  | .rightParen => [')']
  | .ellipsis => ['.', '.', '.']
  | .colon => [':']
  | .equals => ['=']
  | .at => ['@']
  | .leftBracket => ['[']
  | .rightBracket => [']']
  | .leftBrace => ['{']
  | .rightBrace => ['}']
  | .pipe => ['|']

end Punctuator

inductive Quotation where
  | block
  | single
  deriving DecidableEq, Repr

def Quotation.delimiter : Quotation → Text
  | .block => ['"', '"', '"']
  | .single => ['"']

/-- What a token is. Texts and bodies are kept exactly as written: no escape is decoded and no block
string is indented anew. Keywords are identifiers. -/
inductive TokenKind where
  | identifier (text : Text)
  | int (text : Text)
  | float (text : Text)
  | string (quotation : Quotation) (body : Text)
  | punctuator (punctuator : Punctuator)
  | unrecognized (text : Text)
  deriving DecidableEq, Repr

namespace TokenKind

def lexeme : TokenKind → Text
  | .identifier text => text
  | .int text => text
  | .float text => text
  | .string quotation body => quotation.delimiter ++ body ++ quotation.delimiter
  | .punctuator p => p.text
  | .unrecognized text => text

def name : TokenKind → Text
  | .identifier _ => "identifier".toList
  | .int _ => "int".toList
  | .float _ => "float".toList
  | .string .single _ => "string".toList
  | .string .block _ => "block_string".toList
  | .punctuator _ => "punctuator".toList
  | .unrecognized _ => "unrecognized".toList

def ticked (t : Text) : Text :=
  "`".toList ++ t ++ "`".toList

def describe : TokenKind → Text
  | .identifier text => "identifier ".toList ++ ticked text
  | .int text => "int ".toList ++ ticked text
  | .float text => "float ".toList ++ ticked text
  | .string _ body => "string ".toList ++ quotedText body
  | .punctuator p => ticked p.text
  | .unrecognized text => "unrecognized input ".toList ++ quotedText text

def isNumber : TokenKind → Bool
  | .int _ => true
  | .float _ => true
  | _ => false

def isUnrecognized : TokenKind → Bool
  | .unrecognized _ => true
  | _ => false

end TokenKind

structure Token where
  kind : TokenKind
  span : Span
  deriving DecidableEq, Repr

def Token.describe (t : Token) : Text :=
  t.kind.describe ++ " at ".toList ++ t.span.render

inductive TriviaKind where
  | whitespace
  | comma
  | comment
  deriving DecidableEq, Repr

def TriviaKind.name : TriviaKind → Text
  | .whitespace => "whitespace".toList
  | .comma => "comma".toList
  | .comment => "comment".toList

structure Trivia where
  kind : TriviaKind
  span : Span
  deriving DecidableEq, Repr

end GraphQLTokens
