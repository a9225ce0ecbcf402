import GraphQLTokens.Text.Classes

namespace GraphQLTokens.Toml

def isBlank (c : Char) : Bool :=
  c == ' ' || c == '\t'

def isControl (c : Char) : Bool :=
  (c.toNat < 0x20 && c != '\t') || c.toNat == 0x7F

def skipBlanks (t : Text) : Text :=
  t.dropWhile isBlank

def newline? : Text → Option Text
  | '\n' :: rest => some rest
  | '\r' :: '\n' :: rest => some rest
  | _ => none

def skipComment : Text → Text
  | '#' :: rest => rest.dropWhile (!isControl ·)
  | t => t

def lineEnd? (t : Text) : Option Text :=
  match skipComment (skipBlanks t) with
  | [] => some []
  | t => newline? t

def skipLines (t : Text) : Option Text :=
  match skipBlanks t with
  | '#' :: rest =>
    match newline? (skipComment ('#' :: rest)) with
    | some after => if after.length < t.length then skipLines after else none
    | none => none
  | '\r' :: rest =>
    match newline? ('\r' :: rest) with
    | some after => if after.length < t.length then skipLines after else none
    | none => none
  | '\n' :: after => if after.length < t.length then skipLines after else none
  | u => some u
termination_by t.length

end GraphQLTokens.Toml
