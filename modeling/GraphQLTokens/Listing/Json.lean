import GraphQLTokens.Text.Basic

namespace GraphQLTokens

inductive Json where
  | number (n : Nat)
  | string (t : Text)
  | array (items : List Json)
  | object (members : List (Text × Json))

namespace Json

def hexDigit (n : Nat) : Char :=
  "0123456789abcdef".toList.getD n '0'

def escaped (c : Char) : Text :=
  if c = '"' then "\\\"".toList
  else if c = '\\' then "\\\\".toList
  else if c = '\x08' then "\\b".toList
  else if c = '\x0c' then "\\f".toList
  else if c = '\n' then "\\n".toList
  else if c = '\r' then "\\r".toList
  else if c = '\t' then "\\t".toList
  else if c.toNat < 0x20 then
    "\\u00".toList ++ [hexDigit (c.toNat / 16), hexDigit (c.toNat % 16)]
  else [c]

def quoted (t : Text) : Text :=
  '"' :: t.flatMap escaped ++ ['"']

def newline (depth : Nat) : Text :=
  '\n' :: indent (2 * depth)

mutual

def render (depth : Nat) : Json → Text
  | .number n => decimal n
  | .string t => quoted t
  | .array [] => "[]".toList
  | .array (item :: items) =>
    '[' :: newline (depth + 1) ++ render (depth + 1) item ++ renderItems (depth + 1) items ++
      newline depth ++ "]".toList
  | .object [] => "\x7b\x7d".toList
  | .object ((key, value) :: members) =>
    '{' :: newline (depth + 1) ++ quoted key ++ ": ".toList ++ render (depth + 1) value ++
      renderMembers (depth + 1) members ++ newline depth ++ "\x7d".toList

def renderItems (depth : Nat) : List Json → Text
  | [] => []
  | item :: items => ',' :: newline depth ++ render depth item ++ renderItems depth items

def renderMembers (depth : Nat) : List (Text × Json) → Text
  | [] => []
  | (key, value) :: members =>
    ',' :: newline depth ++ quoted key ++ ": ".toList ++ render depth value ++
      renderMembers depth members

end

end Json

end GraphQLTokens
