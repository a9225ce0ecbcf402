import GraphQLTokens.Text.Basic
import GraphQLTokens.Text.Extending
import GraphQLTokens.Text.Unprintable

namespace GraphQLTokens

def numbered (c : Char) : Text :=
  "\\u\x7b".toList ++ Nat.toDigits 16 c.toNat ++ "\x7d".toList

def escaped (quote c : Char) : Text :=
  if c = '\x00' then "\\0".toList
  else if c = '\t' then "\\t".toList
  else if c = '\n' then "\\n".toList
  else if c = '\r' then "\\r".toList
  else if c = '\\' || c = quote then ['\\', c]
  else if isExtending c || isIgnorable c || isUnprintable c then numbered c
  else [c]

def quotedText (t : Text) : Text :=
  '"' :: t.flatMap (escaped '"') ++ ['"']

def quotedScalar (c : Char) : Text :=
  '\'' :: escaped '\'' c ++ ['\'']

end GraphQLTokens
