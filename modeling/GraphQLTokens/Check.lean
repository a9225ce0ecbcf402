import GraphQLTokens.Diagnosis
import GraphQLTokens.Lexer.Stream

namespace GraphQLTokens

def Level.style : Level → Text
  | .error => "\x1b[1;31m".toList
  | .warning => "\x1b[1;33m".toList

def resetStyle : Text :=
  "\x1b[0m".toList

def painted (level : Level) (t : Text) : Text :=
  level.style ++ t.takeWhile (· != '\n') ++ resetStyle ++ t.dropWhile (· != '\n')

structure Verdict where
  tokens : Nat
  errors : Nat
  warnings : Nat
  deriving DecidableEq, Repr

def Log.written (log : Log) (file : SourceFile) (color : Bool) : Text :=
  log.flatMap fun d => if color then painted d.level (d.render file) else d.render file

def check (file : SourceFile) (level : Level) (color : Bool) : Except Overflow (Verdict × Text) :=
  let tokens := tokensOf file.content
  (report level tokens file []).map fun (_, log) =>
    (⟨tokens.length, log.errors, log.warnings⟩, log.written file color)

end GraphQLTokens
