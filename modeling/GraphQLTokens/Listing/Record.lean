import GraphQLTokens.Lexer.Stream
import GraphQLTokens.Source.File

namespace GraphQLTokens

structure Record where
  kind : Text
  text : Text
  start : Nat
  stop : Nat
  line : Nat
  column : Nat
  deriving DecidableEq, Repr

namespace Record

def located (file : SourceFile) (kind text : Text) (span : Span) : Record :=
  let position := file.position span.start
  ⟨kind, text, span.start, span.stop, position.line, position.column⟩

def ofToken (file : SourceFile) (t : Token) : Record :=
  located file t.kind.name t.kind.lexeme t.span

def ofTrivia (file : SourceFile) (t : Trivia) : Record :=
  located file t.kind.name (file.slice t.span) t.span

end Record

def records (file : SourceFile) (withTrivia : Bool) : List Record :=
  if withTrivia then
    let (tokens, trivia) := tokensAndTriviaOf file.content
    (tokens.map (Record.ofToken file) ++ trivia.map (Record.ofTrivia file)).mergeSort
      fun a b => a.start ≤ b.start
  else (tokensOf file.content).map (Record.ofToken file)

def unbroken (t : Text) : Text :=
  t.flatMap fun c =>
    if c = '\n' then "\\n".toList
    else if c = '\r' then "\\r".toList
    else if c = '\t' then "\\t".toList
    else [c]

def Record.row (r : Record) : Text :=
  decimal r.line ++ ':' :: decimal r.column ++ ' ' :: r.kind ++ ' ' :: unbroken r.text ++
    "\n".toList

end GraphQLTokens
