import GraphQLTokens.Source.File

namespace GraphQLTokens

inductive Level where
  | error
  | warning
  deriving DecidableEq, Repr

def Level.name : Level → Text
  | .error => "error".toList
  | .warning => "warning".toList

structure Code where
  letter : Text
  number : Nat
  deriving DecidableEq, Repr

namespace Code

def render (c : Code) : Text :=
  c.letter ++ (decimal c.number).leftpad 4 '0'

def describe (c : Code) : Text :=
  "DiagnosticCode(".toList ++ c.render ++ ")".toList

end Code

structure Diagnostic where
  level : Level
  message : Text
  span : Span
  code : Option Code
  notes : List Text
  helps : List Text
  snippets : List Snippet
  deriving DecidableEq, Repr

namespace Diagnostic

def new (level : Level) (message : Text) (span : Span) : Diagnostic :=
  ⟨level, message, span, none, [], [], []⟩

def withCode (d : Diagnostic) (code : Code) : Diagnostic :=
  { d with code := some code }

def withSpan (d : Diagnostic) (span : Span) : Diagnostic :=
  { d with span := span }

def withNote (d : Diagnostic) (note : Text) : Diagnostic :=
  { d with notes := d.notes ++ [note] }

def withHelp (d : Diagnostic) (help : Text) : Diagnostic :=
  { d with helps := d.helps ++ [help] }

def withSnippet (d : Diagnostic) (snippet : Snippet) : Diagnostic :=
  { d with snippets := d.snippets ++ [snippet] }

def header (d : Diagnostic) : Text :=
  d.level.name ++ ((d.code.map fun code => '[' :: code.render ++ "]".toList).getD []) ++
    ": ".toList ++ d.message

def summary (d : Diagnostic) : Text :=
  d.header ++ " at ".toList ++ d.span.render

def remark (kind text : Text) : Text :=
  "  = ".toList ++ kind ++ ": ".toList ++ text ++ "\n".toList

def body (d : Diagnostic) (f : SourceFile) : Text :=
  " --> ".toList ++ f.name ++ ':' :: (f.position d.span.start).render ++ "\n".toList ++
    d.snippets.flatMap (fun snippet => snippet.render ++ "\n".toList) ++
    d.notes.flatMap (remark "note".toList) ++ d.helps.flatMap (remark "help".toList)

def render (d : Diagnostic) (f : SourceFile) : Text :=
  d.header ++ '\n' :: d.body f

end Diagnostic

abbrev Log := List Diagnostic

namespace Log

def errors (log : Log) : Nat :=
  log.countP (·.level = .error)

def warnings (log : Log) : Nat :=
  log.countP (·.level = .warning)

def hasErrors (log : Log) : Bool :=
  log.any (·.level = .error)

end Log

end GraphQLTokens
