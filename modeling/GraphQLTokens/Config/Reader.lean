import GraphQLTokens.Config.Basic
import GraphQLTokens.Toml.Document

namespace GraphQLTokens

namespace Config

open Toml

def boolean? : Value → Option Bool
  | .boolean b => some b
  | _ => none

def booleanAt? (key : String) (fallback : Bool) (entries : Entries) : Option Bool :=
  match find? key.toList entries with
  | none => some fallback
  | some v => boolean? v

def isEmptyCollection : Value → Bool
  | .array [] => true
  | .table _ [] => true
  | _ => false

/-- A format is named by a string, or by the only key of a table, under which nothing is kept. -/
def format? : Value → Option Format
  | .string t => Format.ofName? t
  | .table _ [(key, v)] => if isEmptyCollection v then Format.ofName? key else none
  | _ => none

def positional? (fallbacks : List Bool) (items : List Value) : Option (List Bool) :=
  match fallbacks, items with
  | [], _ => some []
  | fallbacks, [] => some fallbacks
  | _ :: fallbacks, v :: items => do
    let b ← boolean? v
    let bs ← positional? fallbacks items
    some (b :: bs)

/-- The settings of diagnostics: a table of both, an array of them in the order colour, failure, or
a moment, in which neither is. -/
def diagnostics? : Value → Option (Bool × Bool)
  | .table _ entries => do
    let color ← booleanAt? "color" default.color entries
    let fail ← booleanAt? "fail_on_unrecognized" default.failOnUnrecognized entries
    some (color, fail)
  | .array items => do
    let bs ← positional? [default.color, default.failOnUnrecognized] items
    some (bs.getD 0 default.color, bs.getD 1 default.failOnUnrecognized)
  | .moment _ => some (default.color, default.failOnUnrecognized)
  | _ => none

def ofEntries? (entries : Entries) : Option Config := do
  let format ←
    match find? "format".toList entries with
    | none => some default.format
    | some v => format? v
  let showTrivia ← booleanAt? "show_trivia" default.showTrivia entries
  let (color, fail) ←
    match find? "diagnostics".toList entries with
    | none => some (default.color, default.failOnUnrecognized)
    | some v => diagnostics? v
  some ⟨format, showTrivia, color, fail⟩

def ofText? (t : Text) : Option Config := do
  let entries ← document? t
  ofEntries? entries

end Config

end GraphQLTokens
