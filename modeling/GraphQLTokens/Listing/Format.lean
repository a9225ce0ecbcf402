import GraphQLTokens.Listing.Json
import GraphQLTokens.Listing.Record

namespace GraphQLTokens

inductive Format where
  | text
  | json
  deriving DecidableEq, Repr

namespace Format

def all : List Format :=
  [.text, .json]

def name : Format → Text
  | .text => "text".toList
  | .json => "json".toList

def ofName? (t : Text) : Option Format :=
  all.find? (·.name == t)

end Format

def Record.toJson (r : Record) : Json :=
  .object [("kind".toList, .string r.kind), ("text".toList, .string r.text),
    ("start".toList, .number r.start), ("end".toList, .number r.stop),
    ("line".toList, .number r.line), ("column".toList, .number r.column)]

def listing (file : SourceFile) (format : Format) (withTrivia : Bool) : Text :=
  match format with
  | .text => (records file withTrivia).flatMap Record.row
  | .json =>
    (Json.array ((records file withTrivia).map Record.toJson)).render 0 ++ "\n".toList

end GraphQLTokens
