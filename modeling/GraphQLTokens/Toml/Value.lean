import GraphQLTokens.Text.Basic

namespace GraphQLTokens.Toml

inductive Standing where
  /-- By its own header. The root and the elements of an array of tables count as such. -/
  | header
  | implied
  | dotted
  | inline
  deriving DecidableEq, Repr

/-- Numbers that are no integers, and moments in time, are kept as they are written. -/
inductive Value where
  | string (t : Text)
  | integer (n : Int)
  | float (written : Text)
  | boolean (b : Bool)
  | moment (written : Text)
  | array (items : List Value)
  | table (standing : Standing) (entries : List (Text × Value))
  | tables (elements : List (List (Text × Value)))

abbrev Entries := List (Text × Value)

/-- How deep arrays and inline tables may be nested, and how many parts a key may have. -/
def depthLimit : Nat :=
  79

end GraphQLTokens.Toml
