import GraphQLTokens.Listing.Format

namespace GraphQLTokens

structure Config where
  format : Format
  showTrivia : Bool
  color : Bool
  failOnUnrecognized : Bool
  deriving DecidableEq, Repr

namespace Config

def default : Config :=
  ⟨.text, false, true, true⟩

instance : Inhabited Config :=
  ⟨default⟩

def truthName (b : Bool) : Text :=
  if b then "true".toList else "false".toList

def setting (key : String) (value : Text) : Text :=
  key.toList ++ " = ".toList ++ value ++ "\n".toList

def render (c : Config) : Text :=
  setting "format" ('"' :: c.format.name ++ ['"']) ++
    setting "show_trivia" (truthName c.showTrivia) ++
    "\n[diagnostics]\n".toList ++
    setting "color" (truthName c.color) ++
    setting "fail_on_unrecognized" (truthName c.failOnUnrecognized)

end Config

end GraphQLTokens
