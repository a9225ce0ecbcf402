import GraphQLTokens.Text.Basic

namespace GraphQLTokens

def pathPieces (path : Text) : List Text :=
  path.foldr (fun c pieces =>
    match pieces with
    | [] => [[]]
    | piece :: more => if c = '/' then [] :: piece :: more else (c :: piece) :: more) [[]]

def pathNames (path : Text) : List Text :=
  (pathPieces path).filter (!·.isEmpty)

def isAbsolute (path : Text) : Bool :=
  path.head? == some '/'

def endsInSlash (path : Text) : Bool :=
  path.getLast? == some '/'

def hereName : Text := ".".toList

def parentName : Text := "..".toList

/-- The names of the directory that a file at the path would lie in. A name that only says to stay
counts at the front of a relative path and nowhere else. -/
def parentNames (path : Text) : List Text :=
  let names := pathNames path
  let kept := names.filter (· != hereName)
  (if names.head? == some hereName && !isAbsolute path then hereName :: kept else kept).dropLast

def pathOver (absolute : Bool) (names : List Text) : Text :=
  (if absolute then ['/'] else []) ++ ['/'].intercalate names

def enclosingDirectories (path : Text) : List Text :=
  let names := parentNames path
  (List.range names.length).reverse.map fun outer =>
    pathOver (isAbsolute path) (names.take (outer + 1))

end GraphQLTokens
