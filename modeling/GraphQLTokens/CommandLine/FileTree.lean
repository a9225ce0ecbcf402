import GraphQLTokens.CommandLine.Host
import GraphQLTokens.CommandLine.Path
import GraphQLTokens.Source.Lines

namespace GraphQLTokens

inductive Node where
  | directory
  | file (bytes : ByteArray)

abbrev Location := List Text

/-- A machine that is a value. Paths are resolved as on a system without links. -/
structure FileTree where
  node? : Location → Option Node
  workingDirectory : Location
  input : ByteArray
  printed : Text
  complained : Text

def nameLimit : Nat := 255

def pathLimit : Nat := 4095

namespace FileTree

def set (t : FileTree) (location : Location) (node : Node) : FileTree :=
  { t with node? := fun other => if other = location then some node else t.node? other }

def isDirectoryAt (t : FileTree) (location : Location) : Bool :=
  match t.node? location with
  | some .directory => true
  | _ => false

def base (t : FileTree) (path : Text) : Location :=
  if isAbsolute path then [] else t.workingDirectory

def enter (t : FileTree) (here : Location) (name : Text) : Except FileError Location :=
  if !t.isDirectoryAt here then .error .notDirectory
  else if name = hereName then .ok here
  else if name = parentName then .ok here.dropLast
  else if nameLimit < byteSize name then .error .nameTooLong
  else if (t.node? (here ++ [name])).isSome then .ok (here ++ [name])
  else .error .notFound

def walk (t : FileTree) (start : Location) (names : List Text) : Except FileError Location :=
  names.foldlM t.enter start

def lookUp (t : FileTree) (path : Text) : Except FileError Node := do
  if path.isEmpty then throw .notFound
  if pathLimit < byteSize path then throw .nameTooLong
  let location ← t.walk (t.base path) (pathNames path)
  match t.node? location with
  | some .directory => return .directory
  | some (.file bytes) => if endsInSlash path then throw .notDirectory else return .file bytes
  | none => throw .notFound

def leadsToDirectory (t : FileTree) (path : Text) : Bool :=
  match t.lookUp path with
  | .ok .directory => true
  | _ => false

def read (t : FileTree) (path : Text) : Except FileError ByteArray := do
  match (← t.lookUp path) with
  | .directory => throw .isDirectory
  | .file bytes => return bytes

/-- The directory in which something new of the given names would be, and its name there, unless the
last name is one that nothing new can have. -/
def place (t : FileTree) (start : Location) (names : List Text) :
    Except FileError (Location × Option Text) := do
  let here ← t.walk start names.dropLast
  if !t.isDirectoryAt here then throw .notDirectory
  let name := names.getLastD hereName
  return (here, if name = hereName || name = parentName then none else some name)

def createDirectory (t : FileTree) (path : Text) : Except FileError FileTree := do
  if path.isEmpty then throw .notFound
  if pathLimit < byteSize path then throw .nameTooLong
  match (← t.place (t.base path) (pathNames path)) with
  | (_, none) => throw .alreadyExists
  | (here, some name) =>
    if nameLimit < byteSize name then throw .nameTooLong
    if (t.node? (here ++ [name])).isSome then throw .alreadyExists
    return t.set (here ++ [name]) .directory

/-- Where a file at the path is or would be. A path that ends in a slash is taken to lead to a directory,
whatever its last name is. -/
def filePlace (t : FileTree) (path : Text) : Except FileError Location := do
  if path.isEmpty then throw .notFound
  if pathLimit < byteSize path then throw .nameTooLong
  match (← t.place (t.base path) (pathNames path)) with
  | (_, none) => throw .isDirectory
  | (here, some name) =>
    if endsInSlash path then throw .isDirectory
    if nameLimit < byteSize name then throw .nameTooLong
    if t.isDirectoryAt (here ++ [name]) then throw .isDirectory
    return here ++ [name]

def write (t : FileTree) (location : Location) (bytes : ByteArray) : Except FileError FileTree :=
  match t.node? location with
  | some (.file written) => .ok (t.set location (.file (written ++ bytes)))
  | _ => .error (.other "Bad file descriptor (os error 9)".toList)

def update (change : FileTree → Except FileError FileTree) :
    StateM FileTree (Except FileError Unit) :=
  fun t =>
    match change t with
    | .ok t => (.ok (), t)
    | .error e => (.error e, t)

end FileTree

instance : Host (StateM FileTree) where
  Handle := Location
  pathExists path := fun t => ((t.lookUp path).toBool, t)
  isDirectory path := fun t => (t.leadsToDirectory path, t)
  createDirectory path := FileTree.update (·.createDirectory path)
  readFile path := fun t => (t.read path, t)
  createFile path := fun t =>
    match t.filePlace path with
    | .ok location => (.ok location, t.set location (.file .empty))
    | .error e => (.error e, t)
  write location bytes := FileTree.update (·.write location bytes)
  readInput := fun t => (t.input, t)
  print text := fun t => ((), { t with printed := t.printed ++ text })
  printError text := fun t => ((), { t with complained := t.complained ++ text })

end GraphQLTokens
