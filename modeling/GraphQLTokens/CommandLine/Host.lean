import GraphQLTokens.Text.Basic

namespace GraphQLTokens

inductive FileError where
  | notFound
  | permissionDenied
  | alreadyExists
  | notDirectory
  | isDirectory
  | nameTooLong
  | invalidText
  | other (message : Text)
  deriving DecidableEq, Repr

def FileError.message : FileError → Text
  | .notFound => "No such file or directory (os error 2)".toList
  | .permissionDenied => "Permission denied (os error 13)".toList
  | .alreadyExists => "File exists (os error 17)".toList
  | .notDirectory => "Not a directory (os error 20)".toList
  | .isDirectory => "Is a directory (os error 21)".toList
  | .nameTooLong => "File name too long (os error 36)".toList
  | .invalidText => "stream did not contain valid UTF-8".toList
  | .other message => message

def textOfBytes? (bytes : ByteArray) : Option Text :=
  (String.fromUTF8? bytes).map String.toList

def bytesOfText (t : Text) : ByteArray :=
  (String.ofList t).toUTF8

/-- A machine with files, a standard input and two outputs. Printing to these does not fail. -/
class Host (m : Type → Type) where
  Handle : Type
  pathExists : Text → m Bool
  isDirectory : Text → m Bool
  createDirectory : Text → m (Except FileError Unit)
  readFile : Text → m (Except FileError ByteArray)
  /-- Opens a file for writing. It is new, or empty from then on. -/
  createFile : Text → m (Except FileError Handle)
  write : Handle → ByteArray → m (Except FileError Unit)
  readInput : m ByteArray
  print : Text → m Unit
  printError : Text → m Unit

end GraphQLTokens
