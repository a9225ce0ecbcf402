import GraphQLTokens.CommandLine.Run

namespace GraphQLTokens

/-- The number of a system error. Some operations give it negated. -/
def errorNumber (code : UInt32) : Nat :=
  if code.toNat < 0x80000000 then code.toNat else 0x100000000 - code.toNat

def otherFileError (code : UInt32) (details : String) : FileError :=
  .other (details.toList ++ " (os error ".toList ++ decimal (errorNumber code) ++ ")".toList)

def fileError : IO.Error → FileError
  | .noFileOrDirectory .. => .notFound
  | .noSuchThing .. => .notFound
  | .permissionDenied .. => .permissionDenied
  | .alreadyExists .. => .alreadyExists
  | .inappropriateType _ code details =>
    if errorNumber code = 20 then .notDirectory
    else if errorNumber code = 21 then .isDirectory
    else otherFileError code details
  | .invalidArgument _ code details =>
    if errorNumber code = 36 then .nameTooLong else otherFileError code details
  | .resourceExhausted _ code details => otherFileError code details
  | .resourceBusy code details => otherFileError code details
  | .otherError code details => otherFileError code details
  | e => .other (toString e).toList

def attempt {α : Type} (act : IO α) : IO (Except FileError α) := do
  match (← act.toBaseIO) with
  | .ok a => return .ok a
  | .error e => return .error (fileError e)

instance : Host IO where
  Handle := IO.FS.Handle
  pathExists path := do
    return (← attempt (IO.FS.realPath (String.ofList path))).toBool
  isDirectory path := do
    match (← attempt (IO.FS.realPath (String.ofList path))) with
    | .ok real => real.isDir
    | .error _ => return false
  createDirectory path := attempt (IO.FS.createDir (String.ofList path))
  readFile path := attempt (IO.FS.readBinFile (String.ofList path))
  createFile path := attempt (IO.FS.Handle.mk (String.ofList path) .write)
  write handle bytes := attempt do
    handle.write bytes
    handle.flush
  readInput := do (← IO.getStdin).readBinToEnd
  print text := do (← IO.getStdout).putStr (String.ofList text)
  printError text := do (← IO.getStderr).putStr (String.ofList text)

def variableNames : List String :=
  ["GQLT_VERBOSE", "GQLT_NO_COLOR", "GQLT_CONFIG", "HOME", "XDG_CONFIG_HOME"]

def readEnvironment : IO Environment := do
  let values ← variableNames.mapM fun v => do return (v, (← IO.getEnv v).map String.toList)
  return fun v => (values.lookup v).join

end GraphQLTokens

open GraphQLTokens

def main (arguments : List String) : IO UInt32 := do
  let status ← run (m := IO) (← readEnvironment) (arguments.map String.toList)
  return status.toUInt32
