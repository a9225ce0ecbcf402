import GraphQLTokens.Check
import GraphQLTokens.CommandLine.Arguments
import GraphQLTokens.CommandLine.Host
import GraphQLTokens.CommandLine.Path
import GraphQLTokens.Config.Reader

namespace GraphQLTokens

inductive Failure where
  | configMissing (path : Text)
  | configMalformed
  | file (error : FileError)
  | document (path : Text) (error : FileError)
  | lexical (name : Text) (errors : Nat)
  | source (error : SourceError)
  | overflow
  deriving DecidableEq, Repr

def Failure.message : Failure → Text
  | .configMissing path =>
    "Configuration error: Configuration file not found: ".toList ++ path
  | .configMalformed => "Failed to parse configuration: not a document of settings".toList
  | .file error => "IO error: ".toList ++ error.message
  | .document path error => "IO error: ".toList ++ path ++ ": ".toList ++ error.message
  | .lexical name errors =>
    "Lexical error: ".toList ++ name ++ ": ".toList ++ decimal errors ++ " error(s)".toList
  | .source error => "Source error: ".toList ++ error.message
  | .overflow => "attempt to add with overflow".toList

def Failure.status : Failure → Nat
  | .overflow => 101
  | _ => 1

def programName : Text :=
  "gqlt".toList

def usage : Option Command → Text
  | none => "Usage: ".toList ++ programName ++ " [OPTIONS] <COMMAND>\n".toList
  | some command =>
    "Usage: ".toList ++ programName ++ ' ' :: command.name ++ " [OPTIONS]".toList ++
      command.operands.flatMap (fun
        | .input => " <INPUT>".toList
        | .index => " <INDEX>".toList) ++ "\n".toList

def helpText (command : Option Command) : Text :=
  usage command ++
    (if command.isNone then
      "\nCommands:\n".toList ++
        Command.all.flatMap (fun c => "  ".toList ++ c.name ++ "\n".toList)
    else []) ++
    "\nOptions:\n".toList ++
    (flagsOf command).flatMap (fun (name, _) => "  --".toList ++ name.long ++ "\n".toList) ++
    (settingsOf command).flatMap
      (fun (name, _) => "  --".toList ++ name.long ++ " <VALUE>\n".toList)

def versionText (command : Option Command) : Text :=
  programName ++ ((command.map fun c => '-' :: c.name).getD []) ++ " 0.1.0\n".toList

section

variable {m : Type → Type} [Monad m] [Host m]

def Interruption.answer : Interruption → m Nat
  | .misuse => do
    Host.printError (usage none)
    return 2
  | .help command => do
    Host.print (helpText command)
    return 0
  | .version command => do
    Host.print (versionText command)
    return 0

def configFileName : Text :=
  "gqlt.toml".toList

/-- The places where a configuration is looked for, the first that exists being the one: the working
directory, the home directory, and the directory for configurations, which lies in the home
directory unless it is set to an absolute path. -/
def configPlaces (env : Environment) : List Text :=
  let home := (env "HOME").filter (!·.isEmpty)
  let configHome :=
    (env "XDG_CONFIG_HOME").filter (·.head? == some '/') <|> home.map (· ++ "/.config".toList)
  configFileName ::
    (home.map (· ++ "/.config/gqlt/".toList ++ configFileName)).toList ++
    (configHome.map (· ++ "/gqlt/".toList ++ configFileName)).toList

def firstExisting : List Text → m (Option Text)
  | [] => return none
  | path :: paths => do
    if (← Host.pathExists path) then return some path else firstExisting paths

def readConfig (path : Text) : ExceptT Failure m Config := do
  if !(← (Host.pathExists path : m Bool)) then throw (.configMissing path)
  match (← (Host.readFile path : m (Except FileError ByteArray))) with
  | .error e => throw (.file e)
  | .ok bytes =>
    match textOfBytes? bytes with
    | none => throw (.file .invalidText)
    | some t =>
      match Config.ofText? t with
      | none => throw .configMalformed
      | some config => return config

def effectiveConfig (env : Environment) (path : Option Text) : ExceptT Failure m Config := do
  match path with
  | some path => readConfig path
  | none =>
    match (← (firstExisting (configPlaces env) : m (Option Text))) with
    | some path => readConfig path
    | none => return Config.default

def createDirectory (path : Text) : m (Except FileError Unit) := do
  match (← Host.createDirectory path) with
  | .error .alreadyExists =>
    return if (← Host.isDirectory path) then .ok () else .error .alreadyExists
  | result => return result

/-- Creates the first of the directories. Those after it are the ones around it; they are created
where they are missing. -/
def createDirectories : List Text → m (Except FileError Unit)
  | [] => return .ok ()
  | path :: outer => do
    match (← createDirectory path) with
    | .error .notFound =>
      match (← createDirectories outer) with
      | .ok () => createDirectory path
      | .error e => return .error e
    | result => return result

def writeFile (path : Text) (bytes : ByteArray) : m (Except FileError Unit) := do
  match (← Host.createFile path) with
  | .error e => return .error e
  | .ok handle => Host.write handle bytes

def saveConfig (config : Config) (path : Text) : ExceptT Failure m Unit := do
  match (← (createDirectories (enclosingDirectories path) : m (Except FileError Unit))) with
  | .error e => throw (.file e)
  | .ok () =>
    match (← (writeFile path (bytesOfText config.render) : m (Except FileError Unit))) with
    | .error e => throw (.file e)
    | .ok () => return ()

def readDocument (path : Text) : ExceptT Failure m SourceFile := do
  if path = "-".toList then
    match textOfBytes? (← (Host.readInput : m ByteArray)) with
    | none => throw (.file .invalidText)
    | some t => return SourceFile.ofText "<stdin>".toList t
  else
    match (← (Host.readFile path : m (Except FileError ByteArray))) with
    | .error e => throw (.document path e)
    | .ok bytes =>
      match textOfBytes? bytes with
      | none => throw (.document path .invalidText)
      | some t => return SourceFile.ofText path t

def Verdict.summary (v : Verdict) : Text :=
  if v.warnings = 0 then "ok: ".toList ++ decimal v.tokens ++ " tokens\n".toList
  else
    decimal v.tokens ++ " tokens, ".toList ++ decimal v.warnings ++ " warning(s)\n".toList

def checkDocument (file : SourceFile) (config : Config) (noColor : Bool) : ExceptT Failure m Unit := do
  let level := if config.failOnUnrecognized then .error else .warning
  match check file level (config.color && !noColor) with
  | .error .overflow => throw .overflow
  | .ok (verdict, written) =>
    (Host.printError written : m Unit)
    if 0 < verdict.errors then throw (.lexical file.name verdict.errors)
    (Host.print verdict.summary : m Unit)

def execute (i : Invocation) (env : Environment) (config : Config) : ExceptT Failure m Unit := do
  match i.command with
  | .tokens =>
    let file ← readDocument i.input
    let format := i.format.getD config.format
    (Host.print (listing file format (i.trivia || config.showTrivia)) : m Unit)
  | .check =>
    let file ← readDocument i.input
    checkDocument file config (i.noColor env)
  | .position =>
    let file ← readDocument i.input
    match file.position? i.index with
    | .error e => throw (.source e)
    | .ok position => (Host.print (position.render ++ "\n".toList) : m Unit)
  | .config =>
    match i.writePath with
    | some path =>
      saveConfig config path
      (Host.print ("wrote ".toList ++ path ++ "\n".toList) : m Unit)
    | none => (Host.print config.render : m Unit)

def run (env : Environment) (arguments : List Text) : m Nat := do
  match invocation? env arguments with
  | .error interruption => interruption.answer
  | .ok i =>
    let result ← ExceptT.run do
      let config ← effectiveConfig (m := m) env (i.configPath env)
      execute i env config
    match result with
    | .ok () => return 0
    | .error f =>
      Host.printError ("error: ".toList ++ f.message ++ "\n".toList)
      return f.status

end

end GraphQLTokens
