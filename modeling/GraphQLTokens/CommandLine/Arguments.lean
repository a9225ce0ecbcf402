import GraphQLTokens.Listing.Format

namespace GraphQLTokens

inductive Command where
  | tokens
  | check
  | position
  | config
  deriving DecidableEq, Repr

inductive Flag where
  | verbose
  | noColor
  | trivia
  | help
  | version
  deriving DecidableEq, Repr

inductive Setting where
  | config
  | format
  | write
  deriving DecidableEq, Repr

inductive Operand where
  | input
  | index
  deriving DecidableEq, Repr

structure OptionName where
  long : Text
  short : Option Char

namespace Command

def all : List Command :=
  [.tokens, .check, .position, .config]

def name : Command → Text
  | .tokens => "tokens".toList
  | .check => "check".toList
  | .position => "position".toList
  | .config => "config".toList

def ofName? (t : Text) : Option Command :=
  all.find? (·.name == t)

def operands : Command → List Operand
  | .tokens => [.input]
  | .check => [.input]
  | .position => [.input, .index]
  | .config => []

end Command

def flagsOf (command : Option Command) : List (OptionName × Flag) :=
  [(⟨"verbose".toList, some 'v'⟩, .verbose), (⟨"no-color".toList, none⟩, .noColor),
    (⟨"help".toList, some 'h'⟩, .help), (⟨"version".toList, some 'V'⟩, .version)] ++
    if command = some .tokens then [(⟨"trivia".toList, some 't'⟩, .trivia)] else []

def settingsOf (command : Option Command) : List (OptionName × Setting) :=
  (⟨"config".toList, some 'c'⟩, .config) ::
    match command with
    | some .tokens => [(⟨"format".toList, some 'F'⟩, .format)]
    | some .config => [(⟨"write".toList, some 'w'⟩, .write)]
    | _ => []

def index? (t : Text) : Option Nat :=
  let digits := match t with
    | '+' :: rest => rest
    | _ => t
  if !digits.isEmpty && digits.all isDigit && decimalValue digits < indexLimit then
    some (decimalValue digits)
  else none

def Setting.accepts : Setting → Text → Bool
  | .config, t => !t.isEmpty
  | .format, t => (Format.ofName? t).isSome
  | .write, t => !t.isEmpty

def Operand.accepts : Operand → Text → Bool
  | .input, t => !t.isEmpty
  | .index, t => (index? t).isSome

inductive Interruption where
  | misuse
  | help (command : Option Command)
  | version (command : Option Command)
  deriving DecidableEq, Repr

/-- An argument that is read, but not yet accepted: that happens when the next one is read. -/
inductive Pending where
  | nothing
  | setting (s : Setting) (value : Option Text)
  | operand (o : Operand) (value : Text)
  deriving DecidableEq, Repr

structure Given where
  command : Option Command
  flags : List Flag
  settings : List (Setting × Text)
  operands : List Text
  pending : Pending
  operandsOnly : Bool
  deriving DecidableEq, Repr

namespace Given

def start (command : Option Command) : Given :=
  ⟨command, [], [], [], .nothing, false⟩

def set (g : Given) (s : Setting) (value : Text) : Except Interruption Given :=
  if (g.settings.lookup s).isSome || !s.accepts value then .error .misuse
  else .ok { g with settings := g.settings ++ [(s, value)], pending := .nothing }

def settle (g : Given) : Except Interruption Given :=
  match g.pending with
  | .nothing => .ok g
  | .setting _ none => .error .misuse
  | .setting s (some value) => g.set s value
  | .operand o value =>
    if o.accepts value then .ok { g with operands := g.operands ++ [value], pending := .nothing }
    else .error .misuse

def raise (g : Given) (f : Flag) : Except Interruption Given := do
  let g ← g.settle
  match f with
  | .help => .error (.help g.command)
  | .version => .error (.version g.command)
  | _ => if g.flags.contains f then .error .misuse else .ok { g with flags := g.flags ++ [f] }

def begin (g : Given) (s : Setting) (value : Option Text) : Except Interruption Given := do
  let g ← g.settle
  match value with
  | some value => g.set s value
  | none => .ok { g with pending := .setting s none }

def long (g : Given) (t : Text) : Except Interruption Given :=
  let name := t.takeWhile (· != '=')
  let value := match t.dropWhile (· != '=') with
    | [] => none
    | _ :: value => some value
  match (flagsOf g.command).find? (·.1.long == name) with
  | some (_, f) => if value.isSome then .error .misuse else g.raise f
  | none =>
    match (settingsOf g.command).find? (·.1.long == name) with
    | some (_, s) => g.begin s value
    | none => .error .misuse

def short (g : Given) : Text → Except Interruption Given
  | [] => .ok g
  | c :: rest =>
    match (flagsOf g.command).find? (·.1.short == some c) with
    | some (_, f) => do
      let g ← g.raise f
      g.short rest
    | none =>
      match (settingsOf g.command).find? (·.1.short == some c) with
      | some (_, s) =>
        match rest with
        | [] => g.begin s none
        | '=' :: value => g.begin s (some value)
        | value => g.begin s (some value)
      | none => .error .misuse

def operand (g : Given) (t : Text) : Except Interruption Given := do
  let g ← g.settle
  match ((g.command.map Command.operands).getD [])[g.operands.length]? with
  | some o => .ok { g with pending := .operand o t }
  | none => .error .misuse

def argument (g : Given) (t : Text) : Except Interruption Given :=
  if g.operandsOnly then g.operand t
  else
    match t with
    | ['-', '-'] => .ok { g with operandsOnly := true }
    | '-' :: '-' :: rest => g.long rest
    | '-' :: c :: rest => g.short (c :: rest)
    | _ =>
      match g.pending with
      | .setting s none => .ok { g with pending := .setting s (some t) }
      | _ => g.operand t

end Given

abbrev Environment := String → Option Text

def truth? (t : Text) : Option Bool :=
  if t = "true".toList then some true else if t = "false".toList then some false else none

def Given.admits (g : Given) (env : Environment) : Bool :=
  (g.flags.contains .verbose || (env "GQLT_VERBOSE").all fun t => (truth? t).isSome) &&
    (g.flags.contains .noColor || (env "GQLT_NO_COLOR").all fun t => (truth? t).isSome) &&
    ((g.settings.lookup .config).isSome || (env "GQLT_CONFIG").all Setting.config.accepts)

def Given.finish (g : Given) (env : Environment) : Except Interruption Given := do
  let g ← g.settle
  let wanted := ((g.command.map Command.operands).getD []).length
  if g.admits env && g.operands.length = wanted then .ok g else .error .misuse

def helpOn : List Text → Interruption
  | [] => .help none
  | [t] =>
    if t = "help".toList then .help none
    else ((Command.ofName? t).map fun c => .help (some c)).getD .misuse
  | _ => .misuse

structure Invocation where
  before : Given
  command : Command
  after : Given

def readArguments (env : Environment) (before : Given) :
    List Text → Except Interruption Invocation
  | [] => .error .misuse
  | t :: rest =>
    let isValue := match before.pending with
      | .setting _ none => true
      | _ => false
    if before.operandsOnly || isValue then do
      let before ← before.argument t
      readArguments env before rest
    else
      match Command.ofName? t with
      | some command => do
        let after ← rest.foldlM Given.argument (Given.start (some command))
        let after ← after.finish env
        let before ← before.finish env
        .ok ⟨before, command, after⟩
      | none =>
        if t = "help".toList then .error (helpOn rest)
        else do
          let before ← before.argument t
          readArguments env before rest

namespace Invocation

/-- A setting or flag after the command counts before one in front of it, and the environment comes
last. -/
def configPath (i : Invocation) (env : Environment) : Option Text :=
  i.after.settings.lookup .config <|> i.before.settings.lookup .config <|> env "GQLT_CONFIG"

def noColor (i : Invocation) (env : Environment) : Bool :=
  i.after.flags.contains .noColor || i.before.flags.contains .noColor ||
    ((env "GQLT_NO_COLOR").bind truth?).getD false

def trivia (i : Invocation) : Bool :=
  i.after.flags.contains .trivia

def format (i : Invocation) : Option Format :=
  (i.after.settings.lookup .format).bind Format.ofName?

def writePath (i : Invocation) : Option Text :=
  i.after.settings.lookup .write

def input (i : Invocation) : Text :=
  i.after.operands.getD 0 []

def index (i : Invocation) : Nat :=
  ((i.after.operands[1]?).bind index?).getD 0

end Invocation

def invocation? (env : Environment) (arguments : List Text) : Except Interruption Invocation :=
  readArguments env (Given.start none) arguments

end GraphQLTokens
