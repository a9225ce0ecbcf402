import GraphQLTokens.Toml.Blank
import GraphQLTokens.Toml.Value

/-! TOML strings: basic ones, in which a backslash escapes, and literal ones, each on one line or
between three quotes. Each reader starts after the opening quotes and answers with the content and
the text after the closing quotes. -/

namespace GraphQLTokens.Toml

def hexValue? (c : Char) : Option Nat :=
  if isDigit c then some (c.toNat - '0'.toNat)
  else if 'a' ≤ c && c ≤ 'f' then some (c.toNat - 'a'.toNat + 10)
  else if 'A' ≤ c && c ≤ 'F' then some (c.toNat - 'A'.toNat + 10)
  else none

def numberedScalar? (digits : Nat) (t : Text) : Option Char := do
  let values ← (t.take digits).mapM hexValue?
  let code := values.foldl (fun code value => 16 * code + value) 0
  if values.length = digits && decide code.isValidChar then some (Char.ofNat code) else none

def escape? : Text → Option (Char × Nat)
  | 'b' :: _ => some ('\x08', 1)
  | 't' :: _ => some ('\t', 1)
  | 'n' :: _ => some ('\n', 1)
  | 'f' :: _ => some ('\x0c', 1)
  | 'r' :: _ => some ('\r', 1)
  | '"' :: _ => some ('"', 1)
  | '\\' :: _ => some ('\\', 1)
  | 'u' :: rest => (numberedScalar? 4 rest).map fun c => (c, 5)
  | 'U' :: rest => (numberedScalar? 8 rest).map fun c => (c, 9)
  | _ => none

def basicLine? : Text → Option (Text × Text)
  | [] => none
  | '"' :: rest => some ([], rest)
  | '\\' :: rest =>
    match escape? rest with
    | some (c, width) => (basicLine? (rest.drop width)).map fun (body, after) => (c :: body, after)
    | none => none
  | c :: rest =>
    if isControl c then none
    else (basicLine? rest).map fun (body, after) => (c :: body, after)
termination_by t => t.length
decreasing_by all_goals simp; try omega

def isBreakable (c : Char) : Bool :=
  isBlank c || c == '\n'

def skipBreaks : Text → Text
  | [] => []
  | '\r' :: '\n' :: rest => skipBreaks rest
  | c :: rest => if isBreakable c then skipBreaks rest else c :: rest

theorem length_skipBreaks_le (t : Text) : (skipBreaks t).length ≤ t.length := by
  fun_induction skipBreaks t <;> grind

/-- The content that up to two quotes before three closing ones make, if `t` starts with the closing
quotes of a block, and the text after all of them. -/
def blockEnd? (quote : Char) (t : Text) : Option (Text × Text) :=
  let run := min (t.takeWhile (· == quote)).length 5
  if run < 3 then none else some (List.replicate (run - 3) quote, t.drop run)

def basicBlock? (t : Text) : Option (Text × Text) :=
  match blockEnd? '"' t with
  | some closing => some closing
  | none =>
    match t with
    | [] => none
    | '\\' :: rest =>
      if (newline? (skipBlanks rest)).isSome then basicBlock? (skipBreaks rest)
      else
        match escape? rest with
        | some (c, width) =>
          (basicBlock? (rest.drop width)).map fun (body, after) => (c :: body, after)
        | none => none
    | '\r' :: '\n' :: rest => (basicBlock? rest).map fun (body, after) => ('\n' :: body, after)
    | c :: rest =>
      if isControl c && c != '\n' then none
      else (basicBlock? rest).map fun (body, after) => (c :: body, after)
termination_by t.length
decreasing_by
  all_goals
    have := length_skipBreaks_le rest
    simp
    try omega

def literalLine? (t : Text) : Option (Text × Text) :=
  match t.dropWhile fun c => c != '\x27' && !isControl c with
  | '\x27' :: after => some (t.takeWhile fun c => c != '\x27' && !isControl c, after)
  | _ => none

def literalBlock? (t : Text) : Option (Text × Text) :=
  match blockEnd? '\x27' t with
  | some closing => some closing
  | none =>
    match t with
    | [] => none
    | '\r' :: '\n' :: rest => (literalBlock? rest).map fun (body, after) => ('\n' :: body, after)
    | c :: rest =>
      if isControl c && c != '\n' then none
      else (literalBlock? rest).map fun (body, after) => (c :: body, after)
termination_by t.length
decreasing_by all_goals simp; try omega

def blockStart (t : Text) : Text :=
  (newline? t).getD t

def string? : Text → Option (Text × Text)
  | '"' :: '"' :: '"' :: rest => basicBlock? (blockStart rest)
  | '"' :: rest => basicLine? rest
  | '\x27' :: '\x27' :: '\x27' :: rest => literalBlock? (blockStart rest)
  | '\x27' :: rest => literalLine? rest
  | _ => none

def isBare (c : Char) : Bool :=
  c.isAlphanum || c == '-' || c == '_'

def keyPart? : Text → Option (Text × Text)
  | '"' :: rest => basicLine? rest
  | '\x27' :: rest => literalLine? rest
  | t =>
    if (t.takeWhile isBare).isEmpty then none
    else some (t.takeWhile isBare, t.dropWhile isBare)

def dottedKey? : Nat → Text → Option (List Text × Text)
  | 0, _ => none
  | parts + 1, t => do
    let (part, rest) ← keyPart? (skipBlanks t)
    match skipBlanks rest with
    | '.' :: rest =>
      let (more, rest) ← dottedKey? parts rest
      some (part :: more, rest)
    | rest => some ([part], rest)

def key? (t : Text) : Option (List Text × Text) :=
  dottedKey? depthLimit t

end GraphQLTokens.Toml
