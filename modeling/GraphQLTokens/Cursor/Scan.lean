import GraphQLTokens.Cursor.Basic
import GraphQLTokens.Lexer.Recognizer

namespace GraphQLTokens

/-- A program on a cursor that may fail. Where it fails the cursor stays wherever it has got to, unless the
program is an attempt. -/
abbrev Scan := OptionT (StateM Cursor)

namespace Scan

variable {α : Type}

def on (scan : Scan α) (c : Cursor) : Option α × Cursor :=
  scan.run.run c

def position : Scan Nat :=
  OptionT.lift fun c => (c.position, c)

def startsWith (t : Text) : Scan Bool :=
  OptionT.lift fun c => (c.startsWith t, c)

def eat (x : Char) : Scan Bool :=
  OptionT.lift (Cursor.eat x)

def eatIf (p : Char → Bool) : Scan Char :=
  OptionT.mk (Cursor.eatIf p)

def eatWhile (p : Char → Bool) : Scan Nat :=
  OptionT.lift (Cursor.eatWhile p)

def advanceMany (n : Nat) : Scan Nat :=
  OptionT.lift fun c => c.advanceMany n

def textFrom (start : Nat) : Scan Text :=
  OptionT.mk fun c => (c.sliceFrom? start, c)

def attempt (body : Scan α) : Scan α :=
  OptionT.mk fun c =>
    match body.on c with
    | (some a, c') => (some a, c')
    | (none, c') => (none, c'.restore c.snapshot)

def optionally (scan : Scan α) : Scan Bool :=
  OptionT.lift fun c => ((scan.on c).1.isSome, (scan.on c).2)

def ellipsis : Scan TokenKind :=
  attempt do
    guard (← eat '.')
    guard (← eat '.')
    guard (← eat '.')
    return .punctuator .ellipsis

def punctuator : Scan TokenKind := do
  let x ← OptionT.mk fun c => (c.peek, c)
  if x = '.' then ellipsis
  else
    match Punctuator.all.find? (·.text == [x]) with
    | some p =>
      let _ ← advanceMany 1
      return .punctuator p
    | none => failure

def identifier : Scan TokenKind := do
  let start ← position
  let _ ← eatIf isNameStart
  let _ ← eatWhile isNameContinue
  return .identifier (← textFrom start)

def magnitude : Scan Unit := do
  if ← eat '0' then return ()
  else
    let _ ← eatIf isNonzeroDigit
    let _ ← eatWhile isDigit
    return ()

def integerPart : Scan Unit :=
  attempt do
    let _ ← eat '-'
    magnitude

def digits : Scan Unit := do
  guard (0 < (← eatWhile isDigit))

def fractionalPart : Scan Unit :=
  attempt do
    guard (← eat '.')
    digits

def exponentPart : Scan Unit :=
  attempt do
    let _ ← eatIf isExponentMark
    let _ ← optionally (eatIf isSign)
    digits

def float : Scan TokenKind :=
  attempt do
    let start ← position
    integerPart
    let fraction ← optionally fractionalPart
    let exponent ← optionally exponentPart
    guard (fraction || exponent)
    return .float (← textFrom start)

def int : Scan TokenKind := do
  let start ← position
  integerPart
  return .int (← textFrom start)

def toBlockQuote (c : Cursor) : Option Unit × Cursor :=
  if c.startsWith Quotation.block.delimiter then (some (), c)
  else if c.isAtEnd then (none, c)
  else toBlockQuote (c.moveBy 1)
termination_by c.source.length - c.position
decreasing_by
  simp_all [Cursor.isAtEnd, Cursor.moveBy]
  omega

def blockString : Scan TokenKind :=
  attempt do
    guard (← startsWith Quotation.block.delimiter)
    let _ ← advanceMany Quotation.block.delimiter.length
    let start ← position
    OptionT.mk toBlockQuote
    let body ← textFrom start
    let _ ← advanceMany Quotation.block.delimiter.length
    return .string .block body

def singleString : Scan TokenKind :=
  attempt do
    guard (← eat '"')
    let start ← position
    let _ ← eatWhile isStringScalar
    let body ← textFrom start
    guard (← eat '"')
    return .string .single body

end Scan

def Recognizer.scan : Recognizer → Scan TokenKind
  | .punctuator => Scan.punctuator
  | .identifier => Scan.identifier
  | .float => Scan.float
  | .int => Scan.int
  | .string => Scan.blockString <|> Scan.singleString

def Cursor.recognize (r : Recognizer) (c : Cursor) : Option TokenKind × Cursor :=
  r.scan.on c

end GraphQLTokens
