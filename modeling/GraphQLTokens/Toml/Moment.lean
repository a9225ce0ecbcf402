import GraphQLTokens.Toml.Blank
import GraphQLTokens.Toml.Value

namespace GraphQLTokens.Toml

def field? (width low high : Nat) (t : Text) : Option (Nat × Text) :=
  let ds := t.take width
  if ds.length = width && ds.all isDigit && low ≤ decimalValue ds && decimalValue ds ≤ high then
    some (decimalValue ds, t.drop width)
  else none

def mark? (mark : Char) : Text → Option Text
  | [] => none
  | c :: rest => if c = mark then some rest else none

def isLeapYear (year : Nat) : Bool :=
  year % 4 == 0 && (year % 100 != 0 || year % 400 == 0)

def daysIn (year month : Nat) : Nat :=
  if month = 2 then if isLeapYear year then 29 else 28
  else if [4, 6, 9, 11].contains month then 30
  else 31

def date? (t : Text) : Option Text := do
  let (year, t) ← field? 4 0 9999 t
  let t ← mark? '-' t
  let (month, t) ← field? 2 1 12 t
  let t ← mark? '-' t
  let (_, t) ← field? 2 1 (daysIn year month) t
  some t

def secondFraction? : Text → Option Text
  | '.' :: d :: rest => if isDigit d then some (rest.dropWhile isDigit) else none
  | _ => none

/-- A time of day. The second 60 is a leap second. -/
def time? (t : Text) : Option Text := do
  let (_, t) ← field? 2 0 23 t
  let t ← mark? ':' t
  let (_, t) ← field? 2 0 59 t
  let t ← mark? ':' t
  let (_, t) ← field? 2 0 60 t
  some ((secondFraction? t).getD t)

def offset? : Text → Option Text
  | [] => none
  | c :: t =>
    if c == 'Z' || c == 'z' then some t
    else if c == '+' || c == '-' then do
      let (_, t) ← field? 2 0 23 t
      let t ← mark? ':' t
      let (_, t) ← field? 2 0 59 t
      some t
    else none

def separatedTime? : Text → Option Text
  | [] => none
  | c :: t =>
    if c == 'T' || c == 't' || c == ' ' then
      (time? t).map fun t => (offset? t).getD t
    else none

def moment? (t : Text) : Option (Value × Text) :=
  let rest? :=
    match date? t with
    | some rest => some ((separatedTime? rest).getD rest)
    | none => time? t
  rest?.map fun rest => (.moment (t.take (t.length - rest.length)), rest)

end GraphQLTokens.Toml
