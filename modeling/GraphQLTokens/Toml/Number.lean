import GraphQLTokens.Toml.Value
import GraphQLTokens.Toml.Quoted

namespace GraphQLTokens.Toml

def moreDigits? (p : Char → Bool) : Text → Option (Text × Text)
  | [] => some ([], [])
  | '_' :: d :: rest =>
    if p d then (moreDigits? p rest).map fun (ds, after) => (d :: ds, after) else none
  | '_' :: [] => none
  | d :: rest =>
    if p d then (moreDigits? p rest).map fun (ds, after) => (d :: ds, after)
    else some ([], d :: rest)

def digits? (p : Char → Bool) : Text → Option (Text × Text)
  | [] => none
  | d :: rest =>
    if p d then (moreDigits? p rest).map fun (ds, after) => (d :: ds, after) else none

def sign (t : Text) : Bool × Text :=
  match t with
  | '+' :: rest => (false, rest)
  | '-' :: rest => (true, rest)
  | _ => (false, t)

def decimalDigits? : Text → Option (Text × Text)
  | '0' :: rest => some (['0'], rest)
  | t => digits? isDigit t

def integerValue? (n : Int) : Option Value :=
  if -0x8000000000000000 ≤ n && n < 0x8000000000000000 then some (.integer n) else none

def radixInteger? (base : Nat) (t : Text) : Option (Value × Text) := do
  let (ds, rest) ← digits? (fun c => (hexValue? c).any (· < base)) t
  let n := ds.foldl (fun n d => base * n + (hexValue? d).getD 0) 0
  let value ← integerValue? n
  some (value, rest)

def integer? (t : Text) : Option (Value × Text) :=
  match t with
  | '0' :: 'x' :: rest => radixInteger? 16 rest
  | '0' :: 'o' :: rest => radixInteger? 8 rest
  | '0' :: 'b' :: rest => radixInteger? 2 rest
  | _ => do
    let (negative, rest) := sign t
    let (ds, rest) ← decimalDigits? rest
    let n : Int := decimalValue ds
    let value ← integerValue? (if negative then -n else n)
    some (value, rest)

/-- Whether `digits` times `10 ^ exponent` rounds to no finite double: it is at least halfway from
the greatest one to `2 ^ 1024`. Numbers far from that are told by their length. -/
def overflows (digits : Text) (exponent : Int) : Bool :=
  let significant := digits.dropWhile (· == '0')
  let size := significant.length + exponent
  let bound := Nat.pow 2 1024 - Nat.pow 2 970
  if significant.isEmpty || size < 300 then false
  else if 320 < size then true
  else if 0 ≤ exponent then bound ≤ decimalValue significant * Nat.pow 10 exponent.toNat
  else bound * Nat.pow 10 (-exponent).toNat ≤ decimalValue significant

def exponent? : Text → Option (Int × Text)
  | [] => none
  | mark :: rest =>
    if mark == 'e' || mark == 'E' then do
      let (negative, rest) := sign rest
      let (ds, rest) ← digits? isDigit rest
      let n : Int := decimalValue ds
      some (if negative then -n else n, rest)
    else none

def fraction? : Text → Option (Text × Text)
  | '.' :: rest => digits? isDigit rest
  | _ => none

def decimalFloat? (t : Text) : Option Text := do
  let (negative, rest) := sign t
  let (integer, rest) ← decimalDigits? rest
  let (fraction, rest, pointed) :=
    match fraction? rest with
    | some (fraction, rest) => (fraction, rest, true)
    | none => ([], rest, false)
  let (exponent, rest) ←
    match exponent? rest with
    | some found => some found
    | none => if pointed then some (0, rest) else none
  if !negative && overflows (integer ++ fraction) (exponent - fraction.length) then none
  else some rest

def specialFloat? (t : Text) : Option Text :=
  match (sign t).2 with
  | 'i' :: 'n' :: 'f' :: rest => some rest
  | 'n' :: 'a' :: 'n' :: rest => some rest
  | _ => none

def float? (t : Text) : Option (Value × Text) := do
  let rest ← (decimalFloat? t).orElse fun _ => specialFloat? t
  some (.float (t.take (t.length - rest.length)), rest)

end GraphQLTokens.Toml
