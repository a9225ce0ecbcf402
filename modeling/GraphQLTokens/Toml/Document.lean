import GraphQLTokens.Toml.Moment
import GraphQLTokens.Toml.Number
import GraphQLTokens.Toml.Table

/-! TOML documents, version 1.0 of the language. -/

namespace GraphQLTokens.Toml

def commaSeparated {α : Type} (item : Text → Option (α × Text)) (t : Text) :
    Option (List α × Text) :=
  match item t with
  | none => none
  | some (first, ',' :: rest) =>
    if rest.length < t.length then
      match commaSeparated item rest with
      | some (more, rest) => some (first :: more, rest)
      | none => some ([first], ',' :: rest)
    else none
  | some (first, rest) => some ([first], rest)
termination_by t.length

def spacedItem (value : Text → Option (Value × Text)) (t : Text) : Option (Value × Text) := do
  let t ← skipLines t
  let (item, t) ← value t
  let t ← skipLines t
  some (item, t)

def arrayAfter (value : Text → Option (Value × Text)) (t : Text) : Option (Value × Text) := do
  let (items, t) :=
    match commaSeparated (spacedItem value) t with
    | some (items, ',' :: t) => (items, t)
    | some (items, t) => (items, t)
    | none => ([], t)
  match (← skipLines t) with
  | ']' :: t => some (.array items, t)
  | _ => none

def pair (value : Text → Option (Value × Text)) (t : Text) :
    Option ((List Text × Value) × Text) := do
  let (parts, t) ← key? t
  match t with
  | '=' :: t =>
    let (v, t) ← value (skipBlanks t)
    some ((parts, v), skipBlanks t)
  | _ => none

def inlineTableAfter (value : Text → Option (Value × Text)) (t : Text) :
    Option (Value × Text) := do
  let (pairs, t) := (commaSeparated (pair value) t).getD ([], t)
  match skipBlanks t with
  | '}' :: t =>
    let table ← inlineTable? pairs
    some (table, t)
  | _ => none

def scalar? (t : Text) : Option (Value × Text) :=
  match t with
  | 't' :: 'r' :: 'u' :: 'e' :: rest => some (.boolean true, rest)
  | 'f' :: 'a' :: 'l' :: 's' :: 'e' :: rest => some (.boolean false, rest)
  | _ =>
    ((string? t).map fun (s, rest) => (.string s, rest)) <|> moment? t <|> float? t <|> integer? t

def value? : Nat → Text → Option (Value × Text)
  | 0, '[' :: _ => none
  | 0, '{' :: _ => none
  | depth + 1, '[' :: t => arrayAfter (value? depth) t
  | depth + 1, '{' :: t => inlineTableAfter (value? depth) t
  | _, t => scalar? t

inductive Statement where
  | pair (key : List Text) (value : Value)
  | table (key : List Text)
  | element (key : List Text)

def line? (t : Text) : Option (Option Statement × Text) :=
  match t with
  | '#' :: _ => (lineEnd? t).map (none, ·)
  | '\n' :: _ => (newline? t).map (none, ·)
  | '\r' :: _ => (newline? t).map (none, ·)
  | '[' :: '[' :: t => do
    let (key, t) ← key? t
    match t with
    | ']' :: ']' :: t => (lineEnd? t).map (some (.element key), ·)
    | _ => none
  | '[' :: t => do
    let (key, t) ← key? t
    match t with
    | ']' :: t => (lineEnd? t).map (some (.table key), ·)
    | _ => none
  | _ => do
    let ((key, v), t) ← pair (value? depthLimit) t
    (lineEnd? t).map (some (.pair key v), ·)

def statements? (t : Text) : Option (List Statement) :=
  match skipBlanks t with
  | [] => some []
  | u =>
    match line? u with
    | some (found, rest) =>
      if rest.length < t.length then (statements? rest).map (found.toList ++ ·) else none
    | none => none
termination_by t.length

structure Draft where
  header : List Text
  root : Entries

namespace Draft

def add (d : Draft) : Statement → Option Draft
  | .pair key value => do
    let root ← alter .implied (define (splitKey key).1 (splitKey key).2 value) d.header .header
      d.root
    some { d with root := root }
  | .table key => do
    let root ← alter .implied (fun _ => openTable (splitKey key).2) (splitKey key).1 .header d.root
    some ⟨key, root⟩
  | .element key => do
    let root ← alter .implied (fun _ => openElement (splitKey key).2) (splitKey key).1 .header
      d.root
    some ⟨key, root⟩

end Draft

def withoutMark : Text → Text
  | c :: t => if c.toNat = 0xFEFF then t else c :: t
  | [] => []

def document? (t : Text) : Option Entries := do
  let statements ← statements? (withoutMark t)
  let draft ← statements.foldlM Draft.add ⟨[], []⟩
  some draft.root

end GraphQLTokens.Toml
