import GraphQLTokens.Toml.Value

namespace GraphQLTokens.Toml

def find? (key : Text) (entries : Entries) : Option Value :=
  entries.lookup key

def put (key : Text) (value : Value) (entries : Entries) : Entries :=
  entries.filter (·.1 != key) ++ [(key, value)]

/-- Changes the table that `path` leads to. Tables on the way that are missing come to be as
`missing`; an array of tables stands for its last element. A dotted key leads through no table that
has a header, and nothing leads through an inline table. -/
def alter (missing : Standing) (change : Standing → Entries → Option Entries) :
    List Text → Standing → Entries → Option Entries
  | [], standing, entries => change standing entries
  | key :: path, _, entries =>
    match find? key entries with
    | none => do
      let inner ← alter missing change path missing []
      some (put key (.table missing inner) entries)
    | some (.table standing inner) =>
      if standing = .inline || (missing = .dotted && standing = .header) then none
      else do
        let inner ← alter missing change path standing inner
        some (put key (.table standing inner) entries)
    | some (.tables elements) => do
      let last ← elements.getLast?
      let last ← alter missing change path .header last
      some (put key (.tables (elements.dropLast ++ [last])) entries)
    | some _ => none

/-- Defines a key in the table that the rest of its parts, `path`, lead to. The table has to be one
that dotted keys made, if there are other parts at all. -/
def define (path : List Text) (key : Text) (value : Value) (standing : Standing)
    (entries : Entries) : Option Entries :=
  alter .dotted
    (fun standing entries =>
      if decide (standing = .dotted) = path.isEmpty then none
      else if (find? key entries).isSome then none
      else some (put key value entries))
    path standing entries

def openTable (key : Text) (entries : Entries) : Option Entries :=
  match find? key entries with
  | none => some (put key (.table .header []) entries)
  | some (.table .implied inner) => some (put key (.table .header inner) entries)
  | some _ => none

def openElement (key : Text) (entries : Entries) : Option Entries :=
  match find? key entries with
  | none => some (put key (.tables [[]]) entries)
  | some (.tables elements) => some (put key (.tables (elements ++ [[]])) entries)
  | some _ => none

def splitKey (parts : List Text) : List Text × Text :=
  (parts.dropLast, parts.getLastD [])

def inlineTable? (pairs : List (List Text × Value)) : Option Value := do
  let entries ← pairs.foldlM (fun entries (parts, value) =>
    define (splitKey parts).1 (splitKey parts).2 value .inline entries) []
  some (.table .inline entries)

end GraphQLTokens.Toml
