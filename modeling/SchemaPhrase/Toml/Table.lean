/-!
# Tables of a settings file

A table is filled by headers and by keys with points in them, and each way of making one restricts
how it may be filled later: a table is headed once, tables made by such keys are never headed, and
inline tables are never added to. `Table.head?` and `Table.put?` keep these rules.
-/

set_option autoImplicit false

namespace SchemaPhrase.Toml

/-- How a table came to be. -/
inductive Origin where
  /-- By a header of its own, or as the whole file. -/
  | headed
  /-- As a step on the way to a header. -/
  | implied
  /-- As a step of a key with points. -/
  | dotted
  /-- Between braces. -/
  | inline
  deriving DecidableEq, Repr

/-- A value of a settings file. Scalars that are no strings are not told apart. -/
inductive Value where
  | string (text : String)
  | scalar
  | array (items : List Value)
  | table (origin : Origin) (entries : List (String × Value))

/-- The entries of a table. -/
abbrev Table := List (String × Value)

namespace Table

/-- The value of a key. -/
def get? : Table → String → Option Value
  | [], _ => none
  | (k, value) :: rest, key => if k = key then some value else get? rest key

/-- Sets a key in its place, or at the end. -/
def set (key : String) (value : Value) : Table → Table
  | [] => [(key, value)]
  | (k, v) :: rest => if k = key then (key, value) :: rest else (k, v) :: set key value rest

/-- Adds a new key. -/
def add? (key : String) (value : Value) (table : Table) : Option Table :=
  if (table.get? key).isSome then none else some (table ++ [(key, value)])

/-- Changes the table at the end of a path of headers; the tables on the way may be of any origin
but inline, and those that are missing are made. -/
def within? (path : List String) (change? : Origin → Table → Option (Origin × Table))
    (origin : Origin) (table : Table) : Option (Origin × Table) :=
  match path with
  | [] => change? origin table
  | key :: path =>
    match table.get? key with
    | none => do
      let (inner, entries) ← within? path change? .implied []
      return (origin, table.set key (.table inner entries))
    | some (.table inner entries) =>
      if inner = .inline then none
      else do
        let (inner, entries) ← within? path change? inner entries
        return (origin, table.set key (.table inner entries))
    | some _ => none

/-- Heads the table at a path, unless it was made in any other way than on the way to a header. -/
def head? (path : List String) (table : Table) : Option Table :=
  match path.reverse with
  | [] => none
  | key :: parents =>
    (within? parents.reverse (fun origin entries =>
      match entries.get? key with
      | none => some (origin, entries ++ [(key, .table .headed [])])
      | some (.table .implied inner) => some (origin, entries.set key (.table .headed inner))
      | some _ => none) .headed table).map Prod.snd

/-- Adds a value under a key, whose steps before the last are tables made by such keys. -/
def put? (key : List String) (value : Value) (table : Table) : Option Table :=
  match key with
  | [] => none
  | [name] => table.add? name value
  | name :: key =>
    match table.get? name with
    | none => (put? key value []).map fun entries => table ++ [(name, .table .dotted entries)]
    | some (.table .dotted entries) =>
      (put? key value entries).map fun entries => table.set name (.table .dotted entries)
    | some (.table .implied entries) =>
      if key.length = 1 then none
      else (put? key value entries).map fun entries => table.set name (.table .implied entries)
    | some _ => none

/-- Adds a value under a key in the table that was headed by a path. -/
def putUnder? (path key : List String) (value : Value) (table : Table) : Option Table :=
  (within? path (fun origin entries => (put? key value entries).map (origin, ·)) .headed
    table).map Prod.snd

end Table

end SchemaPhrase.Toml
