import DeclGen.Toml.Basic

/-!
# DeclGen.Toml.Table

Tables under construction.  Besides its entries a table knows whether it has
been opened by a header or an inline table of its own, or only on the way to
one of its entries, and whether that way was a dotted key.  These decide which
later definitions may still add to it.
-/

namespace DeclGen.Toml

/-- How a table has come about. -/
inductive Origin where
  /-- Opened under its own name. -/
  | opened
  /-- Passed through by the header of a table inside it. -/
  | passed
  /-- Passed through by a dotted key. -/
  | dotted
  deriving DecidableEq

/-- A part of a document under construction: a finished value, a table, or an
array of tables, of which the last one can still grow. -/
inductive Node where
  | value (toml : Toml)
  | table (origin : Origin) (entries : List (String × Node))
  | tables (done : List Node) (last : Node)
  deriving Inhabited

namespace Node

/-- An empty table. -/
def emptyTable (origin : Origin) : Node := table origin []

/-- Entries with the value of one key replaced, or added at their end. -/
def put (key : String) (node : Node) : List (String × Node) → List (String × Node)
  | [] => [(key, node)]
  | entry :: rest =>
    if entry.1 = key then (key, node) :: rest else entry :: put key node rest

/-- Changes what a path leads to.  Missing tables on the way are made with the
origin `way`; a dotted key does not lead through an opened table, and no path
leads through a value. -/
def change (way : Origin) (f : Node → Option Node) : List String → Node → Option Node
  | [], node => f node
  | key :: path, table origin entries => do
    let child ← match (entries.lookup key).getD (emptyTable way) with
      | value _ => none
      | table .opened inner =>
        if way = .dotted then none else change way f path (table .opened inner)
      | table origin inner => change way f path (table origin inner)
      | tables done last => (change way f path last).map (tables done)
    some (table origin (put key child entries))
  | _, _ => none

/-- Adds the value of a key that is still free to a table.  A dotted key adds
only to a table that dotted keys have made. -/
def assign (viaDots : Bool) (key : String) (toml : Toml) : Node → Option Node
  | table origin entries =>
    if viaDots && origin != .dotted then none
    else if (entries.lookup key).isSome then none
    else some (table origin (entries ++ [(key, value toml)]))
  | _ => none

/-- Opens the table of a header, which must be new or only passed through by
other headers. -/
def openTable (key : String) : Node → Option Node
  | table origin entries =>
    match entries.lookup key with
    | none => some (table origin (entries ++ [(key, emptyTable .opened)]))
    | some (table .passed inner) => some (table origin (put key (table .opened inner) entries))
    | some _ => none
  | _ => none

/-- Opens one more table of an array of tables. -/
def openItem (key : String) : Node → Option Node
  | table origin entries =>
    match entries.lookup key with
    | none => some (table origin (entries ++ [(key, tables [] (emptyTable .opened))]))
    | some (tables done last) =>
      some (table origin (put key (tables (done ++ [last]) (emptyTable .opened)) entries))
    | some _ => none
  | _ => none

/-- Adds the value of a dotted key, whose last part is given apart. -/
def assignAt (path : List String) (key : String) (toml : Toml) (node : Node) : Option Node :=
  change .dotted (assign (!path.isEmpty) key toml) path node

mutual

/-- The value that has been constructed. -/
def toToml : Node → Toml
  | value toml => toml
  | table _ entries => .table (fieldsToToml entries)
  | tables done last => .array (itemsToToml done ++ [last.toToml])

/-- The values of entries. -/
def fieldsToToml : List (String × Node) → List (String × Toml)
  | [] => []
  | (key, node) :: rest => (key, node.toToml) :: fieldsToToml rest

/-- The values of items. -/
def itemsToToml : List Node → List Toml
  | [] => []
  | node :: rest => node.toToml :: itemsToToml rest

end

end Node

end DeclGen.Toml
