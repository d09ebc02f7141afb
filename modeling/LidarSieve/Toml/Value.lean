import LidarSieve.Binary.Number
/-!
# TOML values

The values of a TOML document, and how statements of the document build its tables.

A table is a list of entries with distinct keys, in the order in which the keys came up.
It remembers how it came to be, because that decides what later statements may add to it:

* a table with a header of its own takes entries under that header only;
* a table that only a longer header implies may still get a header of its own;
* a table that dotted keys made takes further dotted keys;
* a table written inline is complete.
-/
set_option autoImplicit false

namespace LidarSieve.Toml

open LidarSieve.Binary

/-- How a table came to be. -/
inductive Origin where
  /-- It has a header of its own. -/
  | header
  /-- It is a step on the way of a longer header. -/
  | implied
  /-- It is a step of a dotted key. -/
  | dotted
  /-- It is written between braces. -/
  | braces
  deriving DecidableEq, Repr

/-- A value of a document. -/
inductive Value where
  | text (s : String)
  | integer (i : Int)
  | real (x : Double)
  | flag (b : Bool)
  /-- A date, a time or both, as written. -/
  | moment (s : String)
  | list (items : List Value)
  | table (origin : Origin) (entries : List (String × Value))
  /-- A list of tables, each with a header of its own. -/
  | tables (elements : List (List (String × Value)))

/-- The entries of a table. -/
abbrev Table : Type := List (String × Value)

namespace Table

/-- The table with a key bound to a value: in its place if the key is there, at the end
otherwise. -/
def put (key : String) (value : Value) : Table → Table
  | [] => [(key, value)]
  | entry :: rest =>
    if entry.1 = key then (key, value) :: rest else entry :: put key value rest

/-- The table without a key. -/
def remove (key : String) (table : Table) : Table := table.filter (·.1 != key)

/-- The table with one more entry, unless the key is taken. -/
def add? (key : String) (value : Value) (table : Table) : Option Table :=
  match table.lookup key with
  | none => some (table ++ [(key, value)])
  | some _ => none

/-- The list of tables with its last element changed. -/
def changeLast? (change : Table → Option Table) : List Table → Option (List Table)
  | [] => none
  | [last] => do return [← change last]
  | element :: rest => do return element :: (← changeLast? change rest)

/-! ## Entries -/

/-- Binds a dotted key.  Its steps make tables, or lead through tables that dotted keys
made; they may also lead through tables that a header implies and into the last element of
a list of tables, but not end there. -/
def insert? (value : Value) (key : String) : List String → Table → Option Table
  | [], table => table.add? key value
  | step :: path, table =>
    match table.lookup step with
    | none => do return table.put step (.table .dotted (← insert? value key path []))
    | some (.table .dotted inner) => do
      return table.put step (.table .dotted (← insert? value key path inner))
    | some (.table .implied inner) =>
      if path.isEmpty then none
      else do return table.put step (.table .implied (← insert? value key path inner))
    | some (.tables elements) =>
      if path.isEmpty then none
      else do return table.put step (.tables (← changeLast? (insert? value key path) elements))
    | some _ => none

/-! ## Headers -/

/-- Changes the table at the end of a header's path.  The path leads through tables of any
making but the inline ones, and into the last element of a list of tables; tables that are
not there are implied. -/
def within? (change : Table → Option Table) : List String → Table → Option Table
  | [], table => change table
  | step :: path, table =>
    match table.lookup step with
    | none => do return table.put step (.table .implied (← within? change path []))
    | some (.table .braces _) => none
    | some (.table origin inner) => do
      return table.put step (.table origin (← within? change path inner))
    | some (.tables elements) => do
      return table.put step (.tables (← changeLast? (within? change path) elements))
    | some _ => none

/-- Gives a table its header.  One that was implied so far moves to the end. -/
def declare? (key : String) (table : Table) : Option Table :=
  match table.lookup key with
  | none => some (table ++ [(key, .table .header [])])
  | some (.table .implied inner) => some (table.remove key ++ [(key, .table .header inner)])
  | some _ => none

/-- Starts the next element of a list of tables. -/
def extend? (key : String) (table : Table) : Option Table :=
  match table.lookup key with
  | none => some (table ++ [(key, .tables [[]])])
  | some (.tables elements) => some (table.put key (.tables (elements ++ [[]])))
  | some _ => none

end Table

/-! ## Statements -/

/-- A dotted key: the steps to a table, and a key of this table. -/
structure Path where
  steps : List String
  key : String
  deriving DecidableEq, Repr

/-- A statement of a document. -/
inductive Statement where
  /-- The entries that follow belong to this table. -/
  | header (path : Path)
  /-- The entries that follow belong to a new element of this list of tables. -/
  | element (path : Path)
  /-- Binds a dotted key. -/
  | entry (path : Path) (value : Value)

namespace Table

/-- Binds the dotted keys of a table that is written inline. -/
def ofPairs? (pairs : List (Path × Value)) : Option Table :=
  pairs.foldlM (fun table pair => table.insert? pair.2 pair.1.key pair.1.steps) []

/-- Carries out statements one after the other; `current` leads to the table that entries
belong to. -/
def run? (current : List String) : List Statement → Table → Option Table
  | [], root => some root
  | .header path :: rest, root => do
    run? (path.steps ++ [path.key]) rest (← within? (declare? path.key) path.steps root)
  | .element path :: rest, root => do
    run? (path.steps ++ [path.key]) rest (← within? (extend? path.key) path.steps root)
  | .entry path value :: rest, root => do
    run? current rest (← within? (insert? value path.key path.steps) current root)

/-- The table that statements build. -/
def ofStatements? (statements : List Statement) : Option Table := run? [] statements []

end Table

end LidarSieve.Toml
