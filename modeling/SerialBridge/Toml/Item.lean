import SerialBridge.Toml.Scalar

/-!
# Items

A TOML document is a tree of tables. Which statements may still add to a table depends on how it
came about, and a table therefore remembers its `Origin`:

* a **header** table stands under a `[header]` of its own, which may not be repeated;
* a **parent** table exists because a header named something below it, and may still get a header;
* a **dotted** table exists because a dotted key named something below it, and only such keys add
  to it;
* an **inline** table is complete where it is written.

`place` adds a value under a dotted key, `openTable` and `openElement` follow the two kinds of
header. Each answers with nothing if the statement is not allowed.
-/

namespace SerialBridge.Toml

/-- How a table came about. -/
inductive Origin where
  /-- By a header of its own. -/
  | header
  /-- By a header below it. -/
  | parent
  /-- By a dotted key. -/
  | dotted
  /-- Inline. -/
  | inline
deriving DecidableEq

/-- What stands under a key. -/
inductive Item where
  /-- A value without parts. -/
  | scalar (value : Scalar)
  /-- An array. -/
  | array (elements : List Item)
  /-- A table. -/
  | table (origin : Origin) (entries : List (String × Item))
  /-- An array of tables, each under a header of its own. -/
  | tables (elements : List (List (String × Item)))

/-- The entries of a table, in the order in which their keys came up. -/
abbrev Entries := List (String × Item)

/-- A key with its parts. -/
structure Key where
  /-- All parts but the last. -/
  parents : List String
  /-- The last part. -/
  last : String
deriving DecidableEq

/-- Replaces what stands under a key, or adds it, if `change` allows it. -/
def Entries.alter? (key : String) (change : Option Item → Option Item) :
    Entries → Option Entries
  | [] => (change none).map fun i => [(key, i)]
  | (k, i) :: rest =>
    if k = key then (change (some i)).map fun i => (k, i) :: rest
    else (alter? key change rest).map ((k, i) :: ·)

/-- Adds an entry under a key that is not there yet. -/
def Entries.add? (key : String) (item : Item) (e : Entries) : Option Entries :=
  e.alter? key fun
    | none => some item
    | some _ => none

/-- Changes the last element, if `change` allows it. -/
def changeLast? (change : Entries → Option Entries) (l : List Entries) : Option (List Entries) :=
  match l.getLast? with
  | some e => (change e).map fun e => l.dropLast ++ [e]
  | none => none

/-- Follows the path of a header and changes the table at its end. Of an array of tables the last
is meant; missing tables are added. -/
def Entries.within? (change : Entries → Option Entries) : List String → Entries → Option Entries
  | [], e => change e
  | k :: path, e =>
    e.alter? k fun
      | none => (within? change path []).map (.table .parent)
      | some (.table .inline _) => none
      | some (.table origin entries) => (within? change path entries).map (.table origin)
      | some (.tables elements) => (changeLast? (within? change path) elements).map .tables
      | some _ => none

/-- Adds a value below the table, under a key with these parents. -/
def Entries.place? (last : String) (item : Item) : List String → Entries → Option Entries
  | [], e => e.add? last item
  | k :: path, e =>
    e.alter? k fun
      | none => (place? last item path []).map (.table .dotted)
      | some (.table origin entries) =>
        if origin = .dotted || (origin = .parent && !path.isEmpty) then
          (place? last item path entries).map (.table origin)
        else none
      | some (.tables elements) =>
        if path.isEmpty then none
        else (changeLast? (place? last item path) elements).map .tables
      | some _ => none

/-- Gives a table its header. -/
def Entries.openTable? (key : Key) : Entries → Option Entries :=
  within? (fun e => e.alter? key.last fun
    | none => some (.table .header [])
    | some (.table .parent entries) => some (.table .header entries)
    | some _ => none) key.parents

/-- Adds an element to an array of tables. -/
def Entries.openElement? (key : Key) : Entries → Option Entries :=
  within? (fun e => e.alter? key.last fun
    | none => some (.tables [[]])
    | some (.tables elements) => some (.tables (elements ++ [[]]))
    | some _ => none) key.parents

/-- The inline table with these pairs. -/
def Item.ofPairs? (pairs : List (Key × Item)) : Option Item :=
  (pairs.foldlM (fun e p => Entries.place? p.1.last p.2 p.1.parents e) []).map (.table .inline)

end SerialBridge.Toml
