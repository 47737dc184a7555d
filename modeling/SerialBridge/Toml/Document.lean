import SerialBridge.Toml.Item

/-!
# Documents

A document is a sequence of statements, one to a line: a key with its value, or the header of a
table or of an element of an array of tables. It is read in two steps. `statements?` reads what is
written; `Statement.run?` carries the statements out one by one, on the tree and the path of the
current table.

Every reader answers with what it read and with what follows, or with nothing. Values nest, and
both the nesting of values and the length of dotted keys are limited.
-/

namespace SerialBridge.Toml

/-- A dotted key has fewer parts than this, and arrays and inline tables are nested in fewer
layers. -/
def limit : Nat := 80

/-! ### Keys -/

/-- Reads one part of a key. -/
def readPart (cs : List Char) : Option (String × List Char) :=
  match readShort cs with
  | some r => some r
  | none =>
    let part := cs.takeWhile isKeyChar
    if part.isEmpty then none else some (String.ofList part, cs.dropWhile isKeyChar)

/-- Reads a key of at most that many parts, and the blanks around it. -/
def readKey : Nat → List Char → Option (Key × List Char)
  | 0, _ => none
  | n + 1, cs => do
    let (part, rest) ← readPart (skipSpaces cs)
    match skipSpaces rest with
    | '.' :: rest => do
      let (key, rest) ← readKey n rest
      return (⟨part :: key.parents, key.last⟩, rest)
    | rest => return (⟨[], part⟩, rest)

/-! ### Values -/

/-- Reads the elements of an array and the bracket after them; `value` reads one element. -/
def readElements (value : List Char → Option (Item × List Char)) :
    Nat → List Char → Option (List Item × List Char)
  | 0, _ => none
  | n + 1, cs => do
    match ← skipFiller false cs with
    | ']' :: rest => return ([], rest)
    | cs =>
      let (item, rest) ← value cs
      match ← skipFiller false rest with
      | ']' :: rest => return ([item], rest)
      | ',' :: rest =>
        let (items, rest) ← readElements value n rest
        return (item :: items, rest)
      | _ => none

/-- Reads a key, the sign after it and its value. -/
def readPair (value : List Char → Option (Item × List Char)) (cs : List Char) :
    Option ((Key × Item) × List Char) := do
  let (key, rest) ← readKey (limit - 1) cs
  match rest with
  | '=' :: rest =>
    let (item, rest) ← value (skipSpaces rest)
    return ((key, item), rest)
  | _ => none

/-- Reads the pairs of an inline table, at least one, and the brace after them. -/
def readPairs (value : List Char → Option (Item × List Char)) :
    Nat → List Char → Option (List (Key × Item) × List Char)
  | 0, _ => none
  | n + 1, cs => do
    let (pair, rest) ← readPair value cs
    match skipSpaces rest with
    | '\x7d' :: rest => return ([pair], rest)
    | ',' :: rest =>
      let (pairs, rest) ← readPairs value n rest
      return (pair :: pairs, rest)
    | _ => none

/-- Reads a value with at most that many layers. -/
def readValue : Nat → List Char → Option (Item × List Char)
  | layers + 1, '[' :: rest =>
    (readElements (readValue layers) (rest.length + 1) rest).map fun (items, rest) =>
      (.array items, rest)
  | layers + 1, '\x7b' :: rest =>
    match skipSpaces rest with
    | '\x7d' :: rest => some (.table .inline [], rest)
    | rest => do
      let (pairs, rest) ← readPairs (readValue layers) (rest.length + 1) rest
      return (← Item.ofPairs? pairs, rest)
  | _, cs => (readScalar cs).map fun (s, rest) => (.scalar s, rest)

/-! ### Statements -/

/-- What a line says. -/
inductive Statement where
  /-- A key has a value. -/
  | pair (key : Key) (item : Item)
  /-- What follows is about this table. -/
  | table (key : Key)
  /-- What follows is about a new element of this array of tables. -/
  | element (key : Key)

/-- Reads a statement. -/
def readStatement : List Char → Option (Statement × List Char)
  | '[' :: '[' :: rest => do
    let (key, rest) ← readKey (limit - 1) rest
    match rest with
    | ']' :: ']' :: rest => return (.element key, rest)
    | _ => none
  | '[' :: rest => do
    let (key, rest) ← readKey (limit - 1) rest
    match rest with
    | ']' :: rest => return (.table key, rest)
    | _ => none
  | cs => do
    let ((key, item), rest) ← readPair (readValue (limit - 1)) cs
    return (.pair key item, rest)

/-- Reads at most that many statements, to the end of the document. -/
def readStatements : Nat → List Char → Option (List Statement)
  | 0, _ => none
  | n + 1, cs => do
    match ← skipFiller false cs with
    | [] => return []
    | cs =>
      let (s, rest) ← readStatement cs
      let rest ← endOfLine? rest
      return s :: (← readStatements n rest)

/-- The statements of a text. A byte order mark in front of it does not count. -/
def statements? (text : String) : Option (List Statement) := do
  let cs := match text.toList with
    | '\uFEFF' :: rest => rest
    | cs => cs
  let cs ← lines? cs
  readStatements (cs.length + 1) cs

/-! ### The tree -/

/-- What has been read of a document. -/
structure Draft where
  /-- The tree. -/
  root : Entries := []
  /-- The path of the table that pairs are added to. -/
  path : List String := []

/-- Carries out a statement. -/
def Statement.run? (d : Draft) : Statement → Option Draft
  | .pair key item =>
    (d.root.within? (Entries.place? key.last item key.parents) d.path).map fun root =>
      { d with root }
  | .table key =>
    (d.root.openTable? key).map fun root => { root, path := key.parents ++ [key.last] }
  | .element key =>
    (d.root.openElement? key).map fun root => { root, path := key.parents ++ [key.last] }

/-- The tree of a text, if it is a document. -/
def document? (text : String) : Option Entries := do
  let statements ← statements? text
  let d ← statements.foldlM Statement.run? {}
  return d.root

end SerialBridge.Toml
