import SerialBridge.Toml.Document
import SerialBridge.Toml.Library

/-!
# Records in the tree of a document

A **record** may be written as a table, or as an array with the values of its fields in their order;
a date counts as a record without values. In a table, entries that are no fields are passed over.

`Toml.library` is the library that reads the tree of a document in this way. It is the one with
which the program runs.
-/

namespace SerialBridge.Toml

namespace Item

/-- Whether the item may stand for a record. -/
def isRecord : Item → Bool
  | .table _ _ => true
  | .array _ => true
  | .tables _ => true
  | .scalar s => s = .moment

/-- The value in a record, by its name in a table and by its position in an array. -/
def value? (name : String) (position : Nat) : Item → Option Item
  | .table _ entries => entries.lookup name
  | .array elements => elements[position]?
  | .tables elements => elements[position]?.map (.table .header)
  | .scalar _ => none

/-- The text, if the item is one. -/
def text? : Item → Option String
  | .scalar (.text s) => some s
  | _ => none

/-- The integer, if the item is one that is not negative. -/
def natural? : Item → Option Nat
  | .scalar (.integer n) => n.toNat?
  | _ => none

/-- The number of 32 bits, if the item is one. -/
def word? (i : Item) : Option UInt32 :=
  (i.natural?.filter (· < UInt32.size)).map UInt32.ofNat

/-- The record, if the item may stand for one and all fields that it gives are of the right kind. -/
def record? {α : Type} (standard : α) (fields : List (Field Item α)) (i : Item) : Option α :=
  if i.isRecord then
    fields.zipIdx.foldlM (fun a f => f.1.fill (i.value? f.1.name f.2) a) standard
  else none

end Item

/-- The library that reads documents as trees of items. -/
def library : Library where
  Value := Item
  document? text := (document? text).map (.table .header)
  text? := Item.text?
  word? := Item.word?
  size? := Item.natural?
  record? := Item.record?

end SerialBridge.Toml
