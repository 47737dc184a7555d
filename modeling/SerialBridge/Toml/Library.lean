/-!
# Reading records from TOML

The reading of TOML documents into records is left to a library. `Toml.Library` is what is used of
one, and everything that is read from a document here is read by way of it. The library knows
nothing of the records: these say by which names and as what their settings are to be read
(`Toml.Field`), and what they are where a document says nothing.

`Toml.library`, beside the rest of this directory, is a library of this kind.
-/

namespace SerialBridge.Toml

/-- A field of records in `α`, for a library with values in `ν`. -/
structure Field (ν α : Type) where
  /-- The name by which documents give it. -/
  name : String
  /-- What becomes of a record when the field has the value, if the value is of the right kind. -/
  take : ν → Option (α → α)

/-- The record with what is given for one of its fields. If nothing is given, it stays as it was. -/
def Field.fill {ν α : Type} (f : Field ν α) (given : Option ν) (a : α) : Option α :=
  match given with
  | none => some a
  | some v => (f.take v).map (· a)

/-- A library that reads TOML documents. -/
structure Library where
  /-- What documents and their parts are read as. -/
  Value : Type
  /-- Reads a document. -/
  document? : String → Option Value
  /-- Reads a text. -/
  text? : Value → Option String
  /-- Reads a number of 32 bits. -/
  word? : Value → Option UInt32
  /-- Reads a size, which is a number of 64 bits. -/
  size? : Value → Option Nat
  /-- Reads a record with these fields, given what it is without them. -/
  record? : {α : Type} → α → List (Field Value α) → Value → Option α

end SerialBridge.Toml
