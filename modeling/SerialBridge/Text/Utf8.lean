/-!
# Bytes as text

Bytes from the line need not be UTF-8. `Utf8.decodeLossy` reads them anyway and puts one
replacement character for each **maximal invalid part**: the longest run of bytes that starts
a character and can still be continued to one, or else a single byte.

The reader is a machine with one state. Between two characters it is in `none`; inside a
character it remembers, as an `Unfinished`, how many bytes are missing and between which two
bounds the next one has to lie. The bounds are what keeps out overlong forms (after `E0` and
`F0`), surrogates (after `ED`) and everything beyond the last code point (after `F4`).

`Utf8.decode?` is the strict reading. It needs no machine of its own: bytes are the encoding of
some text exactly when the lossy reading, encoded again, gives them back.
-/

namespace SerialBridge.Utf8

/-- The character that stands for an invalid part. -/
def replacement : Char := '\uFFFD'

/-- A character of which the first bytes have been read. -/
structure Unfinished where
  /-- The payload bits read so far. -/
  value : Nat
  /-- How many bytes are still to come after the next one. -/
  afterNext : Nat
  /-- The least next byte. -/
  low : UInt8
  /-- The greatest next byte. -/
  high : UInt8
deriving DecidableEq

/-- What a byte means where a character may begin. -/
inductive Lead where
  /-- It is a character by itself. -/
  | single (c : Char)
  /-- It begins a longer character. -/
  | opens (u : Unfinished)
  /-- It begins nothing. -/
  | broken

/-- Classifies a byte that stands where a character may begin. -/
def lead (b : UInt8) : Lead :=
  if b < 0x80 then .single (Char.ofNat b.toNat)
  else if b < 0xC2 then .broken
  else if b < 0xE0 then .opens ⟨b.toNat - 0xC0, 0, 0x80, 0xBF⟩
  else if b = 0xE0 then .opens ⟨0, 1, 0xA0, 0xBF⟩
  else if b = 0xED then .opens ⟨0xD, 1, 0x80, 0x9F⟩
  else if b < 0xF0 then .opens ⟨b.toNat - 0xE0, 1, 0x80, 0xBF⟩
  else if b = 0xF0 then .opens ⟨0, 2, 0x90, 0xBF⟩
  else if b < 0xF4 then .opens ⟨b.toNat - 0xF0, 2, 0x80, 0xBF⟩
  else if b = 0xF4 then .opens ⟨4, 2, 0x80, 0x8F⟩
  else .broken

/-- Reads a byte between two characters: what it yields, and the state after it. -/
def startWith (b : UInt8) : List Char × Option Unfinished :=
  match lead b with
  | .single c => ([c], none)
  | .opens u => ([], some u)
  | .broken => ([replacement], none)

/-- Reads one byte: what it yields, and the state after it. A byte outside the bounds closes the
character that was begun and is then read afresh. -/
def step : Option Unfinished → UInt8 → List Char × Option Unfinished
  | none, b => startWith b
  | some u, b =>
    if u.low ≤ b ∧ b ≤ u.high then
      let value := u.value * 64 + (b.toNat - 0x80)
      match u.afterNext with
      | 0 => ([Char.ofNat value], none)
      | n + 1 => ([], some ⟨value, n, 0x80, 0xBF⟩)
    else
      let (chars, next) := startWith b
      (replacement :: chars, next)

/-- Reads all bytes from a given state. A character that the end cuts off is an invalid part. -/
def decodeFrom : Option Unfinished → List UInt8 → List Char
  | none, [] => []
  | some _, [] => [replacement]
  | state, b :: rest =>
    let (chars, next) := step state b
    chars ++ decodeFrom next rest

/-- The text of the bytes, with one replacement character for each maximal invalid part. -/
def decodeLossy (bytes : List UInt8) : String := String.ofList (decodeFrom none bytes)

/-- The bytes of a text. -/
def encode (text : String) : List UInt8 := text.toList.flatMap String.utf8EncodeChar

/-- The text of the bytes, if they are the encoding of one. -/
def decode? (bytes : List UInt8) : Option String :=
  let text := decodeLossy bytes
  if encode text = bytes then some text else none

end SerialBridge.Utf8
