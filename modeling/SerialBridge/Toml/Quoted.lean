import SerialBridge.Toml.Character

/-!
# Quoted texts

Four forms of quoted text: between quotation marks, where a backslash begins an escape, or
between apostrophes, where nothing does; on one line with one mark on either side, or over
several lines with three.

Texts with escapes are read by machines with a small state, one character at a time: an escape
may still be open, and after a backslash at the end of a line everything up to the next visible
character is skipped.

Every reader answers with what it read and with what follows, or with nothing.
-/

namespace SerialBridge.Toml

/-- What a backslash and one character stand for. -/
inductive Escape where
  /-- A character. -/
  | character (c : Char)
  /-- The code of a character follows, with one digit more than this in base sixteen. -/
  | code (digits : Nat)

/-- The escape that the character after the backslash begins. -/
def escape? : Char → Option Escape
  | 'b' => some (.character '\x08')
  | 't' => some (.character '\t')
  | 'n' => some (.character '\n')
  | 'f' => some (.character '\x0C')
  | 'r' => some (.character '\r')
  | '"' => some (.character '"')
  | '\\' => some (.character '\\')
  | 'u' => some (.code 3)
  | 'U' => some (.code 7)
  | _ => none

/-- The value of a digit in a base up to sixteen. -/
def digit? (base : Nat) (c : Char) : Option Nat :=
  let value :=
    if c.isDigit then c.toNat - '0'.toNat
    else if 'a' ≤ c && c ≤ 'f' then c.toNat - 'a'.toNat + 10
    else if 'A' ≤ c && c ≤ 'F' then c.toNat - 'A'.toNat + 10
    else base
  if value < base then some value else none

/-- The character with the code, if there is one. -/
def character? (code : Nat) : Option Char :=
  if code.isValidChar then some (Char.ofNat code) else none

/-- The state of a reader of text with escapes. -/
inductive Mode where
  /-- Between two characters; `folding` after the end of a line that a backslash took away. -/
  | text (folding : Bool)
  /-- After a backslash. -/
  | escaped
  /-- After a backslash and blanks: the line has to end. -/
  | trailing
  /-- Inside the code of a character. -/
  | code (afterNext : Nat) (value : Nat)

/-- Puts a character in front of what is read. -/
def keep (c : Char) (r : Option (List Char × List Char)) :
    Option (List Char × List Char) :=
  r.map fun (cs, rest) => (c :: cs, rest)

/-- Reads one digit of a code and goes on with `next` in the mode after it. -/
def readCode (next : Mode → Option (List Char × List Char)) (c : Char)
    (afterNext value : Nat) : Option (List Char × List Char) :=
  match digit? 16 c, afterNext with
  | none, _ => none
  | some d, n + 1 => next (.code n (value * 16 + d))
  | some d, 0 =>
    match character? (value * 16 + d) with
    | some c => keep c (next (.text false))
    | none => none

/-- Reads the character after a backslash and goes on with `next` in the mode after it. -/
def readEscape (next : Mode → Option (List Char × List Char)) (c : Char) :
    Option (List Char × List Char) :=
  match escape? c with
  | some (.character d) => keep d (next (.text false))
  | some (.code n) => next (.code n 0)
  | none => none

/-- Reads a text on one line, up to the quotation mark that ends it. -/
def readBasic : Mode → List Char → Option (List Char × List Char)
  | _, [] => none
  | .escaped, c :: rest => readEscape (fun m => readBasic m rest) c
  | .code n v, c :: rest => readCode (fun m => readBasic m rest) c n v
  | _, c :: rest =>
    if c = '"' then some ([], rest)
    else if c = '\\' then readBasic .escaped rest
    else if isPrintable c then keep c (readBasic (.text false) rest)
    else none

/-- Reads a text without escapes on one line, up to the apostrophe that ends it. -/
def readLiteral : List Char → Option (List Char × List Char)
  | [] => none
  | c :: rest =>
    if c = '\x27' then some ([], rest)
    else if isPrintable c then keep c (readLiteral rest)
    else none

/-- Reads the three marks that end a text of several lines. Up to two more of them may stand
before, and belong to the text. -/
def closing? (mark : Char) (cs : List Char) : Option (List Char × List Char) :=
  if cs.take 3 = [mark, mark, mark] then
    let extra := ((cs.drop 3).take 2).takeWhile (· = mark)
    some (extra, cs.drop (3 + extra.length))
  else none

/-- Reads a text of several lines, up to the quotation marks that end it. -/
def readLongBasic : Mode → List Char → Option (List Char × List Char)
  | _, [] => none
  | .escaped, c :: rest =>
    if c = '\n' then readLongBasic (.text true) rest
    else if isSpace c then readLongBasic .trailing rest
    else readEscape (fun m => readLongBasic m rest) c
  | .trailing, c :: rest =>
    if c = '\n' then readLongBasic (.text true) rest
    else if isSpace c then readLongBasic .trailing rest
    else none
  | .code n v, c :: rest => readCode (fun m => readLongBasic m rest) c n v
  | .text folding, c :: rest =>
    if folding && (c = '\n' || isSpace c) then readLongBasic (.text true) rest
    else
      match closing? '"' (c :: rest) with
      | some r => some r
      | none =>
        if c = '\\' then readLongBasic .escaped rest
        else if c = '\n' || isPrintable c then keep c (readLongBasic (.text false) rest)
        else none

/-- Reads a text of several lines without escapes, up to the apostrophes that end it. -/
def readLongLiteral : List Char → Option (List Char × List Char)
  | [] => none
  | c :: rest =>
    match closing? '\x27' (c :: rest) with
    | some r => some r
    | none =>
      if c = '\n' || isPrintable c then keep c (readLongLiteral rest) else none

/-- An end of line right after the marks that begin a text of several lines does not count. -/
def dropFirstLineEnd : List Char → List Char
  | '\n' :: rest => rest
  | cs => cs

/-- What was read, as text. -/
def asText (r : Option (List Char × List Char)) : Option (String × List Char) :=
  r.map fun (cs, rest) => (String.ofList cs, rest)

/-- Reads a text that is quoted on one line. -/
def readShort : List Char → Option (String × List Char)
  | '"' :: rest => asText (readBasic (.text false) rest)
  | '\x27' :: rest => asText (readLiteral rest)
  | _ => none

/-- Reads a quoted text of any form. -/
def readQuoted : List Char → Option (String × List Char)
  | '"' :: '"' :: '"' :: rest =>
    asText (readLongBasic (.text false) (dropFirstLineEnd rest))
  | '\x27' :: '\x27' :: '\x27' :: rest => asText (readLongLiteral (dropFirstLineEnd rest))
  | cs => readShort cs

end SerialBridge.Toml
