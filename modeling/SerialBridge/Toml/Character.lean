/-!
# Characters and blank space

The characters from which a TOML document is made, and what may stand between its tokens. Lines
end with a line feed, or with a carriage return and a line feed; `Toml.lines?` reduces the second
form to the first, so that nothing after it has to know of carriage returns.
-/

namespace SerialBridge.Toml

/-- A blank inside a line: a space or a tab. -/
def isSpace (c : Char) : Bool := c = ' ' || c = '\t'

/-- A character that may stand in a comment and, as itself, in a quoted text. -/
def isPrintable (c : Char) : Bool := c = '\t' || (' ' ≤ c && c ≠ '\x7F')

/-- A character of a key that is not quoted. -/
def isKeyChar (c : Char) : Bool := c.isAlphanum || c = '-' || c = '_'

/-- The document with line feeds at the end of its lines. A carriage return that stands by itself
is refused. -/
def lines? : List Char → Option (List Char)
  | [] => some []
  | '\r' :: '\n' :: rest => (lines? rest).map ('\n' :: ·)
  | '\r' :: _ => none
  | c :: rest => (lines? rest).map (c :: ·)

/-- Skips the blanks of a line. -/
def skipSpaces (cs : List Char) : List Char := cs.dropWhile isSpace

/-- Skips blanks, ends of lines and comments; the flag says whether a comment has begun. -/
def skipFiller : Bool → List Char → Option (List Char)
  | _, [] => some []
  | true, c :: rest =>
    if c = '\n' then skipFiller false rest
    else if isPrintable c then skipFiller true rest
    else none
  | false, c :: rest =>
    if c = '\n' || isSpace c then skipFiller false rest
    else if c = '#' then skipFiller true rest
    else some (c :: rest)

/-- Skips the blanks after a statement. The line has to end there, but for a comment. -/
def endOfLine? (cs : List Char) : Option (List Char) :=
  match skipSpaces cs with
  | [] => some []
  | '\n' :: rest => some rest
  | '#' :: rest => some ('#' :: rest)
  | _ => none

end SerialBridge.Toml
