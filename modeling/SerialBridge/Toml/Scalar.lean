import SerialBridge.Toml.Quoted

/-!
# Scalars

The values that have no parts. One that is not quoted is a **token**, a run of letters, digits
and the five marks that numbers and dates are written with; what it means is decided by the whole
token.

Texts, integers and truth values carry what they say. No setting of a bridge is a fraction or a
date, so of these only their well-formedness matters, and a `Scalar` says no more than that it is
one.
-/

namespace SerialBridge.Toml

/-- A value without parts. -/
inductive Scalar where
  /-- A text. -/
  | text (value : String)
  /-- An integer of 64 bits. -/
  | integer (value : Int)
  /-- A truth value. -/
  | boolean (value : Bool)
  /-- A fraction, an infinity or not a number. -/
  | float
  /-- A date, a time of day or both. -/
  | moment
deriving DecidableEq

/-- A character of a token. -/
def isTokenChar (c : Char) : Bool :=
  c.isAlphanum || c = '+' || c = '-' || c = '_' || c = '.' || c = ':'

/-! ### Integers -/

/-- The values of the digits, where single underscores may stand between two digits. -/
def digits? (base : Nat) : List Char → Option (List Nat)
  | [] => none
  | [c] => (digit? base c).map fun d => [d]
  | c :: '_' :: rest => do return (← digit? base c) :: (← digits? base rest)
  | c :: rest => do return (← digit? base c) :: (← digits? base rest)

/-- The number that the digits stand for. -/
def ofDigits (base : Nat) (digits : List Nat) : Nat := digits.foldl (fun n d => n * base + d) 0

/-- Digits in base ten, without a zero in front of others. -/
def decimal? (cs : List Char) : Option (List Nat) :=
  (digits? 10 cs).filter fun ds => ds.length = 1 || ds.head? ≠ some 0

/-- Splits off a sign; the answer says whether it is a minus. -/
def splitSign : List Char → Bool × List Char
  | '-' :: rest => (true, rest)
  | '+' :: rest => (false, rest)
  | cs => (false, cs)

/-- The integer that a token stands for, whatever its size. -/
def unboundedInteger? : List Char → Option Int
  | '0' :: 'x' :: rest => (digits? 16 rest).map fun ds => ofDigits 16 ds
  | '0' :: 'o' :: rest => (digits? 8 rest).map fun ds => ofDigits 8 ds
  | '0' :: 'b' :: rest => (digits? 2 rest).map fun ds => ofDigits 2 ds
  | token =>
    let (negative, cs) := splitSign token
    (decimal? cs).map fun ds => if negative then -ofDigits 10 ds else ofDigits 10 ds

/-- The integer that a token stands for, if it fits into 64 bits. -/
def integer? (token : List Char) : Option Int :=
  (unboundedInteger? token).filter fun n => -Int.pow 2 63 ≤ n && n < Int.pow 2 63

/-! ### Fractions -/

/-- Whether the number with these digits, shifted by the exponent, is nearer to infinity than to
the greatest finite number of double precision. -/
def overflows (digits : List Nat) (exponent : Int) : Bool :=
  let places := (digits.dropWhile (· = 0)).length + exponent
  let n := ofDigits 10 digits
  let bound := Nat.pow 2 1024 - Nat.pow 2 970
  if n = 0 || places ≤ 308 then false
  else if 309 < places then true
  else if 0 ≤ exponent then bound ≤ n * Nat.pow 10 exponent.toNat
  else bound * Nat.pow 10 (-exponent).toNat ≤ n

/-- A digit in base ten, or an underscore. -/
def isDigitOrUnderscore (c : Char) : Bool := c.isDigit || c = '_'

/-- The digits after the point, if there is a point. -/
def fraction? : List Char → Option (List Nat × List Char)
  | '.' :: rest => do
    let ds ← digits? 10 (rest.takeWhile isDigitOrUnderscore)
    return (ds, rest.dropWhile isDigitOrUnderscore)
  | cs => some ([], cs)

/-- The exponent, which is all that is left. -/
def exponent? : List Char → Option Int
  | [] => some 0
  | c :: rest =>
    if c = 'e' || c = 'E' then
      let (negative, cs) := splitSign rest
      (digits? 10 cs).map fun ds => if negative then -ofDigits 10 ds else ofDigits 10 ds
    else none

/-- Whether a token is a fraction. A positive number that rounds to infinity is none; a negative
one may. -/
def isFloat (token : List Char) : Bool :=
  let (negative, cs) := splitSign token
  let whole := cs.takeWhile isDigitOrUnderscore
  let rest := cs.dropWhile isDigitOrUnderscore
  if cs = ['i', 'n', 'f'] || cs = ['n', 'a', 'n'] then true
  else if rest.isEmpty then false
  else
    match decimal? whole, fraction? rest with
    | some ws, some (fs, rest) =>
      match exponent? rest with
      | some e => negative || !overflows (ws ++ fs) (e - fs.length)
      | none => false
    | _, _ => false

/-! ### Dates and times -/

/-- Reads that many digits. -/
def readNumber (places : Nat) (cs : List Char) : Option (Nat × List Char) :=
  let ds := cs.take places
  if ds.length = places && ds.all Char.isDigit then
    (ds.mapM (digit? 10)).map fun values => (ofDigits 10 values, cs.drop places)
  else none

/-- Skips a character that has to stand here. -/
def skip? (expected : Char) : List Char → Option (List Char)
  | c :: rest => if c = expected then some rest else none
  | [] => none

/-- The number of days of a month. -/
def daysInMonth (year month : Nat) : Nat :=
  if month = 2 then
    if year % 4 = 0 && (year % 100 ≠ 0 || year % 400 = 0) then 29 else 28
  else if month = 4 || month = 6 || month = 9 || month = 11 then 30
  else 31

/-- Skips a date. -/
def date? (cs : List Char) : Option (List Char) := do
  let (year, cs) ← readNumber 4 cs
  let cs ← skip? '-' cs
  let (month, cs) ← readNumber 2 cs
  let cs ← skip? '-' cs
  let (day, cs) ← readNumber 2 cs
  if 1 ≤ month && month ≤ 12 && 1 ≤ day && day ≤ daysInMonth year month then some cs else none

/-- Skips hours and minutes. -/
def hoursAndMinutes? (cs : List Char) : Option (List Char) := do
  let (hours, cs) ← readNumber 2 cs
  let cs ← skip? ':' cs
  let (minutes, cs) ← readNumber 2 cs
  if hours ≤ 23 && minutes ≤ 59 then some cs else none

/-- Skips a time of day. The sixtieth second may be a leap second. -/
def time? (cs : List Char) : Option (List Char) := do
  let cs ← hoursAndMinutes? cs
  let cs ← skip? ':' cs
  let (seconds, cs) ← readNumber 2 cs
  if 60 < seconds then none
  else
    match cs with
    | '.' :: rest =>
      if (rest.takeWhile Char.isDigit).isEmpty then none else some (rest.dropWhile Char.isDigit)
    | cs => some cs

/-- Whether this is an offset from universal time. -/
def isOffset : List Char → Bool
  | ['Z'] => true
  | ['z'] => true
  | '+' :: rest => hoursAndMinutes? rest = some []
  | '-' :: rest => hoursAndMinutes? rest = some []
  | _ => false

/-- Whether a token is a date, a time of day or both. -/
def isMoment (token : List Char) : Bool :=
  match date? token with
  | none => time? token = some []
  | some [] => true
  | some (c :: rest) =>
    (c = 'T' || c = 't' || c = ' ') &&
      match time? rest with
      | some [] => true
      | some offset => isOffset offset
      | none => false

/-! ### Tokens -/

/-- The meaning of a token. -/
def Scalar.ofToken? (token : List Char) : Option Scalar :=
  if token = ['t', 'r', 'u', 'e'] then some (.boolean true)
  else if token = ['f', 'a', 'l', 's', 'e'] then some (.boolean false)
  else
    match integer? token with
    | some n => some (.integer n)
    | none => if isFloat token then some .float else if isMoment token then some .moment else none

/-- Splits off a token. After a date one blank and a digit still belong to it. -/
def splitToken (cs : List Char) : List Char × List Char :=
  let token := cs.takeWhile isTokenChar
  match cs.dropWhile isTokenChar with
  | ' ' :: c :: rest =>
    if date? token = some [] && c.isDigit then
      (token ++ ' ' :: (c :: rest).takeWhile isTokenChar, (c :: rest).dropWhile isTokenChar)
    else (token, ' ' :: c :: rest)
  | rest => (token, rest)

/-- Reads a scalar. -/
def readScalar (cs : List Char) : Option (Scalar × List Char) :=
  match cs with
  | [] => none
  | c :: _ =>
    if c = '"' || c = '\x27' then (readQuoted cs).map fun (s, rest) => (.text s, rest)
    else
      let (token, rest) := splitToken cs
      (Scalar.ofToken? token).map fun s => (s, rest)

end SerialBridge.Toml
