import SerialBridge.Toml.Document
import Mathlib.Tactic.Ring

/-!
# Spelled texts and their reading

Between quotation marks a character has up to four **spellings**: itself, a backslash and a letter,
and two forms of its code. The code of eight digits is the only one that every character has. A
spelling that a character does not have falls back on the next one, so that any choice of spellings
writes any text (`spell`).

Whichever is chosen, a text is read as itself (`readBasic_spell`). The quotation mark and the
backslash have no spelling as themselves, and the digits of a code lead the reader through its
number to the character (`readBasic_hexDigits`). Nor have the control characters, so that a spelled
text stays on its line.
-/

namespace SerialBridge.Toml

/-! ### Codes -/

/-- A digit in base sixteen. -/
def hexDigit (capital : Bool) (d : Nat) : Char :=
  if capital then d.digitChar.toUpper else d.digitChar

/-- The last digits of a number in base sixteen. -/
def hexDigits (capital : Bool) : Nat → Nat → List Char
  | 0, _ => []
  | places + 1, n => hexDigit capital (n / 16 ^ places % 16) :: hexDigits capital places n

/-- A digit is read as its value, capital or not. -/
theorem digit?_hexDigit (capital : Bool) {d : Nat} (hd : d < 16) :
    digit? 16 (hexDigit capital d) = some d := by
  revert capital d
  decide

theorem isPrintable_hexDigit (capital : Bool) {d : Nat} (hd : d < 16) :
    isPrintable (hexDigit capital d) = true := by
  revert capital d
  decide

theorem isPrintable_of_mem_hexDigits {capital : Bool} {places n : Nat} {x : Char}
    (hx : x ∈ hexDigits capital places n) : isPrintable x = true := by
  induction places with
  | zero => cases hx
  | succ places ih =>
    rw [hexDigits, List.mem_cons] at hx
    rcases hx with rfl | hx
    · exact isPrintable_hexDigit capital (Nat.mod_lt _ (by decide))
    · exact ih hx

theorem character?_toNat (c : Char) : character? c.toNat = some c := by
  have hvalid : c.toNat.isValidChar := c.valid
  rw [character?, if_pos hvalid, Char.ofNat_toNat]

/-- A digit before the last adds to the value. -/
theorem readCode_digit {next : Mode → Option (List Char × List Char)} {x : Char}
    {d afterNext value : Nat} (hd : digit? 16 x = some d) :
    readCode next x (afterNext + 1) value = next (.code afterNext (value * 16 + d)) := by
  rw [readCode.eq_def, hd]

/-- The last digit makes the character, and the reader is back in the text. -/
theorem readCode_last {next : Mode → Option (List Char × List Char)} {x c : Char} {d value : Nat}
    (hd : digit? 16 x = some d) (hc : value * 16 + d = c.toNat) :
    readCode next x 0 value = keep c (next (.text false)) := by
  rw [readCode.eq_def, hd]
  simp only [hc, character?_toNat]

/-- The digits that are left make the character together with those before them, which have made
`value`. -/
theorem readBasic_hexDigits {c : Char} (capital : Bool) (n : Nat) (rest : List Char) :
    ∀ {places value : Nat}, value * 16 ^ (places + 1) + n % 16 ^ (places + 1) = c.toNat →
      readBasic (.code places value) (hexDigits capital (places + 1) n ++ rest) =
        keep c (readBasic (.text false) rest)
  | 0, value, h => by
    have hd : n / 16 ^ 0 % 16 < 16 := Nat.mod_lt _ (by decide)
    have hc : value * 16 + n / 16 ^ 0 % 16 = c.toNat := by simpa using h
    exact readCode_last (digit?_hexDigit capital hd) hc
  | places + 1, value, h => by
    have hd : n / 16 ^ (places + 1) % 16 < 16 := Nat.mod_lt _ (by decide)
    have hc : (value * 16 + n / 16 ^ (places + 1) % 16) * 16 ^ (places + 1) +
        n % 16 ^ (places + 1) = c.toNat := by
      rw [← h, @Nat.mod_pow_succ n 16 (places + 1)]
      ring
    -- By induction on the digits that are left: those read so far have made a larger value.
    have hrest := readBasic_hexDigits capital n rest hc
    rw [hexDigits, List.cons_append, readBasic, readCode_digit (digit?_hexDigit capital hd)]
    exact hrest

/-! ### Spelled texts -/

/-- The letter that stands for a character after a backslash, if there is one. -/
def letter? : Char → Option Char
  | '\x08' => some 'b'
  | '\t' => some 't'
  | '\n' => some 'n'
  | '\x0C' => some 'f'
  | '\r' => some 'r'
  | '"' => some '"'
  | '\\' => some '\\'
  | _ => none

/-- The spellings of a character. -/
inductive Spelling where
  /-- The character itself. -/
  | plain
  /-- A backslash and a letter. -/
  | letter
  /-- Its code with four digits. -/
  | code (capital : Bool)
  /-- Its code with eight digits. -/
  | longCode (capital : Bool)

/-- Writes a character with the code of eight digits. -/
def writeLongCode (capital : Bool) (c : Char) : List Char :=
  '\\' :: 'U' :: hexDigits capital 8 c.toNat

/-- Writes a character with its code. -/
def writeCode (capital : Bool) (c : Char) : List Char :=
  if c.toNat < 16 ^ 4 then '\\' :: 'u' :: hexDigits capital 4 c.toNat else writeLongCode capital c

/-- Writes a character with a letter, or else with its code. -/
def writeLetter (c : Char) : List Char :=
  match letter? c with
  | some l => ['\\', l]
  | none => writeCode true c

/-- Writes a character as itself, or else with an escape. -/
def writePlain (c : Char) : List Char :=
  if isPrintable c && c ≠ '"' && c ≠ '\\' then [c] else writeLetter c

/-- Writes a character in this spelling. -/
def Spelling.write : Spelling → Char → List Char
  | .plain, c => writePlain c
  | .letter, c => writeLetter c
  | .code capital, c => writeCode capital c
  | .longCode capital, c => writeLongCode capital c

/-- Writes a text, each character in the spelling that is chosen for its place. -/
def spell : (Nat → Spelling) → List Char → List Char
  | _, [] => []
  | choice, c :: cs => (choice 0).write c ++ spell (fun n => choice (n + 1)) cs

/-- The letters are those that the reader expects after a backslash. -/
theorem escape?_of_letter? {c l : Char} (h : letter? c = some l) :
    escape? l = some (.character c) ∧ isPrintable l = true := by
  unfold letter? at h
  split at h
  case h_8 => cases h
  all_goals
    cases h
    exact ⟨rfl, by decide⟩

/-- Eight digits are enough for every character. -/
theorem toNat_lt_sixteen_pow (c : Char) : c.toNat < 16 ^ 8 := by
  have hvalid : c.toNat.isValidChar := c.valid
  unfold Nat.isValidChar at hvalid
  omega

section

variable (c : Char) (rest : List Char)

/-- A code with enough digits for the character is read as the character. -/
theorem readBasic_code (capital : Bool) {l : Char} {places : Nat}
    (hl : escape? l = some (.code places)) (hc : c.toNat < 16 ^ (places + 1)) :
    readBasic (.text false) ('\\' :: l :: hexDigits capital (places + 1) c.toNat ++ rest) =
      keep c (readBasic (.text false) rest) := by
  have hvalue : 0 * 16 ^ (places + 1) + c.toNat % 16 ^ (places + 1) = c.toNat := by
    rw [Nat.zero_mul, Nat.zero_add, Nat.mod_eq_of_lt hc]
  change readEscape (fun m => readBasic m _) l = _
  rw [readEscape, hl]
  exact readBasic_hexDigits capital c.toNat rest hvalue

theorem readBasic_writeLongCode (capital : Bool) :
    readBasic (.text false) (writeLongCode capital c ++ rest) =
      keep c (readBasic (.text false) rest) :=
  readBasic_code c rest capital rfl (toNat_lt_sixteen_pow c)

theorem readBasic_writeCode (capital : Bool) :
    readBasic (.text false) (writeCode capital c ++ rest) =
      keep c (readBasic (.text false) rest) := by
  rw [writeCode]
  split
  next h => exact readBasic_code c rest capital rfl h
  next => exact readBasic_writeLongCode c rest capital

theorem readBasic_writeLetter :
    readBasic (.text false) (writeLetter c ++ rest) = keep c (readBasic (.text false) rest) := by
  rw [writeLetter]
  split
  next l h =>
    change readEscape (fun m => readBasic m rest) l = _
    rw [readEscape, (escape?_of_letter? h).1]
  next => exact readBasic_writeCode c rest true

theorem readBasic_writePlain :
    readBasic (.text false) (writePlain c ++ rest) = keep c (readBasic (.text false) rest) := by
  rw [writePlain]
  split
  next h =>
    simp only [Bool.and_eq_true, decide_eq_true_eq] at h
    obtain ⟨⟨hprintable, hquote⟩, hbackslash⟩ := h
    -- The reader asks for the marks that mean something in a text before it takes a character.
    change (if c = '"' then _ else if c = '\\' then _ else _) = _
    rw [if_neg hquote, if_neg hbackslash, if_pos hprintable]
    rfl
  next => exact readBasic_writeLetter c rest

/-- In every spelling a character is read as itself. -/
theorem Spelling.readBasic_write (s : Spelling) :
    readBasic (.text false) (s.write c ++ rest) = keep c (readBasic (.text false) rest) := by
  cases s with
  | plain => exact readBasic_writePlain c rest
  | letter => exact readBasic_writeLetter c rest
  | code capital => exact readBasic_writeCode c rest capital
  | longCode capital => exact readBasic_writeLongCode c rest capital

end

/-- Every choice of spellings is read as the text, up to the mark that ends it. -/
theorem readBasic_spell (choice : Nat → Spelling) (cs rest : List Char) :
    readBasic (.text false) (spell choice cs ++ '"' :: rest) = some (cs, rest) := by
  induction cs generalizing choice with
  | nil => rfl
  -- The choice varies, since the rest of the text begins at the next place.
  | cons c cs ih =>
    rw [spell, List.append_assoc, Spelling.readBasic_write, ih]
    rfl

/-! ### What a spelling consists of -/

theorem isPrintable_of_mem_writeLongCode {capital : Bool} {c x : Char}
    (hx : x ∈ writeLongCode capital c) : isPrintable x = true := by
  simp only [writeLongCode, List.mem_cons] at hx
  rcases hx with rfl | rfl | hx
  · rfl
  · rfl
  · exact isPrintable_of_mem_hexDigits hx

theorem isPrintable_of_mem_writeCode {capital : Bool} {c x : Char}
    (hx : x ∈ writeCode capital c) : isPrintable x = true := by
  rw [writeCode] at hx
  split at hx
  · simp only [List.mem_cons] at hx
    rcases hx with rfl | rfl | hx
    · rfl
    · rfl
    · exact isPrintable_of_mem_hexDigits hx
  · exact isPrintable_of_mem_writeLongCode hx

theorem isPrintable_of_mem_writeLetter {c x : Char} (hx : x ∈ writeLetter c) :
    isPrintable x = true := by
  rw [writeLetter] at hx
  split at hx
  next l h =>
    simp only [List.mem_cons, List.not_mem_nil, or_false] at hx
    rcases hx with rfl | rfl
    · rfl
    · exact (escape?_of_letter? h).2
  next => exact isPrintable_of_mem_writeCode hx

/-- A spelling consists of characters that may stand in a line. -/
theorem Spelling.isPrintable_of_mem_write {s : Spelling} {c x : Char} (hx : x ∈ s.write c) :
    isPrintable x = true := by
  cases s with
  | plain =>
    rw [write, writePlain] at hx
    split at hx
    next h =>
      simp only [Bool.and_eq_true] at h
      obtain rfl := List.mem_singleton.mp hx
      exact h.1.1
    next => exact isPrintable_of_mem_writeLetter hx
  | letter => exact isPrintable_of_mem_writeLetter hx
  | code _ => exact isPrintable_of_mem_writeCode hx
  | longCode _ => exact isPrintable_of_mem_writeLongCode hx

theorem isPrintable_of_mem_spell {choice : Nat → Spelling} {cs : List Char} {x : Char}
    (hx : x ∈ spell choice cs) : isPrintable x = true := by
  induction cs generalizing choice with
  | nil => cases hx
  | cons c cs ih =>
    rcases List.mem_append.mp hx with hx | hx
    · exact Spelling.isPrintable_of_mem_write hx
    · exact ih hx

end SerialBridge.Toml
