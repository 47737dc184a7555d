import SerialBridge.Proofs.Toml.Spelling
import Mathlib.Data.List.Basic

/-!
# Literals and their reading

A **literal** is a text between quotation marks, in any spelling, or an integer in base ten. It is
read as what it stands for, whatever follows on the next line (`Literal.readScalar_write`).

Of an integer the reader makes the same number because it undoes `Nat.toDigits`
(`Nat.ofDigitChars_toDigits`). What has to be shown is that it comes to do so: a decimal is no
number in another base, no truth value, and does not begin with a zero that is not all of it.
-/

namespace SerialBridge.Toml

/-! ### Characters -/

theorem isAlphanum_of_isDigit {x : Char} (hx : x.isDigit = true) : x.isAlphanum = true := by
  rw [Char.isAlphanum, hx, Bool.or_true]

theorem isPrintable_of_isAlphanum {x : Char} (hx : x.isAlphanum = true) :
    isPrintable x = true := by
  -- Control characters are few enough to look at each.
  have hcontrol : ∀ n < 32, (Char.ofNat n).isAlphanum = false := by decide
  have hspace : ' ' ≤ x := by
    by_contra h
    have hlt : x.toNat < 32 := by
      rw [Char.le_def, UInt32.le_iff_toNat_le] at h
      exact Nat.lt_of_not_le h
    have hnot := hcontrol x.toNat hlt
    rw [Char.ofNat_toNat, hx] at hnot
    cases hnot
  have hdelete : x ≠ '\x7F' := by
    rintro rfl
    exact absurd hx (by decide)
  simp [isPrintable, hspace, hdelete]

section

variable {p : Char → Bool} {cs rest : List Char} {c : Char}

theorem takeWhile_append_cons (hcs : ∀ x ∈ cs, p x = true) (hc : p c = false) :
    (cs ++ c :: rest).takeWhile p = cs := by
  rw [List.takeWhile_append_of_pos hcs, List.takeWhile_cons_of_neg (by simp [hc]),
    List.append_nil]

theorem dropWhile_append_cons (hcs : ∀ x ∈ cs, p x = true) (hc : p c = false) :
    (cs ++ c :: rest).dropWhile p = c :: rest := by
  rw [List.dropWhile_append_of_pos hcs, List.dropWhile_cons_of_neg (by simp [hc])]

end

/-! ### Integers -/

/-- The value of a digit in base ten. -/
def digitValue (x : Char) : Nat := x.toNat - '0'.toNat

theorem digitValue_digitChar {d : Nat} (hd : d < 10) : digitValue d.digitChar = d := by
  revert d
  decide

theorem digit?_of_isDigit {x : Char} (hx : x.isDigit = true) :
    digit? 10 x = some (digitValue x) := by
  have hlt : digitValue x < 10 := by
    simp only [Char.isDigit, Bool.and_eq_true, decide_eq_true_eq] at hx
    have : x.toNat ≤ 57 := hx.2
    simp only [digitValue, Char.reduceToNat]
    omega
  rw [digit?, if_pos hx]
  exact if_pos hlt

/-- Digits are read one by one if nothing separates them. -/
theorem digits?_of_isDigit : ∀ {cs : List Char}, cs ≠ [] → (∀ x ∈ cs, x.isDigit = true) →
    digits? 10 cs = some (cs.map digitValue)
  | [], h, _ => absurd rfl h
  | [c], _, h => by
    rw [digits?, digit?_of_isDigit (h c List.mem_cons_self)]
    rfl
  | c :: d :: rest, _, h => by
    have hd : d ≠ '_' := by
      rintro rfl
      exact absurd (h '_' (by simp)) (by decide)
    have hrest := digits?_of_isDigit (List.cons_ne_nil d rest)
      fun x hx => h x (List.mem_cons_of_mem c hx)
    rw [digits?.eq_def]
    split
    next heq => cases heq
    next heq => cases heq
    next heq =>
      cases heq
      exact absurd rfl hd
    next heq =>
      cases heq
      rw [digit?_of_isDigit (h c List.mem_cons_self), hrest]
      rfl

theorem ofDigits_map_digitValue (cs : List Char) :
    ofDigits 10 (cs.map digitValue) = Nat.ofDigitChars 10 cs 0 := by
  rw [ofDigits, List.foldl_map, Nat.ofDigitChars]
  simp only [Nat.mul_comm, digitValue]

/-- Only zero itself begins with a zero. -/
theorem head?_toDigits_ne {n : Nat} (hn : 0 < n) :
    ((Nat.toDigits 10 n).map digitValue).head? ≠ some 0 := by
  induction n using Nat.strong_induction_on with
  | _ n ih =>
    -- The first digit is that of a tenth of the number, as long as there is more than one.
    rcases Nat.lt_or_ge n 10 with h | h
    · rw [Nat.toDigits_of_lt_base h, List.map_singleton, digitValue_digitChar h]
      simpa using hn.ne'
    · have hsplit : Nat.toDigits 10 n = Nat.toDigits 10 (n / 10) ++ Nat.toDigits 10 (n % 10) := by
        rw [Nat.toDigits_append_toDigits (by decide) (by omega) (Nat.mod_lt _ (by decide)),
          Nat.div_add_mod]
      have hne : (Nat.toDigits 10 (n / 10)).map digitValue ≠ [] := by simp
      rw [hsplit, List.map_append, List.head?_append_of_ne_nil _ hne]
      exact ih (n / 10) (by omega) (by omega)

/-- The digits of a number make a decimal, which may not begin with a zero. -/
theorem decimal?_toDigits (n : Nat) :
    decimal? (Nat.toDigits 10 n) = some ((Nat.toDigits 10 n).map digitValue) := by
  have hdigits : digits? 10 (Nat.toDigits 10 n) = some ((Nat.toDigits 10 n).map digitValue) :=
    digits?_of_isDigit Nat.toDigits_ne_nil
      fun x hx => Nat.isDigit_of_mem_toDigits (by decide) (by decide) hx
  have hzero : (((Nat.toDigits 10 n).map digitValue).length = 1 ||
      ((Nat.toDigits 10 n).map digitValue).head? ≠ some 0) = true := by
    rcases Nat.eq_zero_or_pos n with rfl | hn
    · rfl
    · simp only [head?_toDigits_ne hn, ne_eq, not_false_eq_true, decide_true, Bool.or_true]
  rw [decimal?, hdigits, Option.filter_some, if_pos hzero]

theorem ofDigits_toDigits (n : Nat) : ofDigits 10 ((Nat.toDigits 10 n).map digitValue) = n := by
  rw [ofDigits_map_digitValue, Nat.ofDigitChars_toDigits (by decide) (by decide)]

theorem splitSign_toDigits (n : Nat) :
    splitSign (Nat.toDigits 10 n) = (false, Nat.toDigits 10 n) := by
  have hdigit : ∀ {x : Char} {rest : List Char}, Nat.toDigits 10 n = x :: rest →
      x.isDigit = true := by
    intro x rest h
    have hx : x ∈ Nat.toDigits 10 n := by simp [h]
    exact Nat.isDigit_of_mem_toDigits (by decide) (by decide) hx
  rw [splitSign.eq_def]
  split
  next h => exact absurd (hdigit h) (by decide)
  next h => exact absurd (hdigit h) (by decide)
  next => rfl

/-- An integer in base ten. -/
def decimal (n : Int) : List Char := (toString n).toList

theorem decimal_natCast (n : Nat) : decimal n = Nat.toDigits 10 n := Nat.toList_repr

theorem decimal_negSucc (n : Nat) : decimal (.negSucc n) = '-' :: Nat.toDigits 10 (n + 1) := by
  have h : toString (Int.negSucc n) = "-" ++ (n + 1).repr := rfl
  rw [decimal, h, String.toList_append, Nat.toList_repr]
  rfl

/-- A decimal consists of digits, after a sign at most. -/
theorem isDigit_of_mem_decimal {n : Int} {x : Char} (hx : x ∈ decimal n) :
    x.isDigit = true ∨ x = '-' := by
  cases n with
  | ofNat n =>
    rw [Int.ofNat_eq_natCast, decimal_natCast] at hx
    exact .inl (Nat.isDigit_of_mem_toDigits (by decide) (by decide) hx)
  | negSucc n =>
    rw [decimal_negSucc, List.mem_cons] at hx
    exact hx.symm.imp_left fun hx => Nat.isDigit_of_mem_toDigits (by decide) (by decide) hx

theorem isDigit_of_decimal_eq_cons {n : Int} {x : Char} {xs : List Char}
    (h : decimal n = x :: xs) : x.isDigit = true ∨ x = '-' :=
  isDigit_of_mem_decimal (h ▸ List.mem_cons_self)

theorem decimal_ne_nil (n : Int) : decimal n ≠ [] := by
  cases n with
  | ofNat n =>
    rw [Int.ofNat_eq_natCast, decimal_natCast]
    exact Nat.toDigits_ne_nil
  | negSucc n =>
    rw [decimal_negSucc]
    exact List.cons_ne_nil _ _

/-- Whatever its size, an integer in base ten is read as itself. -/
theorem unboundedInteger?_decimal (n : Int) : unboundedInteger? (decimal n) = some n := by
  -- The alternatives for other bases are out: they have a letter in the second place.
  have hletter : ∀ {l : Char} {rest : List Char}, decimal n = '0' :: l :: rest →
      l.isDigit = true ∨ l = '-' := by
    intro l rest h
    have hl : l ∈ decimal n := by simp [h]
    exact isDigit_of_mem_decimal hl
  rw [unboundedInteger?.eq_def]
  split
  next h => exact absurd (hletter h) (by decide)
  next h => exact absurd (hletter h) (by decide)
  next h => exact absurd (hletter h) (by decide)
  next =>
    cases n with
    | ofNat n =>
      rw [Int.ofNat_eq_natCast, decimal_natCast, splitSign_toDigits]
      change (decimal? (Nat.toDigits 10 n)).map (fun ds => (ofDigits 10 ds : Int)) = _
      rw [decimal?_toDigits, Option.map_some, ofDigits_toDigits]
    | negSucc n =>
      rw [decimal_negSucc]
      change (decimal? (Nat.toDigits 10 (n + 1))).map (fun ds => -(ofDigits 10 ds : Int)) = _
      rw [decimal?_toDigits, Option.map_some, ofDigits_toDigits]
      rfl

/-- An integer of 64 bits is read as itself. -/
theorem integer?_decimal (n : Int64) : integer? (decimal n.toInt) = some n.toInt := by
  have hrange : (-Int.pow 2 63 ≤ n.toInt && n.toInt < Int.pow 2 63) = true := by
    simp only [Bool.and_eq_true, decide_eq_true_eq]
    exact ⟨n.le_toInt, n.toInt_lt⟩
  rw [integer?, unboundedInteger?_decimal, Option.filter_some, if_pos hrange]

/-- An integer is no truth value, as these are words. -/
theorem ofToken?_decimal (n : Int64) :
    Scalar.ofToken? (decimal n.toInt) = some (.integer n.toInt) := by
  have htrue : decimal n.toInt ≠ ['t', 'r', 'u', 'e'] :=
    fun h => absurd (isDigit_of_decimal_eq_cons h) (by decide)
  have hfalse : decimal n.toInt ≠ ['f', 'a', 'l', 's', 'e'] :=
    fun h => absurd (isDigit_of_decimal_eq_cons h) (by decide)
  rw [Scalar.ofToken?, if_neg htrue, if_neg hfalse, integer?_decimal]

/-- The token of an integer is all of it, if the line ends there. -/
theorem splitToken_decimal (n : Int) (rest : List Char) :
    splitToken (decimal n ++ '\n' :: rest) = (decimal n, '\n' :: rest) := by
  have htoken : ∀ x ∈ decimal n, isTokenChar x = true := by
    intro x hx
    rcases isDigit_of_mem_decimal hx with hx | rfl
    · rw [isTokenChar, isAlphanum_of_isDigit hx]
      rfl
    · rfl
  rw [splitToken, takeWhile_append_cons htoken rfl, dropWhile_append_cons htoken rfl]
  rfl

/-! ### Literals -/

/-- A text or an integer, with the way it is written. -/
inductive Literal where
  /-- A text, with the spellings of its characters. -/
  | text (choice : Nat → Spelling) (value : String)
  /-- An integer. -/
  | integer (value : Int64)

namespace Literal

/-- Writes a literal. -/
def write : Literal → List Char
  | .text choice value => '"' :: (spell choice value.toList ++ ['"'])
  | .integer value => decimal value.toInt

/-- What a literal stands for. -/
def scalar : Literal → Scalar
  | .text _ value => .text value
  | .integer value => .integer value.toInt

end Literal

/-- At the end of a line, the mark after an empty text does not begin a text of several lines. -/
theorem readQuoted_spell (choice : Nat → Spelling) (value : String) (rest : List Char) :
    readQuoted ('"' :: (spell choice value.toList ++ '"' :: '\n' :: rest)) =
      some (value, '\n' :: rest) := by
  have hread := readBasic_spell choice value.toList ('\n' :: rest)
  rw [readQuoted.eq_def]
  split
  next rest' h =>
    rw [(List.cons.inj h).2] at hread
    have hend : some ([], '"' :: rest') = some (value.toList, '\n' :: rest) := hread
    simp at hend
  next h => cases h
  next =>
    rw [readShort, hread, asText, Option.map_some]
    simp only [String.ofList_toList]

theorem readScalar_decimal (n : Int64) (rest : List Char) :
    readScalar (decimal n.toInt ++ '\n' :: rest) =
      some (.integer n.toInt, '\n' :: rest) := by
  obtain ⟨x, xs, hx⟩ := List.exists_cons_of_ne_nil (decimal_ne_nil n.toInt)
  have hmark : (x = '"' || x = '\x27') = false := by
    rcases isDigit_of_decimal_eq_cons hx with h | rfl
    · simp only [Bool.or_eq_false_iff, decide_eq_false_iff_not]
      constructor <;> rintro rfl <;> exact absurd h (by decide)
    · rfl
  have hsplit := splitToken_decimal n.toInt rest
  rw [hx, List.cons_append] at hsplit ⊢
  rw [readScalar, hmark, if_neg Bool.false_ne_true, hsplit, ← hx]
  change (Scalar.ofToken? (decimal n.toInt)).map _ = _
  rw [ofToken?_decimal, Option.map_some]

/-- A literal is read as what it stands for, up to the end of its line. -/
theorem Literal.readScalar_write (l : Literal) (rest : List Char) :
    readScalar (l.write ++ '\n' :: rest) = some (l.scalar, '\n' :: rest) := by
  cases l with
  | text choice value =>
    rw [write, List.cons_append, List.append_assoc, List.singleton_append]
    change (readQuoted _).map _ = _
    rw [readQuoted_spell, Option.map_some, scalar]
  | integer value => exact readScalar_decimal value rest

/-- A literal consists of characters that may stand in a line. -/
theorem Literal.isPrintable_of_mem_write {l : Literal} {x : Char} (hx : x ∈ l.write) :
    isPrintable x = true := by
  cases l with
  | text choice value =>
    simp only [write, List.mem_cons, List.mem_append, List.not_mem_nil, or_false] at hx
    rcases hx with rfl | hx | rfl
    · rfl
    · exact isPrintable_of_mem_spell hx
    · rfl
  | integer value =>
    rcases isDigit_of_mem_decimal hx with hx | rfl
    · exact isPrintable_of_isAlphanum (isAlphanum_of_isDigit hx)
    · rfl

/-- The first character of a literal. -/
theorem Literal.exists_write_eq (l : Literal) :
    ∃ x xs, l.write = x :: xs ∧ (x = '"' ∨ x.isDigit = true ∨ x = '-') := by
  cases l with
  | text choice value => exact ⟨'"', _, rfl, .inl rfl⟩
  | integer value =>
    obtain ⟨x, xs, hx⟩ := List.exists_cons_of_ne_nil (decimal_ne_nil value.toInt)
    exact ⟨x, xs, hx, .inr (isDigit_of_decimal_eq_cons hx)⟩

end SerialBridge.Toml
