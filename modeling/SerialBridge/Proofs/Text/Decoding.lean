import SerialBridge.Text.Utf8

/-!
# Decoding what was encoded

The reader of `Utf8.decodeFrom` meets the bytes of a text, all of them or those in front of a cut.
Two things are to be known of it. The bytes of a character lead it from between two characters to
between two characters, and make it yield just that character (`Utf8.Spells.decodeFrom_append`). Of
a character that is cut through it yields one replacement, wherever the cut goes
(`Utf8.Spells.decodeFrom_take`).

Both hold of any bytes that **spell** a character, which is said in terms of the reader's states and
not of the encoding. That the encoding of a character spells it (`Utf8.spells_utf8EncodeChar`) is
where all arithmetic is: the bounds in which the reader expects the second byte are those within
which the encoding has it, since a character needs as many bytes as it gets and is no surrogate.
-/

namespace SerialBridge.Utf8

/-! ### Bytes that spell a character -/

/-- Bytes **complete** a character that has been begun: each lies within the bounds, and the payload
bits of all are the character. -/
inductive Unfinished.Completes (c : Char) : Unfinished → List UInt8 → Prop where
  /-- The last byte. -/
  | last {value : Nat} {low high b : UInt8} (hlow : low ≤ b) (hhigh : b ≤ high)
    (hc : Char.ofNat (value * 64 + (b.toNat - 0x80)) = c) : Completes c ⟨value, 0, low, high⟩ [b]
  /-- A byte before the last. -/
  | next {value afterNext : Nat} {low high b : UInt8} {rest : List UInt8} (hlow : low ≤ b)
    (hhigh : b ≤ high)
    (h : Completes c ⟨value * 64 + (b.toNat - 0x80), afterNext, 0x80, 0xBF⟩ rest) :
    Completes c ⟨value, afterNext + 1, low, high⟩ (b :: rest)

/-- Bytes **spell** a character. -/
inductive Spells (c : Char) : List UInt8 → Prop where
  /-- The byte is the character by itself. -/
  | single {b : UInt8} (h : lead b = .single c) : Spells c [b]
  /-- The byte begins the character, and others complete it. -/
  | longer {b : UInt8} {u : Unfinished} {rest : List UInt8} (h : lead b = .opens u)
    (hrest : u.Completes c rest) : Spells c (b :: rest)

namespace Unfinished.Completes

variable {c : Char} {u : Unfinished} {bytes : List UInt8}

theorem decodeFrom_append (h : u.Completes c bytes) (rest : List UInt8) :
    decodeFrom (some u) (bytes ++ rest) = c :: decodeFrom none rest := by
  induction h with
  | last hlow hhigh hc =>
    rw [List.singleton_append, decodeFrom, step, if_pos ⟨hlow, hhigh⟩, ← hc]
    rfl
  | next hlow hhigh _ ih =>
    rw [List.cons_append, decodeFrom, step, if_pos ⟨hlow, hhigh⟩]
    exact ih

theorem decodeFrom_take (h : u.Completes c bytes) {n : Nat} (hn : n < bytes.length) :
    decodeFrom (some u) (bytes.take n) = [replacement] := by
  induction h generalizing n with
  | last hlow hhigh hc =>
    obtain rfl : n = 0 := Nat.lt_one_iff.mp hn
    rfl
  | next hlow hhigh _ ih =>
    cases n with
    | zero => rfl
    | succ n =>
      rw [List.take_succ_cons, decodeFrom, step, if_pos ⟨hlow, hhigh⟩]
      exact ih (Nat.lt_of_succ_lt_succ hn)

end Unfinished.Completes

namespace Spells

variable {c : Char} {bytes : List UInt8}

/-- A character that is spelled out is read, and the reader goes on behind it. -/
theorem decodeFrom_append (h : Spells c bytes) (rest : List UInt8) :
    decodeFrom none (bytes ++ rest) = c :: decodeFrom none rest := by
  cases h with
  | single hlead =>
    rw [List.singleton_append, decodeFrom, step, startWith, hlead]
    rfl
  | longer hlead hrest =>
    rw [List.cons_append, decodeFrom, step, startWith, hlead]
    exact hrest.decodeFrom_append rest

/-- A character that is cut through is one invalid part, however little of it is missing. -/
theorem decodeFrom_take (h : Spells c bytes) {n : Nat} (hpos : 0 < n) (hn : n < bytes.length) :
    decodeFrom none (bytes.take n) = [replacement] := by
  obtain ⟨n, rfl⟩ := Nat.exists_eq_add_of_lt hpos
  rw [Nat.zero_add] at hn ⊢
  cases h with
  | single => exact absurd (Nat.lt_of_succ_lt_succ hn) (Nat.not_lt_zero n)
  | longer hlead hrest =>
    rw [List.take_succ_cons, decodeFrom, step, startWith, hlead]
    exact hrest.decodeFrom_take (Nat.lt_of_succ_lt_succ hn)

end Spells

/-! ### First bytes -/

section Lead

variable {b : UInt8}

/-- The state after the first of two bytes. -/
theorem lead_of_two (h : 0xC2 ≤ b.toNat) (h' : b.toNat < 0xE0) :
    lead b = .opens ⟨b.toNat - 0xC0, 0, 0x80, 0xBF⟩ := by
  simp only [lead, UInt8.lt_iff_toNat_lt, UInt8.reduceToNat]
  rw [if_neg (by omega), if_neg (by omega), if_pos h']

/-- The state after the first of three bytes. -/
theorem lead_of_three (h : 0xE0 ≤ b.toNat) (h' : b.toNat < 0xF0) : ∃ low high,
    lead b = .opens ⟨b.toNat - 0xE0, 1, low, high⟩ ∧
      low.toNat = (if b.toNat = 0xE0 then 0xA0 else 0x80) ∧
      high.toNat = (if b.toNat = 0xED then 0x9F else 0xBF) := by
  simp only [lead, UInt8.lt_iff_toNat_lt, ← UInt8.toNat_inj, UInt8.reduceToNat]
  rw [if_neg (by omega), if_neg (by omega), if_neg (by omega)]
  -- `E0` and `ED` are followed by bytes within narrower bounds than the others are.
  by_cases hfirst : b.toNat = 0xE0
  · simp only [hfirst, if_true]
    exact ⟨_, _, rfl, rfl, rfl⟩
  · by_cases hlast : b.toNat = 0xED
    · simp only [hlast]
      exact ⟨_, _, rfl, rfl, rfl⟩
    · rw [if_neg hfirst, if_neg hfirst, if_neg hlast, if_neg hlast, if_pos h']
      exact ⟨_, _, rfl, rfl, rfl⟩

/-- The state after the first of four bytes. -/
theorem lead_of_four (h : 0xF0 ≤ b.toNat) (h' : b.toNat ≤ 0xF4) : ∃ low high,
    lead b = .opens ⟨b.toNat - 0xF0, 2, low, high⟩ ∧
      low.toNat = (if b.toNat = 0xF0 then 0x90 else 0x80) ∧
      high.toNat = (if b.toNat = 0xF4 then 0x8F else 0xBF) := by
  simp only [lead, UInt8.lt_iff_toNat_lt, ← UInt8.toNat_inj, UInt8.reduceToNat]
  rw [if_neg (by omega), if_neg (by omega), if_neg (by omega), if_neg (by omega),
    if_neg (by omega), if_neg (by omega)]
  by_cases hfirst : b.toNat = 0xF0
  · simp only [hfirst]
    exact ⟨_, _, rfl, rfl, rfl⟩
  · by_cases hlast : b.toNat = 0xF4
    · simp only [hlast]
      exact ⟨_, _, rfl, rfl, rfl⟩
    · rw [if_neg hfirst, if_neg hfirst, if_neg hlast, if_pos (by omega), if_neg hlast]
      exact ⟨_, _, rfl, rfl, rfl⟩

end Lead

/-! ### The encoding of a character -/

/-- A byte inside a character. It carries the lowest six bits of the number. -/
def continuation (n : Nat) : UInt8 := .ofNat (n % 64 + 0x80)

theorem toNat_continuation (n : Nat) : (continuation n).toNat = n % 64 + 0x80 := by
  rw [continuation, UInt8.toNat_ofNat']
  omega

/-- The bits before the last six are completed by a continuation byte. -/
theorem completes_continuation (n : Nat) :
    Unfinished.Completes (Char.ofNat n) ⟨n / 64, 0, 0x80, 0xBF⟩ [continuation n] := by
  have hn := toNat_continuation n
  refine .last ?_ ?_ (congrArg Char.ofNat (by omega))
  · simp only [UInt8.le_iff_toNat_le, UInt8.reduceToNat]
    omega
  · simp only [UInt8.le_iff_toNat_le, UInt8.reduceToNat]
    omega

/-- Six more bits go in front of what completes a character. -/
theorem Unfinished.Completes.cons_continuation {c : Char} {n afterNext : Nat}
    {rest : List UInt8} (h : Unfinished.Completes c ⟨n, afterNext, 0x80, 0xBF⟩ rest)
    {low high : UInt8} (hlow : low.toNat ≤ n % 64 + 0x80) (hhigh : n % 64 + 0x80 ≤ high.toNat) :
    Unfinished.Completes c ⟨n / 64, afterNext + 1, low, high⟩ (continuation n :: rest) := by
  have hn := toNat_continuation n
  have hvalue : n / 64 * 64 + ((continuation n).toNat - 0x80) = n := by omega
  refine .next ?_ ?_ (by rwa [hvalue])
  · rwa [UInt8.le_iff_toNat_le, hn]
  · rwa [UInt8.le_iff_toNat_le, hn]

section Encoding

variable {n : Nat}

/-- A number of up to seven bits is its own byte. -/
theorem spells_one (h : n < 0x80) : Spells (Char.ofNat n) [.ofNat n] := by
  have hb : (UInt8.ofNat n).toNat = n := by
    rw [UInt8.toNat_ofNat']
    omega
  refine .single ?_
  rw [lead, if_pos (by rw [UInt8.lt_iff_toNat_lt, hb]; exact h), hb]

/-- Two bytes have room for eleven bits, and the first is at least `C2` as there are eight at least.
-/
theorem spells_two (h : 0x80 ≤ n) (h' : n < 0x800) :
    Spells (Char.ofNat n) [.ofNat (n / 64 % 32 + 0xC0), continuation n] := by
  have hb : (UInt8.ofNat (n / 64 % 32 + 0xC0)).toNat = n / 64 + 0xC0 := by
    rw [UInt8.toNat_ofNat']
    omega
  refine .longer (lead_of_two (by omega) (by omega)) ?_
  rw [hb, Nat.add_sub_cancel]
  exact completes_continuation n

/-- A number above the shortest forms leaves a second byte above the lower bound after `E0`, and one
that is no surrogate leaves it below the upper bound after `ED`. -/
theorem spells_three (h : 0x800 ≤ n) (h' : n < 0x10000) (hs : n < 0xD800 ∨ 0xDFFF < n) :
    Spells (Char.ofNat n)
      [.ofNat (n / 4096 % 16 + 0xE0), continuation (n / 64), continuation n] := by
  have hb : (UInt8.ofNat (n / 4096 % 16 + 0xE0)).toNat = n / 64 / 64 + 0xE0 := by
    rw [UInt8.toNat_ofNat']
    omega
  obtain ⟨low, high, hlead, hlow, hhigh⟩ :=
    lead_of_three (b := .ofNat (n / 4096 % 16 + 0xE0)) (by omega) (by omega)
  refine .longer hlead ?_
  rw [hb, Nat.add_sub_cancel]
  refine (completes_continuation n).cons_continuation ?_ ?_
  · rw [hlow]
    split <;> omega
  · rw [hhigh]
    split <;> omega

/-- The bounds after `F0` and `F4` are the ends of the range. -/
theorem spells_four (h : 0x10000 ≤ n) (h' : n < 0x110000) :
    Spells (Char.ofNat n) [.ofNat (n / 262144 % 8 + 0xF0), continuation (n / 4096),
      continuation (n / 64), continuation n] := by
  have hb : (UInt8.ofNat (n / 262144 % 8 + 0xF0)).toNat = n / 4096 / 64 + 0xF0 := by
    rw [UInt8.toNat_ofNat']
    omega
  obtain ⟨low, high, hlead, hlow, hhigh⟩ :=
    lead_of_four (b := .ofNat (n / 262144 % 8 + 0xF0)) (by omega) (by omega)
  have hrest : Unfinished.Completes (Char.ofNat n) ⟨n / 64 / 64, 1, 0x80, 0xBF⟩
      [continuation (n / 64), continuation n] :=
    (completes_continuation n).cons_continuation (Nat.le_add_left _ _)
      (by simp only [UInt8.reduceToNat]; omega)
  rw [Nat.div_div_eq_div_mul] at hrest
  refine .longer hlead ?_
  rw [hb, Nat.add_sub_cancel]
  refine hrest.cons_continuation ?_ ?_
  · rw [hlow]
    split <;> omega
  · rw [hhigh]
    split <;> omega

end Encoding

/-- **The encoding of a character spells it.** -/
theorem spells_utf8EncodeChar (c : Char) : Spells c (String.utf8EncodeChar c) := by
  have hvalid : c.val.toNat < 0xD800 ∨ 0xDFFF < c.val.toNat ∧ c.val.toNat < 0x110000 := c.valid
  have hc : Char.ofNat c.val.toNat = c := Char.ofNat_toNat c
  rw [String.utf8EncodeChar]
  -- All that matters of the character is its number, which is that of no surrogate.
  generalize c.val.toNat = n at hvalid hc
  subst hc
  split
  · exact spells_one (by omega)
  · split
    · exact spells_two (by omega) (by omega)
    · split
      · exact spells_three (by omega) (by omega) (by omega)
      · exact spells_four (by omega) (by omega)

end SerialBridge.Utf8
