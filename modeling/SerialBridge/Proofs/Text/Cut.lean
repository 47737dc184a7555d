import SerialBridge.Proofs.Text.Decoding

/-!
# Text that is cut

Where there is no room for all bytes of a text, those in front are kept, with no regard for
characters. `Utf8.fitting` is the longest prefix of whole characters in front of the cut
(`Utf8.isLongestFitting`), and `Utf8.CutsInside` says that the cut goes through a character.
`Utf8.decodeLossy_take_encode` says what is read of a text that was cut: the characters that fit,
and one replacement for the character that was cut through, if one was.

A replacement is a character like any other, so that a text may come back as it was although it was
cut: it ends with a replacement, and the cut goes through that. `Utf8.cut_eq_iff` says that there is
no other way.
-/

namespace SerialBridge.Utf8

/-! ### Whole characters -/

/-- The number of bytes of the encoding. -/
def size : List Char → Nat
  | [] => 0
  | c :: rest => c.utf8Size + size rest

@[simp] theorem size_nil : size [] = 0 := rfl

@[simp] theorem size_cons (c : Char) (rest : List Char) :
    size (c :: rest) = c.utf8Size + size rest := rfl

theorem size_append (front rest : List Char) : size (front ++ rest) = size front + size rest := by
  induction front with
  | nil => exact (Nat.zero_add _).symm
  | cons c front ih => rw [List.cons_append, size_cons, size_cons, ih, Nat.add_assoc]

theorem length_encode (text : String) : (encode text).length = size text.toList := by
  rw [encode]
  induction text.toList with
  | nil => rfl
  | cons c rest ih =>
    rw [List.flatMap_cons, List.length_append, String.length_utf8EncodeChar, ih, size_cons]

/-- As many characters from the front as there is room for. -/
def fitting : Nat → List Char → List Char
  | _, [] => []
  | room, c :: rest =>
    if c.utf8Size ≤ room then c :: fitting (room - c.utf8Size) rest else []

/-- The characters are the longest prefix for which there is room. -/
structure IsLongestFitting (room : Nat) (chars front : List Char) : Prop where
  /-- It is a prefix. -/
  isPrefix : front <+: chars
  /-- There is room for it. -/
  size_le : size front ≤ room
  /-- There is no room for a prefix that is longer. -/
  longest : ∀ other, other <+: chars → size other ≤ room → other <+: front

/-- The cut behind that many bytes goes through a character. -/
def CutsInside (room : Nat) (chars : List Char) : Prop :=
  ∃ before c after, chars = before ++ c :: after ∧ size before < room ∧
    room < size before + c.utf8Size

variable {room : Nat} {chars : List Char}

section Cons

variable {c : Char}

theorem fitting_cons_of_le (h : c.utf8Size ≤ room) (rest : List Char) :
    fitting room (c :: rest) = c :: fitting (room - c.utf8Size) rest := by
  rw [fitting, if_pos h]

theorem fitting_cons_of_lt (h : room < c.utf8Size) (rest : List Char) :
    fitting room (c :: rest) = [] := by
  rw [fitting, if_neg (Nat.not_le.mpr h)]

/-- A cut behind the first character is a cut of the others. -/
theorem cutsInside_cons_of_le (h : c.utf8Size ≤ room) (rest : List Char) :
    CutsInside room (c :: rest) ↔ CutsInside (room - c.utf8Size) rest := by
  constructor
  · rintro ⟨before, d, after, hsplit, hbefore, hcut⟩
    cases before with
    | nil =>
      obtain ⟨rfl, rfl⟩ : c = d ∧ rest = after := by simpa using hsplit
      rw [size_nil, Nat.zero_add] at hcut
      exact absurd h (Nat.not_le.mpr hcut)
    | cons b before =>
      obtain ⟨rfl, rfl⟩ : c = b ∧ rest = before ++ d :: after := by simpa using hsplit
      rw [size_cons] at hbefore hcut
      exact ⟨before, d, after, rfl, by omega, by omega⟩
  · rintro ⟨before, d, after, rfl, hbefore, hcut⟩
    refine ⟨c :: before, d, after, rfl, ?_, ?_⟩
    · rw [size_cons]
      omega
    · rw [size_cons]
      omega

/-- A cut in front of the end of the first character goes through it, unless it is in front of
everything. -/
theorem cutsInside_cons_of_lt (h : room < c.utf8Size) (rest : List Char) :
    CutsInside room (c :: rest) ↔ 0 < room := by
  constructor
  · rintro ⟨before, _, _, -, hbefore, -⟩
    exact Nat.lt_of_le_of_lt (Nat.zero_le _) hbefore
  · exact fun hpos => ⟨[], c, rest, rfl, hpos, by simpa using h⟩

end Cons

theorem not_cutsInside_nil : ¬CutsInside room [] := by
  rintro ⟨before, c, after, hsplit, -⟩
  cases before <;> cases hsplit

instance decidableCutsInside (room : Nat) : (chars : List Char) → Decidable (CutsInside room chars)
  | [] => .isFalse not_cutsInside_nil
  | c :: rest =>
    if h : c.utf8Size ≤ room then
      have := decidableCutsInside (room - c.utf8Size) rest
      decidable_of_iff _ (cutsInside_cons_of_le h rest).symm
    else decidable_of_iff _ (cutsInside_cons_of_lt (Nat.not_le.mp h) rest).symm

/-- **What fits is the longest prefix that fits.** -/
theorem isLongestFitting (room : Nat) (chars : List Char) :
    IsLongestFitting room chars (fitting room chars) := by
  induction chars generalizing room with
  | nil =>
    have hnil : [] <+: ([] : List Char) := List.nil_prefix
    exact ⟨hnil, Nat.zero_le room, fun _ hfront _ => hfront⟩
  | cons c rest ih =>
    by_cases h : c.utf8Size ≤ room
    · obtain ⟨hfront, hsize, hlongest⟩ := ih (room - c.utf8Size)
      rw [fitting_cons_of_le h]
      refine ⟨List.cons_prefix_cons.mpr ⟨rfl, hfront⟩, ?_, fun other hother hfits => ?_⟩
      · rw [size_cons]
        omega
      · cases other with
        | nil => exact List.nil_prefix
        | cons d other =>
          obtain ⟨rfl, hrest⟩ := List.cons_prefix_cons.mp hother
          rw [size_cons] at hfits
          exact List.cons_prefix_cons.mpr ⟨rfl, hlongest other hrest (by omega)⟩
    · have hnil : [] <+: c :: rest := List.nil_prefix
      rw [fitting_cons_of_lt (Nat.not_le.mp h)]
      refine ⟨hnil, Nat.zero_le room, fun other hother hfits => ?_⟩
      cases other with
      | nil => exact List.nil_prefix
      | cons d other =>
        obtain ⟨rfl, -⟩ := List.cons_prefix_cons.mp hother
        rw [size_cons] at hfits
        omega

/-- Everything fits if there is room for it. -/
theorem fitting_eq_self_iff : fitting room chars = chars ↔ size chars ≤ room := by
  have hfitting := isLongestFitting room chars
  constructor
  · exact fun h => h ▸ hfitting.size_le
  · exact fun h => List.IsPrefix.eq_of_length hfitting.isPrefix
      (Nat.le_antisymm hfitting.isPrefix.length_le
        (hfitting.longest chars List.prefix_rfl h).length_le)

/-- Only what there is no room for is cut through. -/
theorem CutsInside.lt_size (h : CutsInside room chars) : room < size chars := by
  obtain ⟨before, c, after, rfl, -, hcut⟩ := h
  have hsize : size (before ++ c :: after) = size before + (c.utf8Size + size after) := by
    rw [size_append, size_cons]
  omega

/-! ### Reading what was cut -/

/-- What is read of a text of which only so many bytes are left. -/
def cut (room : Nat) (text : String) : String :=
  .ofList (fitting room text.toList
    ++ if CutsInside room text.toList then [replacement] else [])

theorem decodeFrom_take_flatMap (room : Nat) (chars : List Char) :
    decodeFrom none ((chars.flatMap String.utf8EncodeChar).take room)
      = fitting room chars ++ if CutsInside room chars then [replacement] else [] := by
  induction chars generalizing room with
  | nil =>
    rw [if_neg not_cutsInside_nil]
    simp [fitting, decodeFrom]
  | cons c rest ih =>
    have hspells := spells_utf8EncodeChar c
    have hlength := String.length_utf8EncodeChar c
    rw [List.flatMap_cons]
    by_cases h : c.utf8Size ≤ room
    · -- The first character is read whole, and the cut is among the others.
      rw [List.take_append, List.take_of_length_le (by omega), hlength, hspells.decodeFrom_append,
        ih, fitting_cons_of_le h, List.cons_append]
      simp only [cutsInside_cons_of_le h]
    · have hlt : room < c.utf8Size := Nat.not_le.mp h
      rw [List.take_append_of_le_length (by omega), fitting_cons_of_lt hlt, List.nil_append]
      simp only [cutsInside_cons_of_lt hlt]
      split
      · next hpos => exact hspells.decodeFrom_take hpos (by omega)
      · next hzero =>
        obtain rfl : room = 0 := Nat.eq_zero_of_not_pos hzero
        rfl

/-- **A text that was cut** is read as the characters that fit, and one replacement if the cut goes
through a character. -/
theorem decodeLossy_take_encode (room : Nat) (text : String) :
    decodeLossy ((encode text).take room) = cut room text := by
  rw [decodeLossy, encode, decodeFrom_take_flatMap, cut]

/-- A text comes back as it was if there is room for all of it, or if it ends with a replacement
that the cut goes through. -/
theorem cut_eq_iff {text : String} :
    cut room text = text ↔ size text.toList ≤ room ∨
      CutsInside room text.toList ∧ text.toList = fitting room text.toList ++ [replacement] := by
  have htext : cut room text = text ↔ fitting room text.toList
      ++ (if CutsInside room text.toList then [replacement] else []) = text.toList := by
    rw [← String.toList_inj, cut, String.toList_ofList]
  rw [htext]
  by_cases h : CutsInside room text.toList
  · rw [if_pos h]
    exact ⟨fun heq => .inr ⟨h, heq.symm⟩,
      fun hor => (hor.resolve_left (Nat.not_le.mpr h.lt_size)).2.symm⟩
  · rw [if_neg h, List.append_nil, fitting_eq_self_iff]
    exact ⟨.inl, fun hor => hor.resolve_right fun hboth => h hboth.1⟩

end SerialBridge.Utf8
