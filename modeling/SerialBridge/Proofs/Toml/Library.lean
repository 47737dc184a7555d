import SerialBridge.Proofs.Toml.Sheet
import SerialBridge.Toml.Record

/-!
# What is documented of libraries that read TOML

What may be expected of a `Toml.Library` are three things, collected in `Library.Documented`. It
reads TOML: a sheet is read as the table of what is written in it. It reads texts and numbers from
values of these kinds, and no number that is out of range. And it reads a record from a table field
by field, leaving alone what the table does not give. All of this is said of values by way of
`Terms`, that is, of the values that stand for texts, integers and tables.

`documented_library` is the proof that the library of this directory is one of them. Its first part
is the reading of sheets, `Sheet.document?_text`.
-/

namespace SerialBridge.Toml

/-- The values in `ν` that stand for texts, integers and tables. -/
structure Terms (ν : Type) where
  /-- A text. -/
  text : String → ν
  /-- An integer of 64 bits, which are all that TOML knows. -/
  integer : Int64 → ν
  /-- A table. -/
  table : List (String × ν) → ν

section

variable {ν : Type} (terms : Terms ν)

/-- What a literal stands for. -/
def Literal.meaning : Literal → ν
  | .text _ s => terms.text s
  | .integer n => terms.integer n

/-- What a setting says. -/
def Setting.meaning (s : Setting) : String × ν := (s.name, s.value.meaning terms)

/-- What a section says. -/
def Section.meaning (s : Section) : String × ν :=
  (s.name, terms.table (s.settings.map (Setting.meaning terms)))

/-- What a sheet says, entry by entry. -/
def Sheet.meaning (s : Sheet) : List (String × ν) :=
  s.settings.map (Setting.meaning terms) ++ s.sections.map (Section.meaning terms)

theorem Sheet.names_meaning (s : Sheet) : (s.meaning terms).map Prod.fst = s.names := by
  rw [meaning, names, List.map_append, List.map_map, List.map_map]
  rfl

theorem Setting.names_meaning (settings : List Setting) :
    (settings.map (Setting.meaning terms)).map Prod.fst = settings.map Setting.name := by
  rw [List.map_map]
  rfl

end

/-- What is documented of a library, given the terms in which it reads. -/
structure Library.Documented (library : Library) (terms : Terms library.Value) : Prop where
  /-- A sheet is read as the table of what it says. -/
  document?_text : ∀ s : Sheet, s.Proper →
    library.document? s.text = some (terms.table (s.meaning terms))
  /-- A text is read as it is. -/
  text?_text : ∀ s, library.text? (terms.text s) = some s
  /-- A number of 32 bits is read as it is. -/
  word?_integer : ∀ n : Int64, 0 ≤ n.toInt → n.toInt < 2 ^ 32 →
    library.word? (terms.integer n) = some (UInt32.ofNat n.toInt.toNat)
  /-- Other integers are no numbers of 32 bits. -/
  word?_outOfRange : ∀ n : Int64, n.toInt < 0 ∨ 2 ^ 32 ≤ n.toInt →
    library.word? (terms.integer n) = none
  /-- A size is read as it is. -/
  size?_integer : ∀ n : Int64, 0 ≤ n.toInt → library.size? (terms.integer n) = some n.toInt.toNat
  /-- A negative integer is no size. -/
  size?_negative : ∀ n : Int64, n.toInt < 0 → library.size? (terms.integer n) = none
  /-- The fields of a record are read one by one from the entries of a table, if no two of them, and
  no two of the entries, have the same name. -/
  record?_table : ∀ {α : Type} (standard : α) (fields : List (Field library.Value α))
    (entries : List (String × library.Value)), (fields.map Field.name).Nodup →
    (entries.map Prod.fst).Nodup →
    library.record? standard fields (terms.table entries) =
      fields.foldlM (fun a f => f.fill (entries.lookup f.name) a) standard

namespace Field

variable {ν α β : Type} {f : Field ν α} {given : Option β} {value : β → ν}

/-- A field that may be given, and whose value is of the right kind if it is. -/
theorem fill_of_fit (change : β → α → α) (hfit : ∀ b ∈ given, f.take (value b) = some (change b))
    (a : α) : f.fill (given.map value) a = some (given.elim a fun b => change b a) := by
  cases given with
  | none => rfl
  | some b => rw [Option.map_some, fill, hfit b rfl, Option.map_some, Option.elim_some]

/-- A field that is given a value of the wrong kind. -/
theorem fill_of_misfit (hmisfit : ∃ b ∈ given, f.take (value b) = none) (a : α) :
    f.fill (given.map value) a = none := by
  obtain ⟨b, rfl, hb⟩ := hmisfit
  rw [Option.map_some, fill, hb, Option.map_none]

end Field

/-! ### A library of this kind -/

/-- The items that stand for texts, integers and tables. -/
def Item.terms : Terms Item where
  text s := .scalar (.text s)
  integer n := .scalar (.integer n.toInt)
  table := .table .header

/-- In the items of this directory, a setting says what its entry in the tree is. -/
theorem Setting.meaning_terms (s : Setting) : s.meaning Item.terms = s.entry := by
  obtain ⟨name, _ | _⟩ := s <;> rfl

theorem Section.meaning_terms (s : Section) : s.meaning Item.terms = s.entry := by
  rw [meaning, entry, funext Setting.meaning_terms]
  rfl

theorem Sheet.meaning_terms (s : Sheet) : s.meaning Item.terms = s.entries := by
  rw [meaning, entries, funext Setting.meaning_terms, funext Section.meaning_terms]

namespace Item

theorem natural?_of_nonneg {n : Int} (hn : 0 ≤ n) :
    natural? (.scalar (.integer n)) = some n.toNat := by
  obtain ⟨k, rfl⟩ := Int.eq_ofNat_of_zero_le hn
  rfl

theorem natural?_of_neg {n : Int} (hn : n < 0) : natural? (.scalar (.integer n)) = none := by
  obtain ⟨k, rfl⟩ := Int.eq_negSucc_of_lt_zero hn
  rfl

theorem word?_of_inRange {n : Int} (hn : 0 ≤ n) (hlt : n < 2 ^ 32) :
    word? (.scalar (.integer n)) = some (UInt32.ofNat n.toNat) := by
  have hsize : n.toNat < UInt32.size := by
    rw [UInt32.size]
    omega
  rw [word?, natural?_of_nonneg hn, Option.filter_some, if_pos (decide_eq_true hsize),
    Option.map_some]

theorem word?_of_outOfRange {n : Int} (hn : n < 0 ∨ 2 ^ 32 ≤ n) :
    word? (.scalar (.integer n)) = none := by
  -- A negative integer is no natural number; a large one is, but of more than 32 bits.
  rcases hn with hn | hn
  · rw [word?, natural?_of_neg hn]
    rfl
  · have hsize : ¬n.toNat < UInt32.size := by
      rw [UInt32.size]
      omega
    have hnonneg : 0 ≤ n := by omega
    rw [word?, natural?_of_nonneg hnonneg, Option.filter_some, if_neg (by simpa using hsize)]
    rfl

/-- In a table the position of a field does not matter. -/
theorem record?_table {α : Type} (standard : α) (fields : List (Field Item α))
    (entries : List (String × Item)) :
    record? standard fields (.table .header entries) =
      fields.foldlM (fun a f => f.fill (entries.lookup f.name) a) standard := by
  -- Positions count only among values without names, which a table has none of.
  have hnamed : ((fields.zipIdx.map Prod.fst).foldlM
      (fun a (f : Field Item α) => f.fill (entries.lookup f.name) a) standard) =
        record? standard fields (.table .header entries) := List.foldlM_map ..
  rw [← hnamed, List.zipIdx_map_fst]

end Item

/-- **The library of this directory** does what is documented of libraries. -/
theorem documented_library : library.Documented Item.terms where
  document?_text s hs := by
    have hread : (document? s.text).map (Item.table .header) = some (.table .header s.entries) := by
      rw [Sheet.document?_text hs, Option.map_some]
    rw [← s.meaning_terms] at hread
    exact hread
  text?_text _ := rfl
  word?_integer _ := Item.word?_of_inRange
  word?_outOfRange _ := Item.word?_of_outOfRange
  size?_integer _ := Item.natural?_of_nonneg
  size?_negative _ := Item.natural?_of_neg
  record?_table standard fields entries _ _ := Item.record?_table standard fields entries

end SerialBridge.Toml
