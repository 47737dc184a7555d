import SerialBridge.Proofs.Toml.Literal

/-!
# Lines and their reading

A text is made of lines: blank ones, headers of sections, and settings with a name, a sign and a
literal. Names stand without quotation marks.

`statements?_textOf` says that such a text is read as what its lines say. A line is read up to its
end (`Line.readStatement_write`), since neither a name nor a literal goes on there. Between two
lines the reader skips nothing but the blank ones (`Line.skipFiller_write`), and its fuel lasts as
every line takes up a character at least.
-/

namespace SerialBridge.Toml

/-- A name that may stand as a key without quotation marks. -/
def IsBare (name : String) : Prop := name.toList ≠ [] ∧ ∀ x ∈ name.toList, isKeyChar x = true

instance (name : String) : Decidable (IsBare name) :=
  decidable_of_iff (name.toList ≠ [] ∧ name.toList.all isKeyChar = true) <| by
    rw [IsBare, List.all_eq_true]

/-- A line of a sheet. -/
inductive Line where
  /-- Nothing. -/
  | blank
  /-- The header of a section. -/
  | header (name : String)
  /-- A setting. -/
  | setting (name : String) (value : Literal)

namespace Line

/-- Writes a line, without its end. -/
def write : Line → List Char
  | .blank => []
  | .header name => '[' :: (name.toList ++ [']'])
  | .setting name value => name.toList ++ ' ' :: '=' :: ' ' :: value.write

/-- What a line says. -/
def statement? : Line → Option Statement
  | .blank => none
  | .header name => some (.table ⟨[], name⟩)
  | .setting name value => some (.pair ⟨[], name⟩ (.scalar value.scalar))

/-- The names in the line are bare. -/
def Bare : Line → Prop
  | .blank => True
  | .header name => IsBare name
  | .setting name _ => IsBare name

end Line

/-- The text that consists of these lines. -/
def textOf (lines : List Line) : List Char := lines.flatMap fun l => l.write ++ ['\n']

theorem textOf_cons (l : Line) (lines : List Line) :
    textOf (l :: lines) = l.write ++ '\n' :: textOf lines := by
  simp [textOf]

/-! ### Reading a line -/

/-- The characters of a bare name are none of those that mean something in a line. -/
theorem isKeyChar_ne {x y : Char} (hx : isKeyChar x = true) (hy : isKeyChar y = false) :
    x ≠ y := by
  rintro rfl
  exact Bool.false_ne_true (hy.symm.trans hx)

theorem isPrintable_of_isKeyChar {x : Char} (hx : isKeyChar x = true) : isPrintable x = true := by
  simp only [isKeyChar, Bool.or_eq_true, decide_eq_true_eq] at hx
  rcases hx with (hx | rfl) | rfl
  · exact isPrintable_of_isAlphanum hx
  · rfl
  · rfl

theorem skipSpaces_cons {c : Char} (hc : isSpace c = false) (cs : List Char) :
    skipSpaces (c :: cs) = c :: cs :=
  List.dropWhile_cons_of_neg (by simp [hc])

theorem isSpace_of_isKeyChar {x : Char} (hx : isKeyChar x = true) : isSpace x = false := by
  have hspace : x ≠ ' ' := isKeyChar_ne hx (by decide)
  have htab : x ≠ '\t' := isKeyChar_ne hx (by decide)
  rw [isSpace, decide_eq_false hspace, decide_eq_false htab]
  rfl

section

variable {name : String} (hname : IsBare name)

include hname

theorem IsBare.exists_toList_eq :
    ∃ x xs, name.toList = x :: xs ∧ isKeyChar x = true := by
  obtain ⟨x, xs, hx⟩ := List.exists_cons_of_ne_nil hname.1
  exact ⟨x, xs, hx, hname.2 x (hx ▸ List.mem_cons_self)⟩

/-- A bare name is read up to the first character that cannot belong to it. -/
theorem IsBare.readPart {c : Char} (hc : isKeyChar c = false) (rest : List Char) :
    readPart (name.toList ++ c :: rest) = some (name, c :: rest) := by
  obtain ⟨x, xs, hx, hkey⟩ := hname.exists_toList_eq
  -- What begins with a character of a bare name is not quoted.
  have hshort : readShort (name.toList ++ c :: rest) = none := by
    rw [hx, List.cons_append, readShort.eq_def]
    split
    next h => exact absurd (List.cons.inj h).1 (isKeyChar_ne hkey (by decide))
    next h => exact absurd (List.cons.inj h).1 (isKeyChar_ne hkey (by decide))
    next => rfl
  have hne : name.toList.isEmpty = false := by rw [hx, List.isEmpty_cons]
  rw [Toml.readPart, hshort]
  simp only [takeWhile_append_cons hname.2 hc, dropWhile_append_cons hname.2 hc, hne,
    Bool.false_eq_true, if_false, String.ofList_toList]

/-- A bare name is a key, if what follows is no part of a key. -/
theorem IsBare.readKey {c d : Char} (hc : isKeyChar c = false) {rest rest' : List Char}
    (hrest : skipSpaces (c :: rest) = d :: rest') (hd : d ≠ '.') :
    readKey (limit - 1) (name.toList ++ c :: rest) = some (⟨[], name⟩, d :: rest') := by
  obtain ⟨x, xs, hx, hkey⟩ := hname.exists_toList_eq
  have hskip : skipSpaces (name.toList ++ c :: rest) = name.toList ++ c :: rest := by
    rw [hx]
    exact skipSpaces_cons (isSpace_of_isKeyChar hkey) _
  change Toml.readKey (78 + 1) _ = _
  rw [Toml.readKey, hskip, hname.readPart hc]
  simp only [Option.bind_eq_bind, Option.bind_some, hrest]
  split
  next h => exact absurd (List.cons.inj h).1 hd
  next => rfl

end

theorem Literal.skipSpaces_write (l : Literal) (rest : List Char) :
    skipSpaces (l.write ++ rest) = l.write ++ rest := by
  obtain ⟨x, xs, hx, hfirst⟩ := l.exists_write_eq
  have hspace : isSpace x = false := by
    refine Bool.eq_false_iff.mpr fun h => ?_
    simp only [isSpace, Bool.or_eq_true, decide_eq_true_eq] at h
    rcases h with rfl | rfl
    · exact absurd hfirst (by decide)
    · exact absurd hfirst (by decide)
  rw [hx]
  exact skipSpaces_cons hspace _

/-- A literal is a value, up to the end of its line. -/
theorem Literal.readValue_write (l : Literal) (layers : Nat) (rest : List Char) :
    readValue layers (l.write ++ '\n' :: rest) = some (.scalar l.scalar, '\n' :: rest) := by
  have hread := l.readScalar_write rest
  obtain ⟨x, xs, hx, hfirst⟩ := l.exists_write_eq
  rw [hx] at hread ⊢
  have hbracket : x ≠ '[' := by
    rintro rfl
    exact absurd hfirst (by decide)
  have hbrace : x ≠ '\x7b' := by
    rintro rfl
    exact absurd hfirst (by decide)
  rw [readValue.eq_def]
  split
  next h => exact absurd (List.cons.inj h).1 hbracket
  next h => exact absurd (List.cons.inj h).1 hbrace
  next => rw [hread, Option.map_some]

/-- A line that says something is read as what it says, up to its end. -/
theorem Line.readStatement_write {l : Line} (hl : l.Bare) {s : Statement}
    (hs : l.statement? = some s) (rest : List Char) :
    readStatement (l.write ++ '\n' :: rest) = some (s, '\n' :: rest) := by
  cases l with
  | blank => cases hs
  | header name =>
    cases hs
    obtain ⟨x, xs, hx, hkey⟩ := hl.exists_toList_eq
    have hread : readKey (limit - 1) (name.toList ++ ']' :: '\n' :: rest)
        = some (⟨[], name⟩, ']' :: '\n' :: rest) := hl.readKey (by decide) rfl (by decide)
    have hbracket : x ≠ '[' := isKeyChar_ne hkey (by decide)
    rw [write, List.cons_append, List.append_assoc, List.singleton_append, readStatement.eq_def]
    split
    next h =>
      rw [hx] at h
      exact absurd (List.cons.inj (List.cons.inj h).2).1 hbracket
    next h =>
      rw [← (List.cons.inj h).2, hread]
      rfl
    next _ h => exact absurd rfl (h _)
  | setting name value =>
    cases hs
    obtain ⟨x, xs, hx, hkey⟩ := hl.exists_toList_eq
    have hbracket : x ≠ '[' := isKeyChar_ne hkey (by decide)
    have hread : readKey (limit - 1)
        (name.toList ++ ' ' :: '=' :: ' ' :: (value.write ++ '\n' :: rest))
        = some (⟨[], name⟩, '=' :: ' ' :: (value.write ++ '\n' :: rest)) :=
      hl.readKey (by decide) rfl (by decide)
    have hpair : readPair (readValue (limit - 1))
        (name.toList ++ ' ' :: '=' :: ' ' :: (value.write ++ '\n' :: rest))
        = some ((⟨[], name⟩, .scalar value.scalar), '\n' :: rest) := by
      have hskip : skipSpaces (' ' :: (value.write ++ '\n' :: rest))
          = value.write ++ '\n' :: rest := value.skipSpaces_write _
      rw [readPair, hread]
      simp only [Option.bind_eq_bind, Option.bind_some, hskip, value.readValue_write]
      rfl
    rw [write, List.append_assoc, List.cons_append, List.cons_append, List.cons_append,
      readStatement.eq_def]
    split
    next h =>
      rw [hx] at h
      exact absurd (List.cons.inj h).1 hbracket
    next h =>
      rw [hx] at h
      exact absurd (List.cons.inj h).1 hbracket
    next =>
      rw [hpair]
      rfl

/-! ### Reading the lines of a text -/

/-- Nothing that may stand between statements begins a line that says something. -/
theorem Line.skipFiller_write {l : Line} (hl : l.Bare) (hs : l.statement? ≠ none)
    (rest : List Char) : skipFiller false (l.write ++ rest) = some (l.write ++ rest) := by
  cases l with
  | blank => exact absurd rfl hs
  | header name => rfl
  | setting name value =>
    obtain ⟨x, xs, hx, hkey⟩ := hl.exists_toList_eq
    have hend : x ≠ '\n' := isKeyChar_ne hkey (by decide)
    have hcomment : x ≠ '#' := isKeyChar_ne hkey (by decide)
    have hspace : isSpace x = false := isSpace_of_isKeyChar hkey
    rw [write, hx, List.append_assoc, List.cons_append, skipFiller]
    simp only [hend, hcomment, hspace, decide_false, Bool.or_self, Bool.false_eq_true, if_false]

/-- A blank line is skipped together with what may follow it, and takes no fuel. -/
theorem readStatements_blank (n : Nat) (cs : List Char) :
    readStatements n ('\n' :: cs) = readStatements n cs := by
  cases n with
  | zero => rfl
  | succ n => rw [readStatements, readStatements]; rfl

/-- A statement takes its line, and the reader goes on behind it. -/
theorem readStatements_step {n : Nat} {cs rest : List Char} {s : Statement}
    (hfiller : skipFiller false cs = some cs) (hcs : cs ≠ [])
    (hread : readStatement cs = some (s, '\n' :: rest)) :
    readStatements (n + 1) cs = (readStatements n rest).map (s :: ·) := by
  obtain ⟨x, xs, rfl⟩ := List.exists_cons_of_ne_nil hcs
  rw [readStatements, hfiller]
  have hend : endOfLine? ('\n' :: rest) = some rest := rfl
  simp only [Option.bind_eq_bind, Option.bind_some, hread, hend]
  cases readStatements n rest <;> rfl

/-- Every line is read as what it says, in their order. -/
theorem readStatements_textOf {lines : List Line} (hlines : ∀ l ∈ lines, l.Bare) {n : Nat}
    (hn : lines.length < n) :
    readStatements n (textOf lines) = some (lines.filterMap Line.statement?) := by
  induction lines generalizing n with
  | nil =>
    obtain ⟨n, rfl⟩ := Nat.exists_eq_succ_of_ne_zero (Nat.ne_zero_of_lt hn)
    rfl
  | cons l lines ih =>
    -- A blank line says nothing and is skipped; any other is a statement, for which there is fuel.
    have hrest : ∀ l ∈ lines, l.Bare := fun l' hl' => hlines l' (List.mem_cons_of_mem l hl')
    rw [List.length_cons] at hn
    rw [textOf_cons]
    cases hs : l.statement? with
    | none =>
      have hwrite : l.write = [] := by
        cases l with
        | blank => rfl
        | header name => cases hs
        | setting name value => cases hs
      rw [hwrite, List.nil_append, readStatements_blank, ih hrest (by omega),
        List.filterMap_cons_none hs]
    | some s =>
      obtain ⟨n, rfl⟩ := Nat.exists_eq_succ_of_ne_zero (Nat.ne_zero_of_lt hn)
      have hl : l.Bare := hlines l List.mem_cons_self
      have hfiller := Line.skipFiller_write hl (by simp [hs]) ('\n' :: textOf lines)
      have hread := Line.readStatement_write hl hs (textOf lines)
      rw [readStatements_step hfiller (by simp) hread, ih hrest (by omega), Option.map_some,
        List.filterMap_cons_some hs]

/-! ### Reading a text -/

/-- Without carriage returns, lines end as they should. -/
theorem lines?_eq_self {cs : List Char} (hcs : '\r' ∉ cs) : lines? cs = some cs := by
  induction cs with
  | nil => rfl
  | cons c cs ih =>
    have hc : c ≠ '\r' := by
      rintro rfl
      exact hcs List.mem_cons_self
    have hrest : lines? cs = some cs := ih fun h => hcs (List.mem_cons_of_mem c h)
    rw [lines?.eq_def]
    split
    next h => cases h
    next h => exact absurd (List.cons.inj h).1 hc
    next h => exact absurd (List.cons.inj h).1 hc
    next h =>
      cases h
      rw [hrest, Option.map_some]

/-- A line consists of characters that may stand in a line. -/
theorem Line.isPrintable_of_mem_write {l : Line} (hl : l.Bare) {x : Char} (hx : x ∈ l.write) :
    isPrintable x = true := by
  cases l with
  | blank => cases hx
  | header name =>
    simp only [write, List.mem_cons, List.mem_append, List.not_mem_nil, or_false] at hx
    rcases hx with rfl | hx | rfl
    · rfl
    · exact isPrintable_of_isKeyChar (hl.2 x hx)
    · rfl
  | setting name value =>
    simp only [write, List.mem_cons, List.mem_append] at hx
    rcases hx with hx | rfl | rfl | rfl | hx
    · exact isPrintable_of_isKeyChar (hl.2 x hx)
    · rfl
    · rfl
    · rfl
    · exact Literal.isPrintable_of_mem_write hx

theorem return_notMem_textOf {lines : List Line} (hlines : ∀ l ∈ lines, l.Bare) :
    '\r' ∉ textOf lines := by
  intro h
  simp only [textOf, List.mem_flatMap, List.mem_append, List.mem_singleton] at h
  obtain ⟨l, hl, h | h⟩ := h
  · exact absurd (Line.isPrintable_of_mem_write (hlines l hl) h) (by decide)
  · exact absurd h (by decide)

/-- Bare names and headers begin with no byte order mark. -/
theorem mark_notMem_head?_textOf {lines : List Line} (hlines : ∀ l ∈ lines, l.Bare) :
    '\uFEFF' ∉ (textOf lines).head? := by
  cases lines with
  | nil => rintro ⟨⟩
  | cons l lines =>
    rw [textOf_cons]
    cases l with
    | blank => rintro ⟨⟩
    | header name => rintro ⟨⟩
    | setting name value =>
      obtain ⟨x, xs, hx, hkey⟩ := (hlines _ List.mem_cons_self : IsBare name).exists_toList_eq
      rw [Line.write, hx]
      rintro ⟨⟩
      exact absurd hkey (by decide)

/-- The end of a line alone is one character. -/
theorem length_le_length_textOf (lines : List Line) : lines.length ≤ (textOf lines).length := by
  induction lines with
  | nil => exact Nat.zero_le _
  | cons l lines ih =>
    rw [textOf_cons, List.length_append, List.length_cons, List.length_cons]
    omega

/-- **A text of lines** whose names are bare is read as what its lines say. -/
theorem statements?_textOf {lines : List Line} (hlines : ∀ l ∈ lines, l.Bare) :
    statements? (String.ofList (textOf lines)) = some (lines.filterMap Line.statement?) := by
  have hmark := mark_notMem_head?_textOf hlines
  have hlength := length_le_length_textOf lines
  rw [statements?, String.toList_ofList]
  split
  next h =>
    rw [h] at hmark
    exact absurd rfl hmark
  next =>
    -- The length of the text is fuel enough, as there are no more lines than characters.
    rw [lines?_eq_self (return_notMem_textOf hlines)]
    exact readStatements_textOf hlines (by omega)

end SerialBridge.Toml
