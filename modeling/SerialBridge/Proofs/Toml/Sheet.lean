import SerialBridge.Proofs.Toml.Lines
import Mathlib.Data.List.Nodup

/-!
# Sheets and their reading

A **sheet** is a document of the plainest kind: first the settings that belong to no section, then
one section after the other, each with a header and settings of its own, after any number of blank
lines.

`Sheet.document?_text` says what is read from a sheet whose names are proper (`Sheet.Proper`): the
settings and the sections, in the order in which they stand. The statements are carried out one
after the other, and each adds to the end of the tree. Neither a setting nor a header meets its own
name among what is there already, and a section that is being filled is the last entry of the tree
(`Filling`).
-/

namespace SerialBridge.Toml

/-! ### Sheets -/

/-- The names may stand side by side: they need no quotation marks and none comes twice. -/
def ProperNames (names : List String) : Prop := (∀ name ∈ names, IsBare name) ∧ names.Nodup

instance (names : List String) : Decidable (ProperNames names) :=
  inferInstanceAs (Decidable (_ ∧ _))

theorem ProperNames.sublist {names names' : List String} (h : ProperNames names')
    (hsub : names.Sublist names') : ProperNames names :=
  ⟨fun name hname => h.1 name (hsub.mem hname), h.2.sublist hsub⟩

/-- A setting of a sheet. -/
structure Setting where
  /-- Its name. -/
  name : String
  /-- Its value. -/
  value : Literal

namespace Setting

/-- The line of a setting. -/
def line (s : Setting) : Line := .setting s.name s.value

/-- What the line of a setting says. -/
def statement (s : Setting) : Statement := .pair ⟨[], s.name⟩ (.scalar s.value.scalar)

/-- A setting in the tree. -/
def entry (s : Setting) : String × Item := (s.name, .scalar s.value.scalar)

end Setting

/-- A section of a sheet. -/
structure Section where
  /-- The number of blank lines in front of it. -/
  blanks : Nat
  /-- Its name. -/
  name : String
  /-- Its settings. -/
  settings : List Setting

namespace Section

/-- The lines of a section. -/
def lines (s : Section) : List Line :=
  List.replicate s.blanks .blank ++ .header s.name :: s.settings.map Setting.line

/-- What the lines of a section say. -/
def statements (s : Section) : List Statement :=
  .table ⟨[], s.name⟩ :: s.settings.map Setting.statement

/-- The names in a section. -/
def names (s : Section) : List String := s.settings.map Setting.name

/-- A section in the tree. -/
def entry (s : Section) : String × Item :=
  (s.name, .table .header (s.settings.map Setting.entry))

end Section

/-- A document of settings and sections. -/
structure Sheet where
  /-- The settings that belong to no section. -/
  settings : List Setting
  /-- The sections. -/
  sections : List Section

namespace Sheet

/-- The lines of a sheet. -/
def lines (s : Sheet) : List Line :=
  s.settings.map Setting.line ++ s.sections.flatMap Section.lines

/-- What the lines of a sheet say. -/
def statements (s : Sheet) : List Statement :=
  s.settings.map Setting.statement ++ s.sections.flatMap Section.statements

/-- The tree of a sheet. -/
def entries (s : Sheet) : Entries :=
  s.settings.map Setting.entry ++ s.sections.map Section.entry

/-- The text of a sheet. -/
def text (s : Sheet) : String := String.ofList (textOf s.lines)

/-- The names outside all sections, and those of the sections. -/
def names (s : Sheet) : List String := s.settings.map Setting.name ++ s.sections.map Section.name

/-- The names of a sheet are **proper**, those of each section by themselves. -/
structure Proper (s : Sheet) : Prop where
  /-- The names outside all sections are proper. -/
  outside : ProperNames s.names
  /-- The names in a section are proper. -/
  within : ∀ t ∈ s.sections, ProperNames t.names

/-- The names that are written in a sheet are those outside its sections and within them. -/
theorem Proper.bare_of_mem_lines {s : Sheet} (hs : s.Proper) : ∀ l ∈ s.lines, l.Bare := by
  have hsettings {settings : List Setting}
      (hbare : ∀ name ∈ settings.map Setting.name, IsBare name) :
      ∀ l ∈ settings.map Setting.line, l.Bare := by
    intro l hl
    obtain ⟨x, hx, rfl⟩ := List.mem_map.mp hl
    exact hbare x.name (List.mem_map_of_mem hx)
  intro l hl
  rcases List.mem_append.mp hl with hl | hl
  · exact hsettings (fun name h => hs.outside.1 name (List.mem_append_left _ h)) l hl
  · obtain ⟨t, ht, hl⟩ := List.mem_flatMap.mp hl
    rcases List.mem_append.mp hl with hl | hl
    · obtain rfl := List.eq_of_mem_replicate hl
      trivial
    · rcases List.mem_cons.mp hl with rfl | hl
      · exact hs.outside.1 t.name (List.mem_append_right _ (List.mem_map_of_mem ht))
      · exact hsettings (hs.within t ht).1 l hl

/-- Blank lines say nothing, and the others say what the settings and sections say. -/
theorem filterMap_lines (s : Sheet) : s.lines.filterMap Line.statement? = s.statements := by
  have hsettings (settings : List Setting) :
      (settings.map Setting.line).filterMap Line.statement? = settings.map Setting.statement := by
    rw [List.filterMap_map]
    exact congrFun (List.filterMap_eq_map (f := Setting.statement)) settings
  have hsection (t : Section) : t.lines.filterMap Line.statement? = t.statements := by
    have hblanks : (List.replicate t.blanks Line.blank).filterMap Line.statement? = [] :=
      List.filterMap_replicate_of_none rfl
    rw [Section.lines, List.filterMap_append, hblanks, List.nil_append,
      List.filterMap_cons_some (f := Line.statement?) rfl, hsettings, Section.statements]
  rw [lines, List.filterMap_append, hsettings, List.filterMap_flatMap, statements]
  simp only [hsection]

end Sheet

/-! ### Adding at the end of the tree -/

namespace Entries

variable {e : Entries} {key : String}

/-- A key that is not there is added at the end. -/
theorem alter?_of_notMem (hkey : key ∉ e.map Prod.fst) (change : Option Item → Option Item) :
    e.alter? key change = (change none).map fun i => e ++ [(key, i)] := by
  induction e with
  | nil => rfl
  | cons entry rest ih =>
    obtain ⟨k, i⟩ := entry
    simp only [List.map_cons, List.mem_cons, not_or] at hkey
    rw [alter?, if_neg (Ne.symm hkey.1), ih hkey.2, Option.map_map]
    rfl

/-- The last entry is changed in its place. -/
theorem alter?_last (hkey : key ∉ e.map Prod.fst) (i : Item)
    (change : Option Item → Option Item) :
    alter? key change (e ++ [(key, i)]) = (change (some i)).map fun i => e ++ [(key, i)] := by
  induction e with
  | nil => simp [alter?]
  | cons entry rest ih =>
    obtain ⟨k, j⟩ := entry
    simp only [List.map_cons, List.mem_cons, not_or] at hkey
    rw [List.cons_append, alter?, if_neg (Ne.symm hkey.1), ih hkey.2, Option.map_map]
    rfl

theorem add?_of_notMem (hkey : key ∉ e.map Prod.fst) (i : Item) :
    e.add? key i = some (e ++ [(key, i)]) :=
  alter?_of_notMem hkey _

theorem openTable?_of_notMem (hkey : key ∉ e.map Prod.fst) :
    e.openTable? ⟨[], key⟩ = some (e ++ [(key, .table .header [])]) :=
  alter?_of_notMem hkey _

end Entries

/-- While the table with the path is **filled**, the tree is what `tree` makes of its entries. -/
def Filling (path : List String) (tree : Entries → Entries) : Prop :=
  ∀ (f : Entries → Option Entries) (e : Entries), (tree e).within? f path = (f e).map tree

theorem filling_root : Filling [] id := by
  intro f e
  rw [Entries.within?, Option.map_id]
  rfl

/-- Within a section, its table is filled, which is the last entry. -/
theorem filling_last {e : Entries} {name : String} (hname : name ∉ e.map Prod.fst) :
    Filling [name] fun inner => e ++ [(name, .table .header inner)] := by
  intro f inner
  rw [Entries.within?, Entries.alter?_last hname]
  change ((f inner).map (Item.table .header)).map _ = _
  rw [Option.map_map]
  rfl

section

variable {path : List String} {tree : Entries → Entries} {e : Entries}

/-- A setting that is new to the table is added at its end. -/
theorem Filling.run?_setting (htree : Filling path tree) {s : Setting}
    (hname : s.name ∉ e.map Prod.fst) :
    s.statement.run? ⟨tree e, path⟩ = some ⟨tree (e ++ [s.entry]), path⟩ := by
  change ((tree e).within? (Entries.add? s.name (.scalar s.value.scalar)) path).map _ = _
  rw [htree, Entries.add?_of_notMem hname]
  rfl

/-- **Settings** are added to the table that is being filled. -/
theorem Filling.foldlM_settings (htree : Filling path tree) {settings : List Setting}
    (hnames : (e.map Prod.fst ++ settings.map Setting.name).Nodup) :
    (settings.map Setting.statement).foldlM Statement.run? ⟨tree e, path⟩ =
      some ⟨tree (e ++ settings.map Setting.entry), path⟩ := by
  induction settings generalizing e with
  | nil => simp
  | cons s settings ih =>
    have hname : s.name ∉ e.map Prod.fst :=
      fun h => List.disjoint_of_nodup_append hnames h List.mem_cons_self
    -- The invariant of the induction: what is there and what is still to come have different names.
    have hrest : ((e ++ [s.entry]).map Prod.fst ++ settings.map Setting.name).Nodup := by
      rw [List.map_append, List.append_assoc]
      exact hnames
    rw [List.map_cons, List.foldlM_cons, htree.run?_setting hname, Option.bind_eq_bind,
      Option.bind_some, ih hrest, List.map_cons, List.append_assoc, List.singleton_append]

/-- **A section** is added to the tree. -/
theorem foldlM_section (path : List String) {t : Section} (hname : t.name ∉ e.map Prod.fst)
    (hwithin : t.names.Nodup) :
    t.statements.foldlM Statement.run? ⟨e, path⟩ = some ⟨e ++ [t.entry], [t.name]⟩ := by
  -- The header opens an empty table, and its settings fill it, whatever was filled before.
  have hheader : Statement.run? ⟨e, path⟩ (.table ⟨[], t.name⟩) =
      some ⟨e ++ [(t.name, .table .header [])], [t.name]⟩ := by
    rw [Statement.run?, Entries.openTable?_of_notMem hname]
    rfl
  have hsettings := (filling_last hname).foldlM_settings (e := []) hwithin
  rw [Section.statements, List.foldlM_cons, hheader]
  exact hsettings

/-- **Sections** are added to the tree, one after the other. -/
theorem exists_foldlM_sections (path : List String) {sections : List Section}
    (hnames : (e.map Prod.fst ++ sections.map Section.name).Nodup)
    (hwithin : ∀ t ∈ sections, t.names.Nodup) :
    ∃ path', (sections.flatMap Section.statements).foldlM Statement.run? ⟨e, path⟩ =
      some ⟨e ++ sections.map Section.entry, path'⟩ := by
  induction sections generalizing e path with
  | nil => exact ⟨path, by simp⟩
  | cons t sections ih =>
    have hname : t.name ∉ e.map Prod.fst :=
      fun h => List.disjoint_of_nodup_append hnames h List.mem_cons_self
    have hrest : ((e ++ [t.entry]).map Prod.fst ++ sections.map Section.name).Nodup := by
      rw [List.map_append, List.append_assoc]
      exact hnames
    have ht := foldlM_section path hname (hwithin t List.mem_cons_self)
    obtain ⟨path', hsections⟩ := ih [t.name] hrest
      fun t' ht' => hwithin t' (List.mem_cons_of_mem t ht')
    refine ⟨path', ?_⟩
    rw [List.flatMap_cons, List.foldlM_append, ht, Option.bind_eq_bind, Option.bind_some,
      hsections, List.map_cons, List.append_assoc, List.singleton_append]

end

theorem Sheet.exists_foldlM_statements {s : Sheet} (hs : s.Proper) :
    ∃ path, s.statements.foldlM Statement.run? {} = some ⟨s.entries, path⟩ := by
  -- The settings fill the tree before any header is met.
  have hsettings : (s.settings.map Setting.statement).foldlM Statement.run? {} =
      some ⟨s.settings.map Setting.entry, []⟩ :=
    filling_root.foldlM_settings (List.nodup_append.mp hs.outside.2).1
  have hnames : ((s.settings.map Setting.entry).map Prod.fst ++
      s.sections.map Section.name).Nodup := by
    rw [List.map_map]
    exact hs.outside.2
  obtain ⟨path, hsections⟩ := exists_foldlM_sections [] hnames
    fun t ht => (hs.within t ht).2
  refine ⟨path, ?_⟩
  rw [statements, List.foldlM_append, hsettings, Option.bind_eq_bind, Option.bind_some,
    hsections, entries]

/-- **A sheet** with proper names is read as what it says. -/
theorem Sheet.document?_text {s : Sheet} (hs : s.Proper) : document? s.text = some s.entries := by
  obtain ⟨path, hrun⟩ := exists_foldlM_statements hs
  rw [document?, text, statements?_textOf hs.bare_of_mem_lines, s.filterMap_lines,
    Option.bind_eq_bind, Option.bind_some, hrun]
  rfl

end SerialBridge.Toml
