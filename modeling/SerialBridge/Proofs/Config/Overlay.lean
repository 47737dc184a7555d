import SerialBridge.Config.Document
import SerialBridge.Proofs.Toml.Library

/-!
# Partial documents

A document may give some settings of a configuration and leave out the others. `Overlay` is the
choice of what it gives, any text for a name and any integer of 64 bits for a number, and
`Overlay.sheet` the document itself, in the layout of the documentation and with the texts spelled
in any way.

`Config.partial_document_overlays_defaults` says what becomes of it with any library that does what
is documented of libraries. A number that its setting cannot hold makes the document malformed,
whatever else is wrong. Otherwise the settings that are given replace the defaults, one by one and
also within a section, and the result is validated.

The library reads records field by field, so the proof goes from the inside out: first the settings
of a section are looked for among its entries, then the sections among those of the document. That
the defaults are merged setting by setting, and not section by section, rests on one fact: a section
that is left out changes nothing, and neither does one that is empty.
-/

namespace SerialBridge

open Toml

/-- Some settings of a configuration. -/
structure Overlay where
  /-- The name of the event thread. -/
  eventThreadName : Option String := none
  /-- The device. -/
  device : Option String := none
  /-- The line speed. -/
  baud : Option Int64 := none
  /-- The longest message that is kept. -/
  messageCapacity : Option Int64 := none

/-- What documents with the same settings may differ in. -/
structure Layout where
  /-- The spellings in the name of the event thread. -/
  eventThreadName : Nat → Spelling
  /-- The spellings in the name of the device. -/
  device : Nat → Spelling
  /-- The number of blank lines before the section of the link. -/
  blanksBeforeLink : Nat
  /-- The number of blank lines before the section of the mailbox. -/
  blanksBeforeMailbox : Nat

namespace Overlay

/-- A number is out of the range of its setting. -/
def OutOfRange (o : Overlay) : Prop :=
  (∃ n ∈ o.baud, n.toInt < 0 ∨ 2 ^ 32 ≤ n.toInt) ∨ ∃ n ∈ o.messageCapacity, n.toInt < 0

/-- Replaces the settings that are given. -/
def layOver (o : Overlay) (c : Config) : Config where
  link :=
    { device := o.device.getD c.link.device
      baud := (o.baud.map fun n => UInt32.ofNat n.toInt.toNat).getD c.link.baud }
  messageCapacity := (o.messageCapacity.map fun n => n.toInt.toNat).getD c.messageCapacity
  eventThreadName := o.eventThreadName.getD c.eventThreadName

variable (o : Overlay) (l : Layout)

/-- The settings that belong to no section. -/
def settings : List Setting :=
  o.eventThreadName.toList.map fun s => ⟨"event_thread_name", .text l.eventThreadName s⟩

/-- The settings of the link. -/
def linkSettings : List Setting :=
  (o.device.toList.map fun s => ⟨"device", .text l.device s⟩) ++
    o.baud.toList.map fun n => ⟨"baud", .integer n⟩

/-- The settings of the mailbox. -/
def mailboxSettings : List Setting :=
  o.messageCapacity.toList.map fun n => ⟨"message_capacity", .integer n⟩

/-- The document that gives these settings. A section is there if one of its settings is. -/
def sheet : Sheet where
  settings := o.settings l
  sections :=
    [⟨l.blanksBeforeLink, "link", o.linkSettings l⟩,
      ⟨l.blanksBeforeMailbox, "mailbox", o.mailboxSettings⟩].filter fun t => !t.settings.isEmpty

example : (sheet { eventThreadName := some "a\"b\\é", baud := some (-5) }
    ⟨fun _ => .plain, fun _ => .plain, 1, 1⟩).text =
    "event_thread_name = \"a\\\"b\\\\é\"\n\n[link]\nbaud = -5\n" := by decide

end Overlay

namespace Config

variable {o : Overlay} {l : Layout} {library : Library} {terms : Terms library.Value}

/-! ### What the document says -/

/-- A setting that may be left out has its name at most once. -/
theorem sublist_of_option {α : Type} (given : Option α) (name : String) (value : α → Literal) :
    ((given.toList.map fun a => (⟨name, value a⟩ : Setting)).map Setting.name).Sublist [name] := by
  cases given with
  | none => exact List.nil_sublist _
  | some a => exact List.Sublist.refl _

/-- The names in the section of the link are different and can be written as they are. -/
theorem properNames_linkSettings (o : Overlay) (l : Layout) :
    ProperNames ((o.linkSettings l).map Setting.name) := by
  have hnames : ((o.linkSettings l).map Setting.name).Sublist ["device", "baud"] := by
    rw [Overlay.linkSettings, List.map_append]
    exact (sublist_of_option o.device _ _).append (sublist_of_option o.baud _ _)
  exact ProperNames.sublist (by decide) hnames

theorem properNames_mailboxSettings (o : Overlay) :
    ProperNames (o.mailboxSettings.map Setting.name) :=
  ProperNames.sublist (by decide) (sublist_of_option o.messageCapacity _ _)

/-- The document is one that a library has to read. -/
theorem proper_sheet (o : Overlay) (l : Layout) : (o.sheet l).Proper where
  outside := by
    have hnames : (o.sheet l).names.Sublist ["event_thread_name", "link", "mailbox"] :=
      (sublist_of_option o.eventThreadName _ _).append (List.filter_sublist.map Section.name)
    exact ProperNames.sublist (by decide) hnames
  within := by
    intro t ht
    have ht' := List.mem_of_mem_filter ht
    simp only [List.mem_cons, List.not_mem_nil, or_false] at ht'
    rcases ht' with rfl | rfl
    · exact properNames_linkSettings o l
    · exact properNames_mailboxSettings o

/-- The document has the name of the event thread if it is given. -/
theorem lookup_eventThreadName :
    ((o.sheet l).meaning terms).lookup "event_thread_name" = o.eventThreadName.map terms.text := by
  obtain ⟨_ | s, device, baud, messageCapacity⟩ := o
  · rcases device with _ | device <;> rcases baud with _ | baud <;>
      rcases messageCapacity with _ | n <;> rfl
  · rfl

/-- The section of the link is there if one of its settings is given. -/
theorem lookup_link :
    ((o.sheet l).meaning terms).lookup "link" =
      if (o.linkSettings l).isEmpty then none
      else some (terms.table ((o.linkSettings l).map (Setting.meaning terms))) := by
  obtain ⟨_ | s, _ | device, _ | baud, _ | n⟩ := o <;> rfl

theorem lookup_mailbox :
    ((o.sheet l).meaning terms).lookup "mailbox" =
      if o.mailboxSettings.isEmpty then none
      else some (terms.table (o.mailboxSettings.map (Setting.meaning terms))) := by
  obtain ⟨_ | s, _ | device, _ | baud, _ | n⟩ := o <;> rfl

theorem lookup_device :
    ((o.linkSettings l).map (Setting.meaning terms)).lookup "device" = o.device.map terms.text := by
  obtain ⟨s, _ | device, _ | baud, n⟩ := o <;> rfl

theorem lookup_baud :
    ((o.linkSettings l).map (Setting.meaning terms)).lookup "baud" = o.baud.map terms.integer := by
  obtain ⟨s, _ | device, _ | baud, n⟩ := o <;> rfl

theorem lookup_messageCapacity :
    (o.mailboxSettings.map (Setting.meaning terms)).lookup "message_capacity" =
      o.messageCapacity.map terms.integer := by
  obtain ⟨s, device, baud, _ | n⟩ := o <;> rfl

/-- A section is left out if it was to give nothing. -/
theorem isEmpty_linkSettings :
    (o.linkSettings l).isEmpty = true ↔ o.device = none ∧ o.baud = none := by
  simp [Overlay.linkSettings]

theorem isEmpty_mailboxSettings :
    o.mailboxSettings.isEmpty = true ↔ o.messageCapacity = none := by
  simp [Overlay.mailboxSettings]

/-! ### Settings -/

/-- A line speed is one of 32 bits, if one is given. -/
def BaudFits (o : Overlay) : Prop := ∀ n ∈ o.baud, 0 ≤ n.toInt ∧ n.toInt < 2 ^ 32

/-- A capacity is not negative, if one is given. -/
def CapacityFits (o : Overlay) : Prop := ∀ n ∈ o.messageCapacity, 0 ≤ n.toInt

/-- Numbers that are not out of range fit their settings. -/
theorem not_outOfRange_iff : ¬o.OutOfRange ↔ BaudFits o ∧ CapacityFits o := by
  simp only [Overlay.OutOfRange, BaudFits, CapacityFits, not_or, not_exists, not_and, not_lt,
    not_le]

section

variable (h : library.Documented terms)

include h

theorem fill_device (given : Option String) (link : Link) :
    (deviceField library).fill (given.map terms.text) link =
      some { link with device := given.getD link.device } := by
  rw [Field.fill_of_fit (fun device link => { link with device })]
  · cases given <;> rfl
  · intro s _
    simp only [deviceField, h.text?_text, Option.map_some]

theorem fill_threadName (given : Option String) (c : Config) :
    (threadNameField library).fill (given.map terms.text) c =
      some { c with eventThreadName := given.getD c.eventThreadName } := by
  rw [Field.fill_of_fit (fun eventThreadName c => { c with eventThreadName })]
  · cases given <;> rfl
  · intro s _
    simp only [threadNameField, h.text?_text, Option.map_some]

theorem fill_baud (hbaud : BaudFits o) (link : Link) :
    (baudField library).fill (o.baud.map terms.integer) link =
      some { link with
        baud := (o.baud.map fun n => UInt32.ofNat n.toInt.toNat).getD link.baud } := by
  rw [Field.fill_of_fit (fun n link => { link with baud := UInt32.ofNat n.toInt.toNat })]
  · cases o.baud <;> rfl
  · intro n hn
    simp only [baudField, h.word?_integer n (hbaud n hn).1 (hbaud n hn).2, Option.map_some]

theorem fill_capacity (hcapacity : CapacityFits o) (capacity : Nat) :
    (capacityField library).fill (o.messageCapacity.map terms.integer) capacity =
      some ((o.messageCapacity.map fun n => n.toInt.toNat).getD capacity) := by
  rw [Field.fill_of_fit (fun n _ => n.toInt.toNat)]
  · cases o.messageCapacity <;> rfl
  · intro n hn
    simp only [capacityField, h.size?_integer n (hcapacity n hn), Option.map_some]

/-- A line speed that is not one of 32 bits. -/
theorem fill_baud_of_misfit (hbaud : ¬BaudFits o) (link : Link) :
    (baudField library).fill (o.baud.map terms.integer) link = none := by
  simp only [BaudFits, not_forall] at hbaud
  obtain ⟨n, hn, hrange⟩ := hbaud
  refine Field.fill_of_misfit ⟨n, hn, ?_⟩ link
  simp only [baudField, h.word?_outOfRange n (by omega), Option.map_none]

/-- A capacity that is negative. -/
theorem fill_capacity_of_misfit (hcapacity : ¬CapacityFits o) (capacity : Nat) :
    (capacityField library).fill (o.messageCapacity.map terms.integer) capacity = none := by
  simp only [CapacityFits, not_forall] at hcapacity
  obtain ⟨n, hn, hnegative⟩ := hcapacity
  refine Field.fill_of_misfit ⟨n, hn, ?_⟩ capacity
  simp only [capacityField, h.size?_negative n (by omega), Option.map_none]

/-! ### Sections -/

/-- The settings of the link are looked for one after the other. -/
theorem link?_eq :
    link? library (terms.table ((o.linkSettings l).map (Setting.meaning terms))) =
      ((deviceField library).fill (o.device.map terms.text) {}).bind
        ((baudField library).fill (o.baud.map terms.integer)) := by
  have hfields : ([deviceField library, baudField library].map Field.name).Nodup := by
    show ["device", "baud"].Nodup
    decide
  have hnames : (((o.linkSettings l).map (Setting.meaning terms)).map Prod.fst).Nodup := by
    rw [Setting.names_meaning]
    exact (properNames_linkSettings o l).2
  have hdevice : ((o.linkSettings l).map (Setting.meaning terms)).lookup
      (deviceField library).name = o.device.map terms.text := lookup_device
  have hbaud : ((o.linkSettings l).map (Setting.meaning terms)).lookup
      (baudField library).name = o.baud.map terms.integer := lookup_baud
  rw [link?, h.record?_table _ _ _ hfields hnames]
  simp only [List.foldlM_cons, List.foldlM_nil, hdevice, hbaud, bind_pure]
  rfl

theorem capacity?_eq :
    capacity? library (terms.table (o.mailboxSettings.map (Setting.meaning terms))) =
      (capacityField library).fill (o.messageCapacity.map terms.integer)
        ({} : Config).messageCapacity := by
  have hfields : ([capacityField library].map Field.name).Nodup := List.nodup_singleton _
  have hnames : ((o.mailboxSettings.map (Setting.meaning terms)).map Prod.fst).Nodup := by
    rw [Setting.names_meaning]
    exact (properNames_mailboxSettings o).2
  have hcapacity : (o.mailboxSettings.map (Setting.meaning terms)).lookup
      (capacityField library).name = o.messageCapacity.map terms.integer := lookup_messageCapacity
  rw [capacity?, h.record?_table _ _ _ hfields hnames]
  simp only [List.foldlM_cons, List.foldlM_nil, hcapacity, bind_pure]

/-- **The link** overlays its defaults, whether or not its section is there. -/
theorem fill_link (hbaud : BaudFits o) :
    (linkField library).fill (((o.sheet l).meaning terms).lookup "link") {} =
      some { link := (o.layOver {}).link } := by
  have hlink : link? library (terms.table ((o.linkSettings l).map (Setting.meaning terms))) =
      some (o.layOver {}).link := by
    rw [link?_eq h, fill_device h, Option.bind_some, fill_baud h hbaud]
    rfl
  rw [lookup_link]
  split
  · next hempty =>
    obtain ⟨hdevice, hnone⟩ := isEmpty_linkSettings.mp hempty
    rw [Overlay.layOver, hdevice, hnone]
    rfl
  · simp only [Field.fill, linkField, hlink, Option.map_some]

/-- **The mailbox** overlays its default, whether or not its section is there. -/
theorem fill_mailbox (hcapacity : CapacityFits o) (c : Config)
    (hc : c.messageCapacity = ({} : Config).messageCapacity) :
    (mailboxField library).fill (((o.sheet l).meaning terms).lookup "mailbox") c =
      some { c with messageCapacity := (o.layOver {}).messageCapacity } := by
  have hmailbox : capacity? library (terms.table (o.mailboxSettings.map (Setting.meaning terms))) =
      some (o.layOver {}).messageCapacity := by
    rw [capacity?_eq h, fill_capacity h hcapacity]
    rfl
  rw [lookup_mailbox]
  split
  · next hempty =>
    have hnone : o.messageCapacity = none := isEmpty_mailboxSettings.mp hempty
    -- Nothing is filled in, which is right as long as the setting still has its default.
    rw [Overlay.layOver, hnone, Option.map_none, Option.getD_none, ← hc]
    rfl
  · simp only [Field.fill, mailboxField, hmailbox, Option.map_some]

/-- A section with a line speed is there, and it cannot be read if that is out of range. -/
theorem fill_link_of_misfit (hbaud : ¬BaudFits o) (c : Config) :
    (linkField library).fill (((o.sheet l).meaning terms).lookup "link") c = none := by
  have hlink : link? library (terms.table ((o.linkSettings l).map (Setting.meaning terms))) =
      none := by
    rw [link?_eq h, fill_device h, Option.bind_some, fill_baud_of_misfit h hbaud]
  rw [lookup_link, if_neg]
  · simp only [Field.fill, linkField, hlink, Option.map_none]
  -- The section is there, since the line speed that does not fit is one of its settings.
  · intro hempty
    obtain ⟨-, hnone⟩ := isEmpty_linkSettings.mp hempty
    exact hbaud fun n hn => by rw [hnone] at hn; cases hn

/-- A section with a capacity is there, and it cannot be read if that is negative. -/
theorem fill_mailbox_of_misfit (hcapacity : ¬CapacityFits o) (c : Config) :
    (mailboxField library).fill (((o.sheet l).meaning terms).lookup "mailbox") c = none := by
  have hmailbox : capacity? library (terms.table (o.mailboxSettings.map (Setting.meaning terms))) =
      none := by
    rw [capacity?_eq h, fill_capacity_of_misfit h hcapacity]
  rw [lookup_mailbox, if_neg]
  · simp only [Field.fill, mailboxField, hmailbox, Option.map_none]
  · intro hempty
    have hnone : o.messageCapacity = none := isEmpty_mailboxSettings.mp hempty
    exact hcapacity fun n hn => by rw [hnone] at hn; cases hn

/-! ### The document -/

/-- The sections and the name of the event thread are looked for one after the other. -/
theorem decode?_eq :
    decode? library (o.sheet l).text =
      (((linkField library).fill (((o.sheet l).meaning terms).lookup "link") {}).bind
        ((mailboxField library).fill (((o.sheet l).meaning terms).lookup "mailbox"))).bind
        ((threadNameField library).fill (o.eventThreadName.map terms.text)) := by
  have hfields : ([linkField library, mailboxField library, threadNameField library].map
      Field.name).Nodup := by
    show ["link", "mailbox", "event_thread_name"].Nodup
    decide
  have hnames : (((o.sheet l).meaning terms).map Prod.fst).Nodup := by
    rw [Sheet.names_meaning]
    exact (proper_sheet o l).outside.2
  rw [decode?, h.document?_text _ (proper_sheet o l), Option.bind_some, config?,
    h.record?_table _ _ _ hfields hnames, ← lookup_eventThreadName (l := l)]
  simp only [List.foldlM_cons, List.foldlM_nil, bind_pure, Option.bind_assoc]
  rfl

/-- The settings that are given replace the defaults, if every number is in range. -/
theorem decode?_of_inRange (ho : ¬o.OutOfRange) :
    decode? library (o.sheet l).text = some (o.layOver {}) := by
  obtain ⟨hbaud, hcapacity⟩ := not_outOfRange_iff.mp ho
  rw [decode?_eq h, fill_link h hbaud, Option.bind_some,
    fill_mailbox h hcapacity { link := (o.layOver {}).link } rfl, Option.bind_some,
    fill_threadName h]
  rfl

/-- A number that is out of range makes the document malformed. -/
theorem decode?_of_outOfRange (ho : o.OutOfRange) : decode? library (o.sheet l).text = none := by
  rw [decode?_eq h]
  -- One of the numbers does not fit; the link is read first, so the mailbox matters only if the
  -- link can be read.
  by_cases hbaud : BaudFits o
  · have hcapacity : ¬CapacityFits o := fun hcapacity =>
      not_outOfRange_iff.mpr ⟨hbaud, hcapacity⟩ ho
    rw [fill_link h hbaud, Option.bind_some, fill_mailbox_of_misfit h hcapacity, Option.bind_none]
  · rw [fill_link_of_misfit h hbaud]
    rfl

end

/-- **Partial documents** overlay the defaults. Take any library that does what is documented of
libraries, any choice of settings, any texts for the names, spelled in any way, and any integers of
64 bits for the numbers. A line speed of less than zero or of `2 ^ 32` and more, or a capacity of
less than zero, makes the document malformed. Otherwise the result is the defaults with the given
settings in their places, or what is wrong with that. -/
theorem partial_document_overlays_defaults {library : Library} {terms : Terms library.Value}
    (h : library.Documented terms) (o : Overlay) (l : Layout) :
    (o.OutOfRange → parse library (o.sheet l).text = .error .malformed) ∧
      (¬o.OutOfRange →
        (∀ p, (o.layOver {}).problem? = some p → parse library (o.sheet l).text = .error p) ∧
        ((o.layOver {}).problem? = none →
          ∃ c, parse library (o.sheet l).text = .ok c ∧ c.toConfig = o.layOver {})) := by
  constructor
  · intro ho
    rw [parse, decode?_of_outOfRange h ho]
  · intro ho
    have hparse : parse library (o.sheet l).text = (o.layOver {}).validate := by
      rw [parse, decode?_of_inRange h ho]
    rw [hparse]
    constructor
    · intro p hp
      exact validate_of_some hp
    · intro hvalid
      exact ⟨_, validate_of_none hvalid, rfl⟩

/-- A device whose name has to be escaped, spelled in two ways. -/
def oddSettings : Overlay := { device := some "tty\"é\n", messageCapacity := some 64 }

/-- A line speed that needs one bit too many, beside a capacity of zero. -/
def excessiveSettings : Overlay := { baud := some 4294967296, messageCapacity := some 0 }

/-- The library with which the program runs reads both: the first as the defaults with two settings
replaced, and of the second it says that it is malformed, and not that its capacity is zero. -/
theorem odd_document_overlays_defaults :
    let l : Layout := ⟨fun _ => .plain, fun n => if n % 2 = 0 then .letter else .code true, 1, 2⟩
    Toml.library.Documented Item.terms ∧ ¬oddSettings.OutOfRange ∧ excessiveSettings.OutOfRange ∧
      (∃ c, parse Toml.library (oddSettings.sheet l).text = .ok c ∧
        c.toConfig = { link := { device := "tty\"é\n" }, messageCapacity := 64 }) ∧
      parse Toml.library (excessiveSettings.sheet l).text = .error .malformed := by
  intro l
  have hodd : ¬oddSettings.OutOfRange := by
    refine not_outOfRange_iff.mpr ⟨nofun, fun n hn => ?_⟩
    obtain rfl : 64 = n := Option.some.inj hn
    decide
  have hexcessive : excessiveSettings.OutOfRange := .inl ⟨4294967296, rfl, .inr (by decide)⟩
  refine ⟨documented_library, hodd, hexcessive, ?_, ?_⟩
  · exact ((partial_document_overlays_defaults documented_library oddSettings l).2 hodd).2
      (by decide)
  · exact (partial_document_overlays_defaults documented_library excessiveSettings l).1 hexcessive

end Config

end SerialBridge
