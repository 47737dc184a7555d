import SerialBridge.Message.Snapshot

/-!
# Snapshots as bounded byte strings

A collection of snapshots is worked on by `Command`s, each of which makes a snapshot, writes to one
or makes a copy. The same commands can be given to anything that is a `Holder` of payloads, and
three kinds of holders are compared here.

* A `Payload` is a byte string with the capacity that it may not exceed, and nothing more.
* A `Snapshot` keeps its payload at the front of a storage that is never wiped.
* `Cells` are the storage and the length of a snapshot without any knowledge of how they fit
  together. Every slice is checked, and a command that takes one out of range has no answer.

`Snapshot.acts_as_bounded_bytes` says that a collection of snapshots behaves like one of payloads,
that no slice is ever out of range, and that whatever can be read from a snapshot is told by its
payload. Both comparisons are made by a map from snapshots that respects the operations
(`Respects`).
-/

namespace SerialBridge

/-! ### Holders of payloads -/

/-- Things that hold a payload of limited length. An operation has no answer if it takes a slice
out of range. -/
class Holder (α : Type) where
  /-- A new one with this capacity and without payload. -/
  create : Nat → Except Fault α
  /-- Writes a payload, and says how many bytes there was no room for. -/
  overwrite : List UInt8 → α → Option (α × Nat)
  /-- Writes the payload of another one, which comes first. -/
  copyFrom : α → α → Option α
  /-- Forgets the payload. -/
  clear : α → α

/-- What is done with a collection of holders. They are numbered, and new ones come at the end. -/
inductive Command where
  /-- A new one is made. -/
  | create (capacity : Nat)
  /-- A payload is written to one. -/
  | overwrite (target : Nat) (payload : List UInt8)
  /-- The payload of one is written to another. -/
  | copyFrom (target source : Nat)
  /-- One forgets its payload. -/
  | clear (target : Nat)
  /-- A copy is made of one. -/
  | clone (source : Nat)

/-- The answer to a command. -/
inductive Receipt where
  /-- It is done. -/
  | done
  /-- It is done, and there was no room for that many bytes. -/
  | dropped (count : Nat)
  /-- It ran into a fault. -/
  | fault (cause : Fault)
  /-- There is none with this number. -/
  | absent
deriving DecidableEq

section

variable {α β : Type} [Holder α] [Holder β]

/-- Carries out a command. -/
def Command.run? : Command → List α → Option (List α × Receipt)
  | .create capacity, xs =>
    match Holder.create capacity with
    | .ok x => some (xs ++ [x], .done)
    | .error f => some (xs, .fault f)
  | .overwrite i payload, xs =>
    match xs[i]? with
    | some x => (Holder.overwrite payload x).map fun (x, n) => (xs.set i x, .dropped n)
    | none => some (xs, .absent)
  | .copyFrom i j, xs =>
    match xs[i]?, xs[j]? with
    | some x, some y => (Holder.copyFrom y x).map fun x => (xs.set i x, .done)
    | _, _ => some (xs, .absent)
  | .clear i, xs =>
    match xs[i]? with
    | some x => some (xs.set i (Holder.clear x), .done)
    | none => some (xs, .absent)
  | .clone i, xs =>
    match xs[i]? with
    | some x => some (xs ++ [x], .done)
    | none => some (xs, .absent)

/-- Carries out one command after the other. -/
def runAll? : List Command → List α → Option (List α × List Receipt)
  | [], xs => some (xs, [])
  | c :: cs, xs => (c.run? xs).bind fun (xs, r) => (runAll? cs xs).map fun (xs, rs) => (xs, r :: rs)

/-- A map of holders that respects the operations. -/
structure Respects (f : α → β) : Prop where
  /-- New ones have the same capacity, or the same fault. -/
  create : ∀ n, (Holder.create n : Except Fault β) = (Holder.create n).map f
  /-- Writing does the same, and drops as many bytes. -/
  overwrite : ∀ p x, Holder.overwrite p (f x) = (Holder.overwrite p x).map fun (x, n) => (f x, n)
  /-- So does writing the payload of another one. -/
  copyFrom : ∀ y x, Holder.copyFrom (f y) (f x) = (Holder.copyFrom y x).map f
  /-- So does forgetting. -/
  clear : ∀ x, Holder.clear (f x) = f (Holder.clear x)

namespace Respects

variable {f : α → β} (h : Respects f)
include h

/-- **One command** does the same on both sides. -/
theorem run? (c : Command) (xs : List α) :
    c.run? (xs.map f) = (c.run? xs).map fun (xs, r) => (xs.map f, r) := by
  -- A command for a snapshot that is not there is answered, and changes nothing.
  cases c with
  | create n =>
    simp only [Command.run?]
    rw [h.create]
    cases (Holder.create n : Except Fault α) with
    | error e => rfl
    | ok x => simp [Except.map]
  | overwrite i p =>
    simp only [Command.run?, List.getElem?_map]
    cases xs[i]? with
    | none => rfl
    | some x =>
      dsimp only [Option.map_some]
      rw [h.overwrite]
      cases Holder.overwrite p x <;> simp
  | copyFrom i j =>
    simp only [Command.run?, List.getElem?_map]
    cases xs[i]? with
    | none => rfl
    | some x =>
      cases xs[j]? with
      | none => rfl
      | some y =>
        dsimp only [Option.map_some]
        rw [h.copyFrom]
        cases Holder.copyFrom y x <;> simp
  | clear i =>
    simp only [Command.run?, List.getElem?_map]
    cases xs[i]? with
    | none => rfl
    | some x => simp [h.clear]
  | clone i =>
    simp only [Command.run?, List.getElem?_map]
    cases xs[i]? with
    | none => rfl
    | some x => simp

/-- **All commands** do. -/
theorem runAll? (cs : List Command) (xs : List α) :
    SerialBridge.runAll? cs (xs.map f)
      = (SerialBridge.runAll? cs xs).map fun (xs, rs) => (xs.map f, rs) := by
  induction cs generalizing xs with
  | nil => rfl
  | cons c cs ih =>
    rw [SerialBridge.runAll?, SerialBridge.runAll?, h.run?]
    cases c.run? xs with
    | none => rfl
    | some answer =>
      obtain ⟨xs', r⟩ := answer
      dsimp only [Option.map_some, Option.bind_some]
      rw [ih]
      cases SerialBridge.runAll? cs xs' <;> rfl

end Respects

end

/-! ### Three kinds of holders -/

/-- A byte string and the capacity that it may not exceed. -/
structure Payload where
  /-- The longest byte string that is kept. -/
  capacity : Nat
  /-- The bytes. -/
  bytes : List UInt8
  /-- There is room for them. -/
  fits : bytes.length ≤ capacity

namespace Payload

/-- No bytes. -/
def empty (capacity : Nat) : Payload := ⟨capacity, [], Nat.zero_le capacity⟩

/-- The first bytes of a byte string, as many as there is room for. -/
def cut (capacity : Nat) (bytes : List UInt8) : Payload where
  capacity := capacity
  bytes := bytes.take (min bytes.length capacity)
  fits := by
    rw [List.length_take]
    omega

instance : Holder Payload where
  create n := if 0 < n then .ok (empty n) else .error .zeroCapacity
  overwrite p x := some (cut x.capacity p, p.length - min p.length x.capacity)
  copyFrom y x := some (cut x.capacity y.bytes)
  clear x := empty x.capacity

end Payload

/-- The first bytes of a byte string, if it has as many. -/
def front? (n : Nat) (bytes : List UInt8) : Option (List UInt8) :=
  if n ≤ bytes.length then some (bytes.take n) else none

/-- A byte string with the first bytes replaced by a source, if it has as many and the source is as
long. -/
def withFront? (n : Nat) (source bytes : List UInt8) : Option (List UInt8) :=
  if n ≤ bytes.length ∧ source.length = n then some (source ++ bytes.drop n) else none

theorem front?_of_le {n : Nat} {bytes : List UInt8} (h : n ≤ bytes.length) :
    front? n bytes = some (bytes.take n) := if_pos h

theorem withFront?_of_le {n : Nat} {source bytes : List UInt8} (h : n ≤ bytes.length)
    (hn : source.length = n) : withFront? n source bytes = some (source ++ bytes.drop n) :=
  if_pos ⟨h, hn⟩

/-- A storage and a length. -/
structure Cells where
  /-- All bytes. -/
  storage : List UInt8
  /-- How many of them are valid. -/
  length : Nat

namespace Cells

/-- The valid bytes. -/
def bytes? (c : Cells) : Option (List UInt8) := front? c.length c.storage

/-- The valid bytes, or the first of them if there are more than the limit. -/
def latest? (c : Cells) (limit : Nat) : Option (List UInt8) :=
  front? (min c.length limit) c.storage

/-- Writes as many of the valid bytes as fit over the front of a buffer. Answers their number and
the buffer after it. -/
def readInto? (c : Cells) (buffer : List UInt8) : Option (Nat × List UInt8) := do
  let bytes ← c.latest? buffer.length
  let buffer ← withFront? bytes.length bytes buffer
  return (bytes.length, buffer)

/-- Writes a payload over the front of the storage, as much of it as there is room for. -/
def overwrite? (payload : List UInt8) (c : Cells) : Option (Cells × Nat) := do
  let n := min payload.length c.storage.length
  let source ← front? n payload
  let storage ← withFront? n source c.storage
  return ({ storage, length := n }, payload.length - n)

instance : Holder Cells where
  create n := if 0 < n then .ok ⟨List.replicate n 0, 0⟩ else .error .zeroCapacity
  overwrite := overwrite?
  copyFrom d c := do
    let payload ← d.bytes?
    let (c, _) ← overwrite? payload c
    return c
  clear c := { c with length := 0 }

end Cells

namespace Snapshot

instance : Holder Snapshot where
  create := ofCapacity
  overwrite p s := some (s.overwrite p, s.dropped p)
  copyFrom t s := some (s.copyFrom t)
  clear := clear

/-- The byte string that a snapshot stands for. -/
def payload (s : Snapshot) : Payload where
  capacity := s.capacity
  bytes := s.bytes
  fits := s.length_bytes ▸ s.length_le

/-- The storage and the length of a snapshot. -/
def cells (s : Snapshot) : Cells := ⟨s.storage, s.length⟩

variable (s t : Snapshot) (p : List UInt8)

/-! ### Snapshots and payloads -/

theorem take_min_length (p : List UInt8) (n : Nat) : p.take (min p.length n) = p.take n := by
  rw [Nat.min_comm]
  exact List.take_eq_take_min.symm

/-- What is kept of a payload is as much as there is room for, whatever was stored before. -/
theorem payload_overwrite : (s.overwrite p).payload = .cut s.capacity p := by
  simp [payload, Payload.cut, take_min_length]

theorem dropped_eq : s.dropped p = p.length - min p.length s.capacity := by
  rw [dropped]
  omega

theorem payload_clear : s.clear.payload = .empty s.capacity := by simp [payload, Payload.empty]

/-- Of a snapshot, all commands use nothing but the byte string that it stands for. -/
theorem respects_payload : Respects payload where
  create n := by
    change (if 0 < n then Except.ok (Payload.empty n) else .error .zeroCapacity)
      = (ofCapacity n).map payload
    rw [ofCapacity]
    split
    · simp [Except.map, payload, Payload.empty]
    · rfl
  overwrite p s := by
    change some (Payload.cut s.capacity p, p.length - min p.length s.capacity) = _
    rw [← dropped_eq, ← payload_overwrite]
    rfl
  copyFrom t s := congrArg some (s.payload_overwrite t.bytes).symm
  clear s := s.payload_clear.symm

/-! ### Slices -/

/-- An overwrite takes no slice that is out of range, of the payload or of the storage. -/
theorem overwrite?_cells : s.cells.overwrite? p = some ((s.overwrite p).cells, s.dropped p) := by
  have hlength : (p.take (min p.length s.storage.length)).length
      = min p.length s.storage.length := by
    rw [List.length_take]
    omega
  -- Behind a payload that is cut nothing is left to keep.
  have hrest : s.storage.drop (min p.length s.storage.length) = s.storage.drop p.length := by
    rcases Nat.le_total p.length s.storage.length with h | h
    · rw [Nat.min_eq_left h]
    · rw [Nat.min_eq_right h, List.drop_of_length_le h, List.drop_length]
  dsimp only [Cells.overwrite?, cells]
  rw [front?_of_le (Nat.min_le_left _ _), Option.bind_eq_bind, Option.bind_some,
    withFront?_of_le (Nat.min_le_right _ _) hlength, Option.bind_some, take_min_length, hrest,
    dropped_eq]
  rfl

theorem bytes?_cells : s.cells.bytes? = some s.bytes := front?_of_le s.length_le

theorem latest?_cells (limit : Nat) : s.cells.latest? limit = some (s.latest limit) :=
  front?_of_le (Nat.le_trans (Nat.min_le_left _ _) s.length_le)

theorem length_latest (limit : Nat) : (s.latest limit).length = min s.bytes.length limit := by
  rw [latest_eq_take, List.length_take, Nat.min_comm]

/-- A buffer is written as far as it goes, and no further. -/
theorem readInto?_cells (buffer : List UInt8) :
    s.cells.readInto? buffer = some (s.readInto buffer) := by
  have hle : (s.latest buffer.length).length ≤ buffer.length := by
    rw [length_latest]
    exact Nat.min_le_right _ _
  rw [Cells.readInto?, latest?_cells, Option.bind_eq_bind, Option.bind_some,
    withFront?_of_le hle rfl]
  rfl

/-- With all slices in range, the checked storage is the storage of the snapshot. -/
theorem respects_cells : Respects cells where
  create n := by
    change (if 0 < n then Except.ok (⟨List.replicate n 0, 0⟩ : Cells) else .error .zeroCapacity)
      = (ofCapacity n).map cells
    rw [ofCapacity]
    split <;> rfl
  overwrite p s := s.overwrite?_cells p
  copyFrom t s := by
    change (do
      let payload ← t.cells.bytes?
      let (c, _) ← s.cells.overwrite? payload
      return c) = _
    rw [bytes?_cells, Option.bind_eq_bind, Option.bind_some, overwrite?_cells]
    rfl
  clear s := rfl

/-! ### Every command has an answer -/

/-- No capacity changes if what takes a snapshot's place has the same. -/
theorem map_capacity_set {snapshots : List Snapshot} {i : Nat} {s t : Snapshot}
    (hi : snapshots[i]? = some s) (ht : t.capacity = s.capacity) :
    snapshots.map capacity <+: (snapshots.set i t).map capacity := by
  obtain ⟨hlt, rfl⟩ := List.getElem?_eq_some_iff.mp hi
  have hsame : (snapshots.set i t).map capacity = snapshots.map capacity := by
    rw [List.map_set, ht, ← List.getElem_map capacity (h := by simpa using hlt),
      List.set_getElem_self]
  exact ⟨[], by rw [List.append_nil, hsame]⟩

/-- **One command** has an answer, and changes no capacity. -/
theorem exists_run? (c : Command) (snapshots : List Snapshot) :
    ∃ after receipt, c.run? snapshots = some (after, receipt) ∧
      snapshots.map capacity <+: after.map capacity := by
  cases c with
  | create n =>
    simp only [Command.run?]
    cases (Holder.create n : Except Fault Snapshot) with
    | error f => exact ⟨snapshots, .fault f, rfl, List.prefix_refl _⟩
    | ok s => exact ⟨snapshots ++ [s], .done, rfl, by simp⟩
  | overwrite i p =>
    simp only [Command.run?]
    cases hi : snapshots[i]? with
    | none => exact ⟨snapshots, .absent, rfl, List.prefix_refl _⟩
    | some s =>
      exact ⟨snapshots.set i (s.overwrite p), .dropped (s.dropped p), rfl,
        map_capacity_set hi (s.capacity_overwrite p)⟩
  | copyFrom i j =>
    simp only [Command.run?]
    cases hi : snapshots[i]? with
    | none => exact ⟨snapshots, .absent, rfl, List.prefix_refl _⟩
    | some s =>
      cases snapshots[j]? with
      | none => exact ⟨snapshots, .absent, rfl, List.prefix_refl _⟩
      | some t =>
        exact ⟨snapshots.set i (s.copyFrom t), .done, rfl,
          map_capacity_set hi (s.capacity_copyFrom t)⟩
  | clear i =>
    simp only [Command.run?]
    cases hi : snapshots[i]? with
    | none => exact ⟨snapshots, .absent, rfl, List.prefix_refl _⟩
    | some s =>
      exact ⟨snapshots.set i s.clear, .done, rfl, map_capacity_set hi s.capacity_clear⟩
  | clone i =>
    simp only [Command.run?]
    cases snapshots[i]? with
    | none => exact ⟨snapshots, .absent, rfl, List.prefix_refl _⟩
    | some s => exact ⟨snapshots ++ [s], .done, rfl, by simp⟩

/-- **All commands** have. -/
theorem exists_runAll? (cs : List Command) (snapshots : List Snapshot) :
    ∃ after receipts, runAll? cs snapshots = some (after, receipts) ∧
      snapshots.map capacity <+: after.map capacity := by
  induction cs generalizing snapshots with
  | nil => exact ⟨snapshots, [], rfl, List.prefix_refl _⟩
  | cons c cs ih =>
    -- The first command answers and leaves the capacities alone, and so do the others from there.
    obtain ⟨between, r, hrun, hbetween⟩ := exists_run? c snapshots
    obtain ⟨after, rs, hrunAll, hafter⟩ := ih between
    refine ⟨after, r :: rs, ?_, hbetween.trans hafter⟩
    rw [runAll?, hrun, Option.bind_some]
    dsimp only
    rw [hrunAll]
    rfl

/-! ### What can be read -/

/-- What is read from the snapshot is told by the payload. -/
structure ReadsAs (s : Snapshot) (x : Payload) : Prop where
  /-- The capacity is the same. -/
  capacity : s.capacity = x.capacity
  /-- The length is that of the bytes, -/
  length : s.length = x.bytes.length
  /-- and there are none if it is empty. -/
  isEmpty : s.isEmpty = x.bytes.isEmpty
  /-- The valid bytes are the bytes. -/
  bytes : s.bytes = x.bytes
  /-- In words, their number and the capacity are told. -/
  describe : s.describe
    = s!"MessageSnapshot \x7b len: {x.bytes.length}, capacity: {x.capacity} \x7d"
  /-- As text, the bytes are. -/
  lossyText : s.lossyText = Utf8.decodeLossy x.bytes
  /-- With a limit, the first of them are read, -/
  latest : ∀ limit, s.latest limit = x.bytes.take (min x.bytes.length limit)
  /-- and into a buffer as many as it has room for. The rest of the buffer stays as it was. -/
  readInto : ∀ buffer, s.readInto buffer =
    (min x.bytes.length buffer.length,
      x.bytes.take (min x.bytes.length buffer.length)
        ++ buffer.drop (min x.bytes.length buffer.length))

/-- No slice that is read is out of range. -/
structure InRange (s : Snapshot) : Prop where
  /-- Not for all valid bytes, -/
  bytes : s.cells.bytes? = some s.bytes
  /-- nor with a limit, -/
  latest : ∀ limit, s.cells.latest? limit = some (s.latest limit)
  /-- nor into a buffer. -/
  readInto : ∀ buffer, s.cells.readInto? buffer = some (s.readInto buffer)

theorem latest_eq (limit : Nat) : s.latest limit = s.bytes.take (min s.bytes.length limit) := by
  rw [latest_eq_take, take_min_length]

theorem describe_eq : s.describe
    = s!"MessageSnapshot \x7b len: {s.bytes.length}, capacity: {s.capacity} \x7d" := by
  unfold describe
  rw [← length_bytes]

/-- Nothing but the byte string is read, in any of the ways there are. -/
theorem readsAs_payload : s.ReadsAs s.payload where
  capacity := rfl
  length := s.length_bytes.symm
  isEmpty := by
    rw [isEmpty, ← length_bytes]
    cases h : s.bytes <;> simp [payload, h]
  bytes := rfl
  describe := s.describe_eq
  lossyText := rfl
  latest := s.latest_eq
  readInto buffer := by
    rw [readInto, length_latest, latest_eq]
    rfl

theorem inRange : s.InRange := ⟨s.bytes?_cells, s.latest?_cells, s.readInto?_cells⟩

/-- **Snapshots act as bounded byte strings.** Whatever commands are given to a collection of
snapshots, they act, and answer, as if they were given to the byte strings that the snapshots stand
for, each within its capacity. No capacity ever changes. Afterwards all that can be read from a
snapshot is told by its byte string, whatever stale bytes there are in its storage. No slice is out
of range, neither in a command nor in reading afterwards. -/
theorem acts_as_bounded_bytes (commands : List Command) (snapshots : List Snapshot) :
    ∃ after receipts, runAll? commands snapshots = some (after, receipts) ∧
      runAll? commands (snapshots.map payload) = some (after.map payload, receipts) ∧
      snapshots.map capacity <+: after.map capacity ∧
      (∀ s ∈ after, s.ReadsAs s.payload) ∧
      runAll? commands (snapshots.map cells) = some (after.map cells, receipts) ∧
      ∀ s ∈ after, s.InRange := by
  obtain ⟨after, receipts, hrun, hcapacity⟩ := exists_runAll? commands snapshots
  -- The same commands are given to the images, so it is enough that both maps respect them.
  have hpayloads : runAll? commands (snapshots.map payload)
      = some (after.map payload, receipts) := by
    rw [respects_payload.runAll?, hrun]
    rfl
  have hcells : runAll? commands (snapshots.map cells) = some (after.map cells, receipts) := by
    rw [respects_cells.runAll?, hrun]
    rfl
  exact ⟨after, receipts, hrun, hpayloads, hcapacity, fun s _ => s.readsAs_payload, hcells,
    fun s _ => s.inRange⟩

end Snapshot

end SerialBridge
