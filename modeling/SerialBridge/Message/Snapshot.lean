import SerialBridge.Failure
import SerialBridge.Text.Utf8

/-!
# Message snapshots

A `Snapshot` is a payload buffer of fixed capacity with an explicit length. Its storage is laid
out once; every later write goes over the front of it and leaves the rest alone. The bytes past
the length are therefore **stale**: no reader sees them, but equality of snapshots is equality
of the whole storage, and they take part in it.

Two facts hold of every snapshot and are part of the type: the length fits the storage, and the
storage has room for at least one byte.
-/

namespace SerialBridge

/-- A message payload in a buffer of fixed capacity. -/
structure Snapshot where
  /-- All bytes of the buffer, stale ones included. -/
  storage : List UInt8
  /-- How many bytes at the front are valid. -/
  length : Nat
  /-- The valid bytes lie inside the buffer. -/
  length_le : length ≤ storage.length
  /-- The buffer has room. -/
  storage_pos : 0 < storage.length
deriving DecidableEq

namespace Snapshot

/-- The snapshot without payload and with zeroed storage of the given size. -/
def blank (capacity : Nat) (h : 0 < capacity) : Snapshot where
  storage := List.replicate capacity 0
  length := 0
  length_le := Nat.zero_le _
  storage_pos := by simpa using h

/-- The blank snapshot of that capacity, or the fault of asking for none at all. -/
def ofCapacity (capacity : Nat) : Except Fault Snapshot :=
  if h : 0 < capacity then .ok (blank capacity h) else .error .zeroCapacity

/-- The longest payload that is kept. -/
def capacity (s : Snapshot) : Nat := s.storage.length

/-- Whether the payload has no bytes. -/
def isEmpty (s : Snapshot) : Bool := s.length == 0

/-- The payload. -/
def bytes (s : Snapshot) : List UInt8 := s.storage.take s.length

theorem capacity_pos (s : Snapshot) : 0 < s.capacity := s.storage_pos

theorem length_overwritten (storage payload : List UInt8) :
    (payload.take storage.length ++ storage.drop payload.length).length = storage.length := by
  simp only [List.length_append, List.length_take, List.length_drop]
  omega

/-- Writes a payload over the front of the storage, as much of it as there is room for. -/
def overwrite (s : Snapshot) (payload : List UInt8) : Snapshot where
  storage := payload.take s.storage.length ++ s.storage.drop payload.length
  length := min payload.length s.storage.length
  length_le := by rw [length_overwritten]; exact Nat.min_le_right _ _
  storage_pos := by rw [length_overwritten]; exact s.storage_pos

/-- How many bytes of a payload there is no room for. -/
def dropped (s : Snapshot) (payload : List UInt8) : Nat := payload.length - s.capacity

/-- Writes another snapshot's payload. -/
def copyFrom (s other : Snapshot) : Snapshot := s.overwrite other.bytes

/-- Forgets the payload. The storage keeps its bytes. -/
def clear (s : Snapshot) : Snapshot where
  storage := s.storage
  length := 0
  length_le := Nat.zero_le _
  storage_pos := s.storage_pos

/-- The payload, or its first `limit` bytes if it is longer. -/
def latest (s : Snapshot) (limit : Nat) : List UInt8 := s.storage.take (min s.length limit)

/-- Writes as much of the payload as fits over the front of a buffer. Answers the number of bytes
written and the buffer after it. -/
def readInto (s : Snapshot) (buffer : List UInt8) : Nat × List UInt8 :=
  let bytes := s.latest buffer.length
  (bytes.length, bytes ++ buffer.drop bytes.length)

/-- The payload as text; see `Utf8.decodeLossy`. -/
def lossyText (s : Snapshot) : String := Utf8.decodeLossy s.bytes

/-- Length and capacity in words. -/
def describe (s : Snapshot) : String :=
  s!"MessageSnapshot \x7b len: {s.length}, capacity: {s.capacity} \x7d"

/-! ### What each operation does to capacity and payload -/

@[simp] theorem capacity_blank (n : Nat) (h : 0 < n) : (blank n h).capacity = n := by
  simp [capacity, blank]

@[simp] theorem bytes_blank (n : Nat) (h : 0 < n) : (blank n h).bytes = [] := by
  simp [bytes, blank]

theorem length_bytes (s : Snapshot) : s.bytes.length = s.length := by
  simp [bytes, s.length_le]

@[simp] theorem capacity_overwrite (s : Snapshot) (p : List UInt8) :
    (s.overwrite p).capacity = s.capacity := length_overwritten _ _

@[simp] theorem bytes_overwrite (s : Snapshot) (p : List UInt8) :
    (s.overwrite p).bytes = p.take s.capacity := by
  simp only [bytes, overwrite, capacity]
  rw [List.take_append_of_le_length (by rw [List.length_take]; omega),
    List.take_of_length_le (by rw [List.length_take]; omega)]

@[simp] theorem capacity_copyFrom (s t : Snapshot) : (s.copyFrom t).capacity = s.capacity :=
  capacity_overwrite _ _

@[simp] theorem bytes_copyFrom (s t : Snapshot) :
    (s.copyFrom t).bytes = t.bytes.take s.capacity := bytes_overwrite _ _

@[simp] theorem capacity_clear (s : Snapshot) : s.clear.capacity = s.capacity := rfl

@[simp] theorem bytes_clear (s : Snapshot) : s.clear.bytes = [] := by simp [bytes, clear]

theorem latest_eq_take (s : Snapshot) (limit : Nat) : s.latest limit = s.bytes.take limit := by
  simp [latest, bytes, List.take_take, Nat.min_comm]

end Snapshot

end SerialBridge
