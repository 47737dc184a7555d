import SerialBridge.Event.Kind

/-!
# Sets of pending kinds

`PendingSet` is a set of event kinds held in three bits. Three bits are all the type has, so
there is no state in which a stray bit makes two sets with the same members differ.

The view of a set is its membership, `k ∈ s`. `toList` walks a set in dispatch order, `size`
counts its bits, and `record` is the step of a producer: it adds a kind and says whether the
kind was there already.
-/

namespace SerialBridge

/-- A set of event kinds, one bit each. -/
structure PendingSet where
  /-- The bits of the kinds in the set. -/
  bits : BitVec 3 := 0
deriving DecidableEq

namespace PendingSet

instance : EmptyCollection PendingSet := ⟨{}⟩

instance : Inhabited PendingSet := ⟨∅⟩

/-- Whether the kind is in the set. -/
def contains (s : PendingSet) (k : EventKind) : Bool := s.bits &&& k.bit != 0

instance : Membership EventKind PendingSet where
  mem s k := s.contains k = true

instance (k : EventKind) (s : PendingSet) : Decidable (k ∈ s) :=
  inferInstanceAs (Decidable (s.contains k = true))

/-- Whether the set has no kinds. -/
def isEmpty (s : PendingSet) : Bool := s.bits == 0

/-- The set with one more kind. -/
def insert (s : PendingSet) (k : EventKind) : PendingSet := ⟨s.bits ||| k.bit⟩

/-- Adds a kind and says whether it was in the set before. -/
def record (s : PendingSet) (k : EventKind) : Bool × PendingSet := (s.contains k, s.insert k)

/-- Hands out the whole set and leaves the empty one. -/
def take (s : PendingSet) : PendingSet × PendingSet := (s, ∅)

/-- The set of the kinds in the list. -/
def ofList (kinds : List EventKind) : PendingSet := kinds.foldl insert ∅

/-- The kinds of the set, in dispatch order. -/
def toList (s : PendingSet) : List EventKind := EventKind.dispatchOrder.filter s.contains

/-- The number of bits that are set. -/
def size (s : PendingSet) : Nat :=
  (s.bits.getLsbD 0).toNat + (s.bits.getLsbD 1).toNat + (s.bits.getLsbD 2).toNat

/-- The members' names in dispatch order, between braces. -/
def text (s : PendingSet) : String :=
  "\x7b" ++ ", ".intercalate (s.toList.map EventKind.name) ++ "\x7d"

/-! ### Membership -/

theorem mem_iff {k : EventKind} {s : PendingSet} : k ∈ s ↔ s.contains k = true := Iff.rfl

@[simp] theorem contains_empty (k : EventKind) : (∅ : PendingSet).contains k = false := by
  cases k <;> rfl

@[simp] theorem not_mem_empty (k : EventKind) : k ∉ (∅ : PendingSet) := by
  simp [mem_iff]

theorem contains_insert (s : PendingSet) (j k : EventKind) :
    (s.insert j).contains k = (s.contains k || decide (j = k)) := by
  obtain ⟨b⟩ := s
  revert b
  cases j <;> cases k <;> decide

@[simp] theorem mem_insert {s : PendingSet} {j k : EventKind} :
    k ∈ s.insert j ↔ k ∈ s ∨ j = k := by
  simp [mem_iff, contains_insert]

/-- A set is determined by its members. -/
@[ext] theorem ext {s t : PendingSet} (h : ∀ k, k ∈ s ↔ k ∈ t) : s = t := by
  obtain ⟨b⟩ := s
  obtain ⟨c⟩ := t
  have hs := Bool.eq_iff_iff.2 (h .status)
  have hm := Bool.eq_iff_iff.2 (h .message)
  have hd := Bool.eq_iff_iff.2 (h .disable)
  clear h
  congr 1
  revert b c
  decide

theorem insert_comm (s : PendingSet) (j k : EventKind) :
    (s.insert j).insert k = (s.insert k).insert j := by
  ext i
  simp [or_right_comm]

theorem insert_idem (s : PendingSet) (k : EventKind) : (s.insert k).insert k = s.insert k := by
  ext i
  simp

theorem isEmpty_iff {s : PendingSet} : s.isEmpty = true ↔ s = ∅ := by
  obtain ⟨b⟩ := s
  revert b
  decide

@[simp] theorem isEmpty_empty : (∅ : PendingSet).isEmpty = true := rfl

@[simp] theorem isEmpty_insert (s : PendingSet) (k : EventKind) :
    (s.insert k).isEmpty = false := by
  obtain ⟨b⟩ := s
  revert b
  cases k <;> decide

/-! ### The list of members -/

@[simp] theorem mem_toList {k : EventKind} {s : PendingSet} : k ∈ s.toList ↔ k ∈ s := by
  simp [toList, mem_iff, EventKind.mem_dispatchOrder]

theorem nodup_toList (s : PendingSet) : s.toList.Nodup :=
  EventKind.nodup_dispatchOrder.filter _

theorem length_toList (s : PendingSet) : s.toList.length = s.size := by
  obtain ⟨b⟩ := s
  revert b
  decide

end PendingSet

end SerialBridge
