import Mathlib.Data.List.Dedup
import Mathlib.Data.List.Induction
import SerialBridge.Event.PendingSet

/-!
# Gathering kinds

Kinds are recorded in any order and any number of times, and now and then all that was gathered is
taken. What does this is a `Gatherer`, and three of them are compared here.

* A list keeps each kind as often as it was recorded since the last take.
* A `PendingSet` keeps a bit for each kind.
* A `PendingByte` has eight bits, five of which are the bit of no kind. Nothing in its type says
  that they are clear, and with one of them set it would have the members of another byte and not be
  equal to it.

`PendingSet.tells_kinds_since_take` says that the set and the byte answer as the list does, and that
whatever can be read from them is told by the list: which kinds are in it, and nothing about their
order or number. Both comparisons are made by a map that respects recording and taking
(`Gatherer.Respects`).
-/

namespace SerialBridge

/-- Things that gather kinds. -/
class Gatherer (α : Type) where
  /-- Adds a kind, and says whether it was there before. -/
  record : α → EventKind → Bool × α
  /-- Hands out all that was gathered, which comes first, and leaves nothing. -/
  take : α → α × α

namespace Gatherer

/-- What is done with a gatherer. -/
inductive Step where
  /-- A kind is recorded. -/
  | record (k : EventKind)
  /-- All that was gathered is taken. -/
  | take

/-- The answer to a step. -/
inductive Reply (α : Type) where
  /-- Whether the kind was there before. -/
  | wasPresent (present : Bool)
  /-- What was gathered. -/
  | contents (x : α)
deriving DecidableEq

/-- The reply with its contents translated. -/
def Reply.map {α β : Type} (f : α → β) : Reply α → Reply β
  | .wasPresent present => .wasPresent present
  | .contents x => .contents (f x)

section

variable {α β γ : Type} [Gatherer α] [Gatherer β] [Gatherer γ]

/-- Carries out a step. -/
def step (x : α) : Step → Reply α × α
  | .record k => (record x k).map .wasPresent id
  | .take => (take x).map .contents id

/-- Carries out one step after the other. -/
def run : List Step → α → List (Reply α) × α
  | [], x => ([], x)
  | s :: ss, x => ((step x s).1 :: (run ss (step x s).2).1, (run ss (step x s).2).2)

/-- A map of gatherers that respects recording and taking. -/
structure Respects (f : α → β) : Prop where
  /-- A kind was there before on both sides or on none. -/
  record : ∀ x k, Gatherer.record (f x) k = (Gatherer.record x k).map id f
  /-- The same is handed out, and the same is left. -/
  take : ∀ x, Gatherer.take (f x) = (Gatherer.take x).map f f

namespace Respects

variable {f : α → β}

theorem comp {g : β → γ} (hg : Respects g) (hf : Respects f) : Respects (g ∘ f) where
  record x k := by
    rw [Function.comp_apply, hg.record, hf.record]
    rfl
  take x := by
    rw [Function.comp_apply, hg.take, hf.take]
    rfl

variable (h : Respects f)
include h

/-- **One step** does the same on both sides. -/
theorem step (x : α) (s : Step) :
    Gatherer.step (f x) s = (Gatherer.step x s).map (.map f) f := by
  cases s with
  | record k =>
    rw [Gatherer.step, h.record]
    rfl
  | take =>
    rw [Gatherer.step, h.take]
    rfl

/-- **A whole run** does. -/
theorem run (ss : List Step) (x : α) :
    Gatherer.run ss (f x) = (Gatherer.run ss x).map (.map (.map f)) f := by
  induction ss generalizing x with
  | nil => rfl
  | cons s ss ih =>
    rw [Gatherer.run, h.step, Prod.map_fst, Prod.map_snd, ih]
    rfl

end Respects

end

end Gatherer

/-- A list gathers each kind as often as it is recorded. -/
instance : Gatherer (List EventKind) where
  record ks k := (decide (k ∈ ks), ks ++ [k])
  take ks := (ks, [])

/-! ### Sets -/

namespace PendingSet

instance : Gatherer PendingSet where
  record := record
  take := take

theorem ofList_concat (ks : List EventKind) (k : EventKind) :
    ofList (ks ++ [k]) = (ofList ks).insert k := List.foldl_append

@[simp] theorem mem_ofList {ks : List EventKind} {k : EventKind} : k ∈ ofList ks ↔ k ∈ ks := by
  -- From the end of the list, where kinds are recorded.
  induction ks using List.reverseRecOn with
  | nil => simp [ofList]
  | append_singleton ks j ih =>
    rw [ofList_concat, mem_insert, ih, List.mem_append, List.mem_singleton, eq_comm]

/-- A set answers a recording as the list does. -/
theorem contains_ofList (ks : List EventKind) (k : EventKind) :
    (ofList ks).contains k = decide (k ∈ ks) := by
  rw [Bool.eq_iff_iff, decide_eq_true_iff]
  exact mem_ofList

/-- Sets are equal if their lists have the same kinds, in whatever order and number. -/
theorem ofList_eq_ofList_iff {ks ls : List EventKind} :
    ofList ks = ofList ls ↔ ∀ k, k ∈ ks ↔ k ∈ ls := by
  rw [PendingSet.ext_iff]
  simp

/-- The members come in the order of dispatch, whatever the order in the list. -/
theorem toList_ofList (ks : List EventKind) :
    (ofList ks).toList = [.status, .message, .disable].filter (· ∈ ks) :=
  List.filter_congr fun k _ => contains_ofList ks k

/-- They are as many as the list has different kinds. -/
theorem toList_ofList_perm (ks : List EventKind) : (ofList ks).toList.Perm ks.dedup :=
  (List.perm_ext_iff_of_nodup (nodup_toList _) ks.nodup_dedup).mpr fun k => by simp

theorem isEmpty_ofList (ks : List EventKind) : (ofList ks).isEmpty = ks.isEmpty := by
  obtain rfl | ⟨ks, k, rfl⟩ := ks.eq_nil_or_concat
  · rfl
  · simp [ofList_concat]

/-- To record a kind in the list is to record it in the set. -/
theorem respects_ofList : Gatherer.Respects ofList where
  record ks k := Prod.ext (contains_ofList ks k) (ofList_concat ks k).symm
  take _ := rfl

/-- What is read from the set is told by the kinds in the list. -/
structure ReadsAs (s : PendingSet) (ks : List EventKind) : Prop where
  /-- The members are the kinds in the list, -/
  contains : ∀ k, s.contains k = decide (k ∈ ks)
  /-- and there are none if it is empty. -/
  isEmpty : s.isEmpty = ks.isEmpty
  /-- They come in the order of dispatch, each of them once. -/
  toList : s.toList = [.status, .message, .disable].filter (· ∈ ks)
  /-- Repetitions do not count. -/
  size : s.size = ks.dedup.length
  /-- In words, the same kinds are told in the same order. -/
  text : s.text = "\x7b" ++
    ", ".intercalate (([.status, .message, .disable].filter (· ∈ ks)).map EventKind.name) ++ "\x7d"

theorem readsAs_ofList (ks : List EventKind) : (ofList ks).ReadsAs ks where
  contains := contains_ofList ks
  isEmpty := isEmpty_ofList ks
  toList := toList_ofList ks
  size := by rw [← length_toList, (toList_ofList_perm ks).length_eq]
  text := by rw [text, toList_ofList]

end PendingSet

/-! ### Bytes -/

/-- A byte in which kinds are kept. -/
structure PendingByte where
  /-- All eight bits. -/
  bits : BitVec 8 := 0
deriving DecidableEq

namespace PendingByte

/-- The bit of a kind, in a byte. -/
def bitOf (k : EventKind) : BitVec 8 := k.bit.setWidth 8

/-- Whether the kind's bit is set. -/
def contains (b : PendingByte) (k : EventKind) : Bool := b.bits &&& bitOf k != 0

/-- The byte with one more kind. -/
def insert (b : PendingByte) (k : EventKind) : PendingByte := ⟨b.bits ||| bitOf k⟩

/-- The byte of the kinds in the list. -/
def ofList (ks : List EventKind) : PendingByte := ks.foldl insert {}

instance : Gatherer PendingByte where
  record b k := (b.contains k, b.insert k)
  take b := (b, {})

end PendingByte

namespace PendingSet

variable (s : PendingSet)

/-- The bits of the set in a byte. -/
def byte : PendingByte := ⟨s.bits.setWidth 8⟩

/-- What is read from the byte is what is read from the set. -/
structure IsKeptIn (b : PendingByte) : Prop where
  /-- No bit is set that is the bit of no kind. -/
  noStrayBit : b.bits &&& 0b11111000 = 0
  /-- The kinds are the same, -/
  contains : ∀ k, b.contains k = s.contains k
  /-- no bit is set if there are none, -/
  isEmpty : (b.bits == 0) = s.isEmpty
  /-- and the bits that are set are as many. -/
  size : b.bits.cpop.toNat = s.size

/-- The byte of a set has five bits that are never set. -/
theorem isKeptIn_byte : s.IsKeptIn s.byte := by
  -- Three bits make eight sets, so every part is decided by looking at all of them.
  obtain ⟨b⟩ := s
  constructor
  case noStrayBit =>
    revert b
    decide
  case contains =>
    intro k
    revert b
    cases k <;> decide
  case isEmpty =>
    revert b
    decide
  case size =>
    revert b
    decide

theorem byte_insert (k : EventKind) : (s.insert k).byte = s.byte.insert k :=
  congrArg PendingByte.mk BitVec.setWidth_or

/-- Since no other bits are set, the bytes are equal only if the sets are. -/
theorem byte_inj {s t : PendingSet} : s.byte = t.byte ↔ s = t := by
  refine ⟨fun h => ?_, congrArg byte⟩
  ext k
  rw [mem_iff, mem_iff, ← s.isKeptIn_byte.contains, h, t.isKeptIn_byte.contains]

theorem respects_byte : Gatherer.Respects byte where
  record s k := Prod.ext (s.isKeptIn_byte.contains k) (s.byte_insert k).symm
  take _ := rfl

/-- The bits of the set may be put into a byte in the end, or each as soon as it is set. -/
theorem byte_ofList (ks : List EventKind) : (ofList ks).byte = .ofList ks :=
  (List.foldl_hom byte fun s k => (s.byte_insert k).symm).symm

theorem byte_ofList_eq_iff {ks ls : List EventKind} :
    PendingByte.ofList ks = .ofList ls ↔ ∀ k, k ∈ ks ↔ k ∈ ls := by
  rw [← byte_ofList, ← byte_ofList, byte_inj, ofList_eq_ofList_iff]

/-- To record a kind in the list is to set its bit in the byte. -/
theorem respects_byte_ofList : Gatherer.Respects PendingByte.ofList := by
  have hcomp : byte ∘ ofList = PendingByte.ofList := funext byte_ofList
  exact hcomp ▸ respects_byte.comp respects_ofList

/-- **A set tells the kinds since the last take.** Kinds are recorded and taken, in any order and
any number of times, beginning with those of a list that may be empty. A set answers each step as a
list does which keeps all kinds since the last take. What it hands out and what it holds in the end
are the sets of what the list hands out and holds. The same goes for a byte.

Of such sets, whatever their lists are, all that can be read is told by the kinds in the list, which
come in the order of dispatch. Two of them are equal if and only if their lists have the same kinds.
In a byte no bit is ever set but those of the three kinds, so that bytes are read and compared as
sets are. -/
theorem tells_kinds_since_take (start : List EventKind) (steps : List Gatherer.Step) :
    ∃ replies kinds, Gatherer.run steps start = (replies, kinds) ∧
      Gatherer.run steps (ofList start) = (replies.map (.map ofList), ofList kinds) ∧
      Gatherer.run steps (PendingByte.ofList start)
        = (replies.map (.map .ofList), .ofList kinds) ∧
      ∀ ks, (ofList ks).ReadsAs ks ∧ (ofList ks).IsKeptIn (.ofList ks) ∧
        ∀ ls, (ofList ks = ofList ls ↔ ∀ k, k ∈ ks ↔ k ∈ ls) ∧
          (PendingByte.ofList ks = .ofList ls ↔ ∀ k, k ∈ ks ↔ k ∈ ls) := by
  -- Both run beside the list, each by the map that respects its steps.
  have hset := respects_ofList.run steps start
  have hbyte := respects_byte_ofList.run steps start
  refine ⟨_, _, rfl, hset, hbyte, fun ks => ⟨readsAs_ofList ks, ?_, fun ls => ?_⟩⟩
  · rw [← byte_ofList]
    exact isKeptIn_byte _
  · exact ⟨ofList_eq_ofList_iff, byte_ofList_eq_iff⟩

example :
    Gatherer.run [.record .disable, .record .status, .record .disable, .take, .record .disable]
        (∅ : PendingSet)
      = ([.wasPresent false, .wasPresent false, .wasPresent true,
          .contents (ofList [.status, .disable]), .wasPresent false], ofList [.disable]) := by
  decide

end PendingSet

end SerialBridge
