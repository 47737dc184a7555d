import Mathlib.Data.List.Induction
import SerialBridge.Proofs.Message.BoundedBytes

/-!
# Equality of snapshots

Two snapshots are equal if their lengths are and their whole storages, stale bytes included. So
snapshots with the same payload, of which no reader could tell one from the other, need not be
equal, and a snapshot that was cleared need not be equal to a fresh one
(`Snapshot.same_payload_need_not_be_equal`).

What stale bytes there are can be told from the `Trail` of a snapshot, which is all that was ever
written to it: at any place stands the byte of the **last write that was long enough to reach it**,
and zero if there was none. `Snapshot.equal_iff_same_residue` says by this when snapshots are equal,
whatever the commands that have made them.
-/

namespace SerialBridge

namespace Snapshot

/-- The bytes of the storage that are not valid. -/
def stale (s : Snapshot) : List UInt8 := s.storage.drop s.length

/-- Snapshots are equal if their payloads are and their stale bytes. -/
theorem eq_iff_bytes_eq_and_stale_eq {s t : Snapshot} :
    s = t ↔ s.bytes = t.bytes ∧ s.stale = t.stale := by
  constructor
  · rintro rfl
    exact ⟨rfl, rfl⟩
  · rintro ⟨hbytes, hstale⟩
    have hlength : s.length = t.length := by rw [← length_bytes, hbytes, length_bytes]
    have hstorage : s.storage = t.storage := by
      calc s.storage = s.bytes ++ s.stale := (List.take_append_drop _ _).symm
        _ = t.bytes ++ t.stale := by rw [hbytes, hstale]
        _ = t.storage := List.take_append_drop _ _
    cases s
    cases t
    cases hlength
    cases hstorage
    rfl

/-- To clear a snapshot is to write nothing. -/
theorem clear_eq_overwrite (s : Snapshot) : s.clear = s.overwrite [] := by
  simp [clear, overwrite]

end Snapshot

/-! ### Trails -/

/-- A capacity and all that was written, in order. To forget counts as writing nothing. -/
structure Trail where
  /-- The capacity. -/
  capacity : Nat
  /-- There is room. -/
  capacity_pos : 0 < capacity
  /-- The payloads that were to be written. -/
  writes : List (List UInt8) := []

namespace Trail

/-- What is left of the last write. -/
def payload (t : Trail) : List UInt8 := (t.writes.getLast?.getD []).take t.capacity

/-- One more write. -/
def write (p : List UInt8) (t : Trail) : Trail := { t with writes := t.writes ++ [p] }

/-- The byte at a place: that of the last write which was long enough to reach it. -/
def byteAt (t : Trail) (i : Nat) : UInt8 := (t.writes.filterMap (·[i]?)).getLast?.getD 0

instance : Holder Trail where
  create n := if h : 0 < n then .ok ⟨n, h, []⟩ else .error .zeroCapacity
  overwrite p t := some (t.write p, p.length - t.capacity)
  copyFrom u t := some (t.write u.payload)
  clear t := t.write []

/-- The snapshot to which all that was written. -/
def snapshot (t : Trail) : Snapshot :=
  t.writes.foldl Snapshot.overwrite (.blank t.capacity t.capacity_pos)

/-- A trail comes about write by write. -/
@[elab_as_elim]
theorem writing_induction {motive : Trail → Prop} (blank : ∀ n hn, motive ⟨n, hn, []⟩)
    (write : ∀ t p, motive t → motive (t.write p)) (t : Trail) : motive t := by
  obtain ⟨n, hn, writes⟩ := t
  induction writes using List.reverseRecOn with
  | nil => exact blank n hn
  | append_singleton writes p ih => exact write ⟨n, hn, writes⟩ p ih

variable (t u : Trail) (p : List UInt8)

theorem snapshot_write : (t.write p).snapshot = t.snapshot.overwrite p := List.foldl_append

theorem payload_write : (t.write p).payload = p.take t.capacity := by simp [payload, write]

theorem byteAt_write (i : Nat) : (t.write p).byteAt i = p[i]?.getD (t.byteAt i) := by
  rw [byteAt, write, List.filterMap_append, List.getLast?_append]
  cases hp : p[i]? <;> simp [hp, byteAt]

@[simp] theorem capacity_snapshot : t.snapshot.capacity = t.capacity := by
  induction t using writing_induction with
  | blank n hn => exact Snapshot.capacity_blank n hn
  | write t p ih =>
    rw [snapshot_write, Snapshot.capacity_overwrite]
    exact ih

theorem bytes_snapshot : t.snapshot.bytes = t.payload := by
  induction t using writing_induction with
  | blank n hn => exact (Snapshot.bytes_blank n hn).trans (List.take_nil).symm
  | write t p ih => rw [snapshot_write, Snapshot.bytes_overwrite, capacity_snapshot, payload_write]

/-- **Every byte** of the storage is that of the last write which was long enough to reach it. -/
theorem storage_snapshot : t.snapshot.storage = (List.range t.capacity).map t.byteAt := by
  induction t using writing_induction with
  | blank n hn =>
    exact List.ext_getElem (by simp [snapshot, Snapshot.blank]) fun i _ _ => by
      simp [snapshot, Snapshot.blank, byteAt]
  | write t p ih =>
    have hlength : t.snapshot.storage.length = t.capacity := t.capacity_snapshot
    rw [snapshot_write]
    refine List.ext_getElem ?_ fun i hi hi' => ?_
    · rw [List.length_map, List.length_range]
      exact (Snapshot.capacity_overwrite _ p).trans hlength
    · have hin : i < t.capacity := by
        rw [List.length_map, List.length_range] at hi'
        exact hi'
      simp only [Snapshot.overwrite, hlength, List.getElem_map, List.getElem_range, byteAt_write]
      -- The write reaches a place or it was too short, and then it was not cut either.
      by_cases hp : i < p.length
      · rw [List.getElem_append_left (by rw [List.length_take]; omega), List.getElem_take,
          List.getElem?_eq_getElem hp, Option.getD_some]
      · have hcut : p.take t.capacity = p := List.take_of_length_le (by omega)
        have hplace : p.length + (i - p.length) = i := by omega
        simp [hcut, ih, hp, hplace, List.getElem_append_right (Nat.le_of_not_lt hp)]

theorem respects_snapshot : Respects snapshot where
  create n := by
    change Snapshot.ofCapacity n
      = (if h : 0 < n then Except.ok ⟨n, h, []⟩ else .error .zeroCapacity : Except Fault Trail).map
          snapshot
    rw [Snapshot.ofCapacity]
    split <;> rfl
  overwrite p t := by
    change some (t.snapshot.overwrite p, t.snapshot.dropped p)
      = some ((t.write p).snapshot, p.length - t.capacity)
    rw [snapshot_write, Snapshot.dropped, capacity_snapshot]
  copyFrom u t := by
    change some (t.snapshot.overwrite u.snapshot.bytes) = some (t.write u.payload).snapshot
    rw [snapshot_write, bytes_snapshot]
  clear t := by
    change t.snapshot.clear = (t.write []).snapshot
    rw [snapshot_write, Snapshot.clear_eq_overwrite]

/-! ### When snapshots are equal -/

/-- From a place on, what was written to the one has left the same bytes as what was written to the
other. -/
def SameResidue (t u : Trail) (start : Nat) : Prop :=
  ∀ i, start ≤ i → i < t.capacity → t.byteAt i = u.byteAt i

theorem mem_drop_range {i n start : Nat} : i ∈ (List.range n).drop start ↔ start ≤ i ∧ i < n := by
  rw [List.range_eq_range', List.drop_range', List.mem_range'_1]
  omega

variable {t u}

theorem stale_eq_iff (hcapacity : t.capacity = u.capacity)
    (hlength : t.snapshot.length = u.snapshot.length) :
    t.snapshot.stale = u.snapshot.stale ↔ t.SameResidue u t.snapshot.length := by
  rw [Snapshot.stale, Snapshot.stale, storage_snapshot, storage_snapshot, ← hlength, ← hcapacity,
    ← List.map_drop, ← List.map_drop, List.map_inj_left]
  simp only [mem_drop_range, and_imp]
  rfl

/-- **Equality** of snapshots is equality of payloads and of residues behind them. -/
theorem snapshot_eq_iff (hcapacity : t.capacity = u.capacity) :
    t.snapshot = u.snapshot ↔
      t.snapshot.bytes = u.snapshot.bytes ∧ t.SameResidue u t.snapshot.length := by
  rw [Snapshot.eq_iff_bytes_eq_and_stale_eq]
  refine and_congr_right fun hbytes => stale_eq_iff hcapacity ?_
  rw [← Snapshot.length_bytes, hbytes, Snapshot.length_bytes]

/-- A copy of the payload equals its source if behind it there is the same residue. -/
theorem copyFrom_eq_iff (hcapacity : t.capacity = u.capacity) :
    t.snapshot.copyFrom u.snapshot = u.snapshot ↔ t.SameResidue u u.snapshot.length := by
  have hcopy : t.snapshot.copyFrom u.snapshot = (t.write u.payload).snapshot := by
    rw [snapshot_write, ← bytes_snapshot]
    rfl
  have hbytes : (t.write u.payload).snapshot.bytes = u.snapshot.bytes := by
    rw [bytes_snapshot, bytes_snapshot, payload_write, payload, List.take_take, hcapacity,
      Nat.min_self]
  have hlength : (t.write u.payload).snapshot.length = u.snapshot.length := by
    rw [← Snapshot.length_bytes, hbytes, Snapshot.length_bytes]
  rw [hcopy, snapshot_eq_iff (t := t.write u.payload) hcapacity, and_iff_right hbytes, hlength]
  -- The copy has no bytes that far back.
  refine forall_congr' fun i => imp_congr_right fun hi => imp_congr_right fun _ => ?_
  have hbehind : u.payload[i]? = none := by
    rw [← bytes_snapshot, List.getElem?_eq_none_iff, Snapshot.length_bytes]
    exact hi
  rw [byteAt_write, hbehind, Option.getD_none]

variable (t) in
/-- A snapshot that is cleared equals a fresh one if nothing but zeros is left. -/
theorem clear_eq_blank_iff :
    t.snapshot.clear = .blank t.capacity t.capacity_pos ↔ ∀ i < t.capacity, t.byteAt i = 0 := by
  let fresh : Trail := ⟨t.capacity, t.capacity_pos, []⟩
  have hclear : t.snapshot.clear = (t.write []).snapshot := by
    rw [snapshot_write, Snapshot.clear_eq_overwrite]
  have hbytes : (t.write []).snapshot.bytes = fresh.snapshot.bytes := by
    rw [bytes_snapshot, bytes_snapshot, payload_write]
    rfl
  have hlength : (t.write []).snapshot.length = 0 := by
    rw [← Snapshot.length_bytes, bytes_snapshot, payload_write, List.take_nil, List.length_nil]
  change t.snapshot.clear = fresh.snapshot ↔ _
  rw [hclear, snapshot_eq_iff (t := t.write []) (u := fresh) rfl, and_iff_right hbytes, hlength]
  refine forall_congr' fun i => ?_
  have hleft : (t.write []).byteAt i = t.byteAt i := by simp [byteAt_write]
  have hzero : fresh.byteAt i = 0 := rfl
  rw [hleft, hzero, imp_iff_right (Nat.zero_le i)]
  rfl

end Trail

namespace Snapshot

/-- **Snapshots are equal if their payloads are and the same was left behind them.** Take any
commands. The snapshots that they make are those of the trails that they make, which tell what was
written to each. Two of the same capacity are equal if and only if their payloads are and, at every
place behind these, the last write that reached it has left the same byte. For a copy of the payload
to equal its source, and for a snapshot that is cleared to equal a fresh one, the same is needed. -/
theorem equal_iff_same_residue (commands : List Command) :
    ∃ trails receipts, runAll? commands ([] : List Trail) = some (trails, receipts) ∧
      runAll? commands ([] : List Snapshot) = some (trails.map Trail.snapshot, receipts) ∧
      (∀ t ∈ trails, ∀ u ∈ trails, t.capacity = u.capacity →
        (t.snapshot = u.snapshot ↔
          t.snapshot.bytes = u.snapshot.bytes ∧ t.SameResidue u t.snapshot.length) ∧
        (t.snapshot.copyFrom u.snapshot = u.snapshot ↔ t.SameResidue u u.snapshot.length)) ∧
      ∀ t ∈ trails, t.snapshot.clear = .blank t.capacity t.capacity_pos ↔
        ∀ i < t.capacity, t.byteAt i = 0 := by
  obtain ⟨snapshots, receipts, hsnapshots, -⟩ := exists_runAll? commands []
  have hrun := Trail.respects_snapshot.runAll? commands []
  cases htrails : runAll? commands ([] : List Trail) with
  | none =>
    rw [htrails] at hrun
    cases hsnapshots.symm.trans hrun
  | some answer =>
    obtain ⟨trails, receipts⟩ := answer
    rw [htrails] at hrun
    exact ⟨trails, receipts, rfl, hrun,
      fun t _ u _ hcapacity => ⟨Trail.snapshot_eq_iff hcapacity, Trail.copyFrom_eq_iff hcapacity⟩,
      fun t _ => t.clear_eq_blank_iff⟩

/-- Snapshots with the same payload need not be equal, and one that was cleared need not be equal to
a fresh one: a byte was written to the one and nothing to the other, and no reader sees it. -/
theorem same_payload_need_not_be_equal :
    ¬∀ (commands : List Command) (snapshots : List Snapshot) (receipts : List Receipt),
      runAll? commands [] = some (snapshots, receipts) →
        ∀ s ∈ snapshots, ∀ t ∈ snapshots, s.capacity = t.capacity →
          (s = t ↔ s.bytes = t.bytes) := by
  intro h
  let fresh : Snapshot := blank 2 (by decide)
  have hrun : runAll? [.create 2, .overwrite 0 [65], .clear 0, .create 2] []
      = some ([(fresh.overwrite [65]).clear, fresh], [.done, .dropped 0, .done, .done]) := rfl
  have hsame : (fresh.overwrite [65]).clear = fresh :=
    (h _ _ _ hrun (fresh.overwrite [65]).clear (by simp) fresh (by simp) rfl).mpr rfl
  exact absurd hsame (by decide)

end Snapshot

end SerialBridge
