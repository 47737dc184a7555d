import SerialBridge.Dispatch.Handler

/-!
# Coalescing

A mailbox remembers of the signals posted to it only what the next drain will hand out: which
kinds there were, the latest status, and the front of the latest message. `Mailbox.Holds` says
that a mailbox is in this way determined by a list of signals, and `Drained.Coalesces` says the
same of what a drain handed out. Two steps carry everything that is proved about mailboxes:

* **Posting** a signal to a mailbox that holds a list makes it hold the list with the signal at
  its end (`Mailbox.Holds.record`).
* **Draining** a mailbox that holds a list hands out what coalesces the list, and leaves a mailbox
  that holds nothing (`Mailbox.Holds.coalesces_take`, `Mailbox.holds_take`).

Stale bytes and values of kinds that are not pending play no part in either.
-/

namespace SerialBridge

/-! ### The latest of each kind -/

/-- The code that a signal reports, if it reports one. -/
def Signal.status? : Signal → Option Int32
  | .status code => some code
  | _ => none

/-- The payload that a signal reports, if it reports one. -/
def Signal.payload? : Signal → Option (List UInt8)
  | .message payload => some payload
  | _ => none

/-- The latest value that the signals carry, in the order in which they were posted, where `value?`
picks the value of one kind. -/
def latest {α : Type} (value? : Signal → Option α) (signals : List Signal) : Option α :=
  (signals.filterMap value?).getLast?

/-- The code of the latest status among signals. -/
def latestStatus (signals : List Signal) : Option Int32 := latest Signal.status? signals

/-- The payload of the latest message among signals. -/
def latestPayload (signals : List Signal) : Option (List UInt8) := latest Signal.payload? signals

theorem latest_append {α : Type} (value? : Signal → Option α) (xs ys : List Signal) :
    latest value? (xs ++ ys) = (latest value? ys).or (latest value? xs) := by
  simp [latest, List.getLast?_append]

/-- There is a latest value exactly if there is a signal of the kind. -/
theorem isSome_latest_iff {α : Type} {value? : Signal → Option α} {k : EventKind}
    (hk : ∀ s, (value? s).isSome = true ↔ s.kind = k) {signals : List Signal} :
    (latest value? signals).isSome = true ↔ ∃ s ∈ signals, s.kind = k := by
  rw [latest, List.getLast?_isSome, List.ne_nil_iff_length_pos, List.length_pos_iff_exists_mem]
  constructor
  · rintro ⟨value, h⟩
    obtain ⟨s, hs, hvalue⟩ := List.mem_filterMap.mp h
    exact ⟨s, hs, (hk s).mp (by rw [hvalue]; rfl)⟩
  · rintro ⟨s, hs, hkind⟩
    obtain ⟨value, hvalue⟩ := Option.isSome_iff_exists.mp ((hk s).mpr hkind)
    exact ⟨value, List.mem_filterMap.mpr ⟨s, hs, hvalue⟩⟩

/-- The latest value is the one that no later signal of the kind follows. -/
theorem latest_eq_some_iff {α : Type} {value? : Signal → Option α} {k : EventKind}
    (hk : ∀ s, (value? s).isSome = true ↔ s.kind = k) {signals : List Signal} {v : α} :
    latest value? signals = some v ↔ ∃ before s after, signals = before ++ s :: after ∧
      value? s = some v ∧ ∀ t ∈ after, t.kind ≠ k := by
  constructor
  · intro h
    obtain ⟨values, hvalues⟩ := List.getLast?_eq_some_iff.mp h
    -- The signals split where the last value comes from. What is after that picks nothing.
    obtain ⟨before, rest, rfl, -, hrest⟩ := List.filterMap_eq_append_iff.mp hvalues
    obtain ⟨skipped, s, after, rfl, hskipped, hs, hafter⟩ := List.filterMap_eq_cons_iff.mp hrest
    refine ⟨before ++ skipped, s, after, by rw [List.append_assoc], hs, fun t ht hkind => ?_⟩
    have hnone : value? t = none := List.filterMap_eq_nil_iff.mp hafter t ht
    simpa [hnone] using (hk t).mpr hkind
  · rintro ⟨before, s, after, rfl, hs, hafter⟩
    have hnone : latest value? after = none := by
      rw [← Option.not_isSome_iff_eq_none, isSome_latest_iff hk]
      rintro ⟨t, ht, hkind⟩
      exact hafter t ht hkind
    have hsplit := latest_append value? (before ++ [s]) after
    rw [List.append_assoc] at hsplit
    rw [show before ++ s :: after = before ++ ([s] ++ after) from rfl, hsplit, hnone, latest_append]
    simp [latest, hs]

theorem Signal.isSome_status?_iff (s : Signal) : s.status?.isSome = true ↔ s.kind = .status := by
  cases s <;> simp [status?, kind]

theorem Signal.isSome_payload?_iff (s : Signal) :
    s.payload?.isSome = true ↔ s.kind = .message := by
  cases s <;> simp [payload?, kind]

theorem isSome_latestStatus_iff {signals : List Signal} :
    (latestStatus signals).isSome = true ↔ ∃ s ∈ signals, s.kind = .status :=
  isSome_latest_iff Signal.isSome_status?_iff

theorem isSome_latestPayload_iff {signals : List Signal} :
    (latestPayload signals).isSome = true ↔ ∃ s ∈ signals, s.kind = .message :=
  isSome_latest_iff Signal.isSome_payload?_iff

/-- Among signals of which one is of the kind, one is the last of the kind. -/
theorem exists_last_of_kind {k : EventKind} {signals : List Signal}
    (h : ∃ s ∈ signals, s.kind = k) :
    ∃ before s after, signals = before ++ s :: after ∧ s.kind = k ∧ ∀ t ∈ after, t.kind ≠ k := by
  let pick (s : Signal) : Option Signal := if s.kind = k then some s else none
  have hk : ∀ s, (pick s).isSome = true ↔ s.kind = k := fun s => by simp [pick]
  obtain ⟨v, hv⟩ := Option.isSome_iff_exists.mp ((isSome_latest_iff hk).mpr h)
  obtain ⟨before, s, after, hsplit, hs, hafter⟩ := (latest_eq_some_iff hk).mp hv
  exact ⟨before, s, after, hsplit, (hk s).mp (by rw [hs]; rfl), hafter⟩

/-! ### What a mailbox holds and what a drain hands out -/

/-- The longest message for which a view has room. -/
def View.room (v : View) : Nat := v.message.capacity

/-- What a mailbox has pending is the given signals, **coalesced**: their kinds, the latest
status, and as much of the latest payload as the mailbox keeps. -/
structure Mailbox.Holds (m : Mailbox) (signals : List Signal) : Prop where
  /-- A kind is pending exactly if there is a signal of it. -/
  kinds : ∀ k, k ∈ m.pending ↔ ∃ s ∈ signals, s.kind = k
  /-- The slot for the status has the latest one. -/
  status : ∀ code, latestStatus signals = some code → m.status = code
  /-- The slot for the message has the front of the latest one. -/
  message : ∀ p, latestPayload signals = some p → m.message.bytes = p.take m.capacity

/-- What a drain handed out is the given signals, coalesced: their kinds, the latest status if
there is one, and the first bytes of the latest payload, at most `room` of them, if there is one. -/
structure Drained.Coalesces (d : Drained) (room : Nat) (signals : List Signal) : Prop where
  /-- A kind is handed out exactly if there is a signal of it. -/
  kinds : ∀ k, k ∈ d.kinds ↔ ∃ s ∈ signals, s.kind = k
  /-- The view shows the latest status, or none. -/
  status : d.view.status = latestStatus signals
  /-- The view shows the front of the latest payload, or none. -/
  message : d.view.message?.map Snapshot.bytes = (latestPayload signals).map (List.take room)

namespace Mailbox

variable {m : Mailbox} {signals : List Signal}

/-- A mailbox holds nothing exactly if nothing is pending. -/
theorem holds_nil_iff : m.Holds [] ↔ m.pending = ∅ := by
  constructor
  · intro h
    ext k
    simp [h.kinds k]
  · intro h
    exact ⟨fun k => by simp [h], nofun, nofun⟩

/-- The signals that stand for what is pending, in dispatch order. -/
def outstanding (m : Mailbox) : List Signal :=
  m.pending.toList.map fun
    | .status => .status m.status
    | .message => .message m.message.bytes
    | .disable => .disable

/-- A mailbox holds what is outstanding. -/
theorem holds_outstanding (m : Mailbox) : m.Holds m.outstanding := by
  refine ⟨fun k => ⟨fun hk => ⟨_, List.mem_map_of_mem (PendingSet.mem_toList.mpr hk), ?_⟩, ?_⟩,
    fun code hcode => ?_, fun p hp => ?_⟩
  · cases k <;> rfl
  · rintro ⟨s, hs, rfl⟩
    obtain ⟨j, hj, rfl⟩ := List.mem_map.mp hs
    rw [PendingSet.mem_toList] at hj
    cases j <;> exact hj
  · obtain ⟨s, hs, hcode⟩ := List.mem_filterMap.mp (List.mem_of_getLast? hcode)
    obtain ⟨j, -, rfl⟩ := List.mem_map.mp hs
    cases j with
    | status => exact Option.some.inj hcode
    | message => cases hcode
    | disable => cases hcode
  · obtain ⟨s, hs, hp⟩ := List.mem_filterMap.mp (List.mem_of_getLast? hp)
    obtain ⟨j, -, rfl⟩ := List.mem_map.mp hs
    cases j with
    | status => cases hp
    | message =>
      obtain rfl := Option.some.inj hp
      have hlen : m.message.bytes.length ≤ m.capacity :=
        (Snapshot.length_bytes m.message).symm ▸ m.message.length_le
      exact (List.take_of_length_le hlen).symm
    | disable => cases hp

/-- Something is pending exactly if the mailbox holds a signal. -/
theorem Holds.hasPending_iff (h : m.Holds signals) : m.hasPending = true ↔ signals ≠ [] := by
  have hempty : m.pending.isEmpty = true ↔ signals = [] := by
    rw [PendingSet.isEmpty_iff]
    refine ⟨fun hp => List.eq_nil_iff_forall_not_mem.mpr fun s hs => ?_, ?_⟩
    · have hmem : s.kind ∈ m.pending := (h.kinds _).mpr ⟨s, hs, rfl⟩
      rw [hp] at hmem
      exact PendingSet.not_mem_empty _ hmem
    · rintro rfl
      exact holds_nil_iff.mp h
  rw [hasPending, Bool.not_eq_true', ← Bool.not_eq_true, hempty]

/-- **Posting.** A signal comes to stand at the end of what the mailbox holds. -/
theorem Holds.record (h : m.Holds signals) (s : Signal) : (m.record s).Holds (signals ++ [s]) := by
  have hkinds : ∀ k, k ∈ (m.record s).pending ↔ ∃ t ∈ signals ++ [s], t.kind = k := fun k => by
    rw [pending_record, PendingSet.mem_insert, h.kinds k]
    simp [or_and_right, exists_or]
  refine ⟨hkinds, fun code hcode => ?_, fun p hp => ?_⟩
  · rw [latestStatus, latest_append] at hcode
    cases s with
    | status c => exact Option.some.inj hcode
    | message q => exact h.status code hcode
    | disable => exact h.status code hcode
  · rw [latestPayload, latest_append] at hp
    rw [capacity_record]
    cases s with
    | status c => exact h.message p hp
    | message q =>
      obtain rfl : q = p := Option.some.inj hp
      exact Snapshot.bytes_overwrite m.message q
    | disable => exact h.message p hp

/-- A mailbox to which something was just posted has something pending. -/
theorem hasPending_record (m : Mailbox) (s : Signal) : (m.record s).hasPending = true := by
  rw [hasPending, pending_record, PendingSet.isEmpty_insert]
  rfl

/-- A drain that finds something ends at once. -/
theorem drainInto_of_hasPending (hw : m.waiting = none) (hp : m.hasPending = true) (v : View) :
    m.drainInto v = .took (m.take v).1 (m.take v).2 := by
  simp [drainInto, isDraining, hw, hp]

/-- A drain that finds nothing waits. -/
theorem drainInto_of_not_hasPending (hw : m.waiting = none) (hp : m.hasPending = false)
    (v : View) : m.drainInto v = .waits { m with waiting := some v } := by
  simp [drainInto, isDraining, hw, hp]

/-- A drain beside one that waits is refused. -/
theorem drainInto_of_waiting (hw : m.waiting ≠ none) (v : View) : m.drainInto v = .refused := by
  have hd : m.isDraining = true := Option.isSome_iff_ne_none.mpr hw
  simp [drainInto, hd]

/-- A producer's step on a mailbox with a waiting drain: the drain is taken off, and takes the
signal as soon as it is recorded. -/
theorem post_of_waiting {v : View} (hw : m.waiting = some v) (s : Signal) :
    m.post s = ((({ m with waiting := none }.record s).take v).2,
      some (({ m with waiting := none }.record s).take v).1) := by
  have hrecord : { m.record s with waiting := none } = { m with waiting := none }.record s := by
    cases s <;> rfl
  simp [post, hw, hrecord]

/-- **Draining.** What a drain hands out coalesces what the mailbox held. A message is cut to the
room that both the mailbox and the view have. -/
theorem Holds.coalesces_take (h : m.Holds signals) (v : View) :
    (m.take v).1.Coalesces (min m.capacity v.room) signals := by
  have hfill : (m.take v).1.view = m.fill v := rfl
  refine ⟨h.kinds, ?_, ?_⟩
  · rw [hfill]
    by_cases hs : EventKind.status ∈ m.pending
    · obtain ⟨code, hcode⟩ := Option.isSome_iff_exists.mp
        (isSome_latestStatus_iff.mpr ((h.kinds .status).mp hs))
      have hc : m.pending.contains .status = true := hs
      simp [fill, hc, hcode, h.status code hcode]
    · -- The slot may hold a status of long ago, but nothing of it is shown.
      have hnone : latestStatus signals = none := by
        rw [← Option.not_isSome_iff_eq_none, isSome_latestStatus_iff, ← h.kinds]
        exact hs
      have hc : m.pending.contains .status = false := Bool.not_eq_true _ |>.mp hs
      simp [fill, hc, hnone]
  · rw [hfill]
    by_cases hs : EventKind.message ∈ m.pending
    · obtain ⟨p, hp⟩ := Option.isSome_iff_exists.mp
        (isSome_latestPayload_iff.mpr ((h.kinds .message).mp hs))
      have hc : m.pending.contains .message = true := hs
      have hbytes : (v.message.clear.copyFrom m.message).bytes
          = p.take (min m.capacity v.room) := by
        rw [Snapshot.bytes_copyFrom, h.message p hp, List.take_take, Snapshot.capacity_clear,
          Nat.min_comm]
        rfl
      simp [View.message?, fill, View.reset, hc, hp, hbytes]
    · have hnone : latestPayload signals = none := by
        rw [← Option.not_isSome_iff_eq_none, isSome_latestPayload_iff, ← h.kinds]
        exact hs
      have hc : m.pending.contains .message = false := Bool.not_eq_true _ |>.mp hs
      simp [View.message?, fill, hc, hnone]

/-- A drain leaves nothing behind. -/
theorem holds_take (m : Mailbox) (v : View) : (m.take v).2.Holds [] :=
  holds_nil_iff.mpr (pending_take m v)

@[simp] theorem capacity_take (m : Mailbox) (v : View) : (m.take v).2.capacity = m.capacity := rfl

/-- A fresh view has room for every message of its mailbox. -/
theorem room_freshView (m : Mailbox) : m.freshView.room = m.capacity :=
  Snapshot.capacity_blank m.capacity m.capacity_pos

/-- A drain leaves the view's room as it was. -/
theorem room_take (m : Mailbox) (v : View) : (m.take v).1.view.room = v.room := by
  change (m.fill v).room = v.room
  simp only [fill, View.room, View.reset]
  split <;> simp

end Mailbox

end SerialBridge
