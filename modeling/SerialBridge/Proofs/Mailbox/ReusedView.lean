import Mathlib.Data.List.Induction
import SerialBridge.Proofs.Mailbox.Invariant

/-!
# A reused view reads like a fresh one

A drain may be given a view that has served before. Its storage is full of stale bytes, and its
fields tell of an earlier drain. `Station.reused_view_reads_like_fresh` says that none of this can
be read after the drain: what the view then shows is what a fresh view would show, cut to the room
that the view has.

Two things are compared for this. The values are those of the history, since a mailbox in any use
holds the signals posted since its latest drain (`Mailbox.Current`). And whatever can be read of
a view, its `View.reading`, depends on the room of the view that the drain was given and on nothing
else of it (`Mailbox.reading_take_congr`).
-/

namespace SerialBridge

/-! ### What can be read -/

/-- Everything that can be read of a snapshot. -/
structure Snapshot.Reading where
  /-- The longest payload that is kept. -/
  capacity : Nat
  /-- The length of the payload. -/
  length : Nat
  /-- Whether there are no bytes. -/
  isEmpty : Bool
  /-- The payload. -/
  bytes : List UInt8
  /-- The front of the payload. -/
  latest : Nat → List UInt8
  /-- The payload written over a buffer, and how much of it there was room for. -/
  readInto : List UInt8 → Nat × List UInt8
  /-- The payload as text. -/
  lossyText : String
  /-- The snapshot in words. -/
  description : String

/-- Everything that can be read of a view. -/
structure View.Reading where
  /-- The status. -/
  status : Option Int32
  /-- The message. -/
  message? : Option Snapshot.Reading
  /-- The front of the message. -/
  latest : Nat → List UInt8
  /-- The message as text. -/
  lossyText? : Option String
  /-- The view in words. -/
  description : String

/-- Reads a snapshot in every way there is. -/
def Snapshot.reading (s : Snapshot) : Snapshot.Reading :=
  ⟨s.capacity, s.length, s.isEmpty, s.bytes, s.latest, s.readInto, s.lossyText, s.describe⟩

/-- Reads a view in every way there is. -/
def View.reading (v : View) : View.Reading :=
  ⟨v.status, v.message?.map Snapshot.reading, v.latest, v.lossyText?, v.describe⟩

namespace Snapshot

variable {s t : Snapshot}

/-- Stale bytes cannot be read. -/
theorem reading_congr (hcapacity : s.capacity = t.capacity) (hbytes : s.bytes = t.bytes) :
    s.reading = t.reading := by
  have hlength : s.length = t.length := by rw [← length_bytes, hbytes, length_bytes]
  have hlatest : s.latest = t.latest := by
    funext limit
    rw [latest_eq_take, latest_eq_take, hbytes]
  have hinto : s.readInto = t.readInto := by
    funext buffer
    rw [readInto, readInto, hlatest]
  have hempty : s.isEmpty = t.isEmpty := by rw [isEmpty, isEmpty, hlength]
  have htext : s.lossyText = t.lossyText := congrArg Utf8.decodeLossy hbytes
  have hwords : s.describe = t.describe := by
    unfold describe
    rw [hlength, hcapacity]
  rw [reading, reading, Reading.mk.injEq]
  exact ⟨hcapacity, hlength, hempty, hbytes, hlatest, hinto, htext, hwords⟩

/-- A payload that is copied after a clear leaves nothing to be read of what was there before. -/
theorem reading_copyFrom_clear (h : s.capacity = t.capacity) (source : Snapshot) :
    (s.clear.copyFrom source).reading = (t.clear.copyFrom source).reading := by
  refine reading_congr ?_ ?_
  · rw [capacity_copyFrom, capacity_copyFrom, capacity_clear, capacity_clear, h]
  · rw [bytes_copyFrom, bytes_copyFrom, capacity_clear, capacity_clear, h]

end Snapshot

namespace View

/-- The front of the message is read off its bytes. -/
theorem latest_eq (v : View) (limit : Nat) :
    v.latest limit = ((v.message?.map Snapshot.bytes).getD []).take limit := by
  cases hm : v.message? with
  | none => simp [latest, hm]
  | some s => simp [latest, hm, Snapshot.latest_eq_take]

/-- So is its text. -/
theorem lossyText?_eq (v : View) :
    v.lossyText? = (v.message?.map Snapshot.bytes).map Utf8.decodeLossy := by
  rw [lossyText?, Option.map_map]
  rfl

/-- Views that agree in their fields, up to stale bytes, read alike. -/
theorem reading_congr {v w : View} (hstatus : v.status = w.status)
    (hmessage : v.message.reading = w.message.reading) (hflag : v.hasMessage = w.hasMessage) :
    v.reading = w.reading := by
  have hbytes : v.message.bytes = w.message.bytes := congrArg Snapshot.Reading.bytes hmessage
  have hwords : v.message.describe = w.message.describe :=
    congrArg Snapshot.Reading.description hmessage
  -- Whether there is a message to read is told by the flag, and what it reads as by the reading.
  have hread {α : Type} {f : Snapshot → α} (hf : f v.message = f w.message) :
      v.message?.map f = w.message?.map f := by
    rw [message?, message?, hflag]
    split
    · exact congrArg some hf
    · rfl
  have hlatest : v.latest = w.latest := by
    funext limit
    rw [latest_eq, latest_eq, hread hbytes]
  have htext : v.lossyText? = w.lossyText? := by
    rw [lossyText?_eq, lossyText?_eq, hread hbytes]
  have hdescribe : v.describe = w.describe := by
    unfold describe
    rw [hstatus, hwords, hflag]
  rw [reading, reading, Reading.mk.injEq]
  exact ⟨hstatus, hread hmessage, hlatest, htext, hdescribe⟩

end View

namespace Mailbox

/-- **Nothing of the former view can be read.** After a drain, views of equal room read alike. -/
theorem reading_take_congr (m : Mailbox) {v w : View} (h : v.room = w.room) :
    (m.take v).1.view.reading = (m.take w).1.view.reading := by
  change (m.fill v).reading = (m.fill w).reading
  refine View.reading_congr rfl ?_ rfl
  simp only [fill]
  -- With a message pending its bytes are copied; otherwise the view has been cleared.
  split
  · exact Snapshot.reading_copyFrom_clear h m.message
  · refine Snapshot.reading_congr h ?_
    rw [View.reset, View.reset, Snapshot.bytes_clear, Snapshot.bytes_clear]

/-- A view shows a message exactly if one was pending. -/
theorem isSome_message?_take (m : Mailbox) (v : View) :
    (m.take v).1.view.message?.isSome = m.pending.contains .message := by
  change (if m.pending.contains .message then _ else _ : Option Snapshot).isSome = _
  cases m.pending.contains .message <;> rfl

/-- It shows of the message what it has room for. -/
theorem message?_take (m : Mailbox) (v : View) :
    (m.take v).1.view.message?.map Snapshot.bytes
      = if .message ∈ m.pending then some (m.message.bytes.take v.room) else none := by
  change (m.fill v).message?.map Snapshot.bytes = if m.pending.contains .message then _ else _
  cases hc : m.pending.contains .message with
  | true => simp [fill, View.message?, View.reset, View.room, hc]
  | false => simp [fill, View.message?, hc]

/-- A fresh view shows the whole message, and any other as much of that as it has room for. -/
theorem message?_take_eq_fresh (m : Mailbox) (v : View) :
    (m.take v).1.view.message?.map Snapshot.bytes
      = (m.take m.freshView).1.view.message?.map fun s => s.bytes.take v.room := by
  have hlen : m.message.bytes.length ≤ m.capacity :=
    (Snapshot.length_bytes m.message).symm ▸ m.message.length_le
  -- A fresh view has room for all that the mailbox stores.
  have hfresh : (m.take m.freshView).1.view.message?.map (fun s => s.bytes.take v.room)
      = ((m.take m.freshView).1.view.message?.map Snapshot.bytes).map (List.take v.room) := by
    rw [Option.map_map]
    rfl
  rw [hfresh, message?_take, message?_take, room_freshView, List.take_of_length_le hlen]
  split <;> rfl

end Mailbox

/-! ### What a mailbox holds in any use -/

/-- The signal that an entry posts, if it posts one. -/
def Entry.signal? : Entry → Option Signal
  | .posted s => some s
  | .drained _ => none

/-- Everything that was posted in the course of a history. -/
def reported (history : List Entry) : List Signal := history.filterMap Entry.signal?

/-- What was posted since the latest drain is the last of what was posted at all. -/
theorem sinceDrain_suffix (history : List Entry) : sinceDrain history <:+ reported history := by
  induction history using List.reverseRecOn with
  | nil => exact List.suffix_rfl
  | append_singleton history entry ih =>
    cases entry with
    | posted s =>
      have hreported : reported (history ++ [.posted s]) = reported history ++ [s] := by
        rw [reported, List.filterMap_append]
        rfl
      obtain ⟨earlier, hearlier⟩ := ih
      rw [sinceDrain_posted, hreported]
      exact ⟨earlier, by rw [← hearlier, List.append_assoc]⟩
    | drained taken =>
      rw [sinceDrain_drained]
      exact List.nil_suffix

/-- What is known of a mailbox with the given capacity and history, whatever views it is drained
into. -/
structure Mailbox.Current (capacity : Nat) (m : Mailbox) (history : List Entry) : Prop where
  /-- The mailbox has the capacity with which it was made. -/
  capacity_eq : m.capacity = capacity
  /-- It holds the signals posted since the latest drain. -/
  holds : m.Holds (sinceDrain history)
  /-- While a drain waits, nothing is pending. -/
  idle : m.waiting ≠ none → m.hasPending = false

namespace Mailbox.Current

variable {m : Mailbox} {capacity : Nat} {history : List Entry}

theorem blank (h : 0 < capacity) : Current capacity (.blank capacity h) [] :=
  ⟨Snapshot.capacity_blank capacity h, holds_nil_iff.mpr rfl, fun _ => rfl⟩

/-- No producer and no drain, into whichever view, makes a mailbox hold anything else. -/
theorem invariant (capacity : Nat) : Invariant (Current capacity) where
  record h hw s := by
    refine ⟨(capacity_record _ s).trans h.capacity_eq, ?_, fun hne => ?_⟩
    · rw [sinceDrain_posted]
      exact h.holds.record s
    · rw [waiting_record] at hne
      exact absurd hw hne
  take h hw _ v := by
    refine ⟨h.capacity_eq, ?_, fun hne => absurd hw hne⟩
    rw [sinceDrain_drained]
    exact holds_take _ v
  wait h _ hp _ := ⟨h.capacity_eq, ⟨h.holds.kinds, h.holds.status, h.holds.message⟩, fun _ => hp⟩
  rouse h :=
    ⟨h.capacity_eq, ⟨h.holds.kinds, h.holds.status, h.holds.message⟩, fun hne => absurd rfl hne⟩

/-- The message that is pending is the front of the last payload that was ever posted. -/
theorem exists_latestPayload (h : Current capacity m history) (hm : .message ∈ m.pending) :
    ∃ p, latestPayload (reported history) = some p ∧ m.message.bytes = p.take capacity := by
  obtain ⟨p, hp⟩ := Option.isSome_iff_exists.mp
    (isSome_latestPayload_iff.mpr ((h.holds.kinds .message).mp hm))
  obtain ⟨earlier, hearlier⟩ := sinceDrain_suffix history
  refine ⟨p, ?_, ?_⟩
  · rw [← hearlier, latestPayload, latest_append]
    exact congrArg (Option.or · _) hp
  · rw [h.holds.message p hp, h.capacity_eq]

end Mailbox.Current

/-! ### Draining into a view that has served before -/

namespace Station

/-- **A reused view reads like a fresh one.** Take a mailbox of any capacity, in any use that leaves
something pending, and any view, of whatever room and in whatever state.

* A drain into the view and one into a fresh view both end at once. They take the same kinds and
  leave the same mailbox.
* The view shows the same status as the fresh one, and a message exactly if that shows one. Its
  bytes are the first bytes of the fresh one's, as many as the view has room for.
* If a message was pending, its front is that of the last payload that was ever posted. If none was,
  no bytes and no text can be read.
* All that can be read of the view can be read of any other that had as much room before the drain.
  If this is the capacity of the mailbox, it is all that can be read of the fresh view. -/
theorem reused_view_reads_like_fresh {capacity : Nat} (hpos : 0 < capacity) (moves : List Move)
    (hp : ((ofCapacity capacity hpos).run moves).1.mailbox.hasPending = true) (v : View) :
    let x := ((ofCapacity capacity hpos).run moves).1
    let history := ((ofCapacity capacity hpos).run moves).2
    ∃ (fresh reused : Drained) (after : Mailbox),
      x.mailbox.drain = .took fresh after ∧ x.mailbox.drainInto v = .took reused after ∧
        reused.kinds = fresh.kinds ∧ reused.view.status = fresh.view.status ∧
        (reused.view.message?.isSome = fresh.view.message?.isSome ∧
          reused.view.message?.map Snapshot.bytes
            = fresh.view.message?.map fun s => s.bytes.take v.room) ∧
        (.message ∈ x.mailbox.pending → ∃ p, latestPayload (reported history) = some p ∧
          (∀ limit, reused.view.latest limit = p.take (min (min capacity v.room) limit)) ∧
          reused.view.lossyText? = some (Utf8.decodeLossy (p.take (min capacity v.room)))) ∧
        (.message ∉ x.mailbox.pending → (∀ limit, reused.view.latest limit = []) ∧
          reused.view.lossyText? = none) ∧
        (∀ w : View, w.room = v.room → ∃ other, x.mailbox.drainInto w = .took other after ∧
          other.kinds = reused.kinds ∧ other.view.reading = reused.view.reading) ∧
        (v.room = capacity → reused.view.reading = fresh.view.reading) := by
  intro x history
  have h : Mailbox.Current capacity x.mailbox history := by
    have hrun := (Mailbox.Current.invariant capacity).run (x := ofCapacity capacity hpos)
      (.blank hpos) moves
    simpa using hrun
  -- A drain that waited would have found nothing pending.
  have hw : x.mailbox.waiting = none := by
    refine Classical.byContradiction fun hne => ?_
    rw [h.idle hne] at hp
    cases hp
  -- So any drain ends at once, and differs from others in the view alone.
  have hdrain (w : View) := Mailbox.drainInto_of_hasPending hw hp w
  have hbytes := x.mailbox.message?_take v
  refine ⟨_, _, _, hdrain _, hdrain v, rfl, rfl, ⟨?_, x.mailbox.message?_take_eq_fresh v⟩,
    fun hm => ?_, fun hm => ?_, ?_, ?_⟩
  · rw [Mailbox.isSome_message?_take, Mailbox.isSome_message?_take]
  · obtain ⟨p, hlatest, hp⟩ := h.exists_latestPayload hm
    rw [if_pos hm, hp, List.take_take, Nat.min_comm v.room] at hbytes
    refine ⟨p, hlatest, fun limit => ?_, ?_⟩
    · rw [View.latest_eq, hbytes, Option.getD_some, List.take_take, Nat.min_comm limit]
    · rw [View.lossyText?_eq, hbytes, Option.map_some]
  · rw [if_neg hm] at hbytes
    refine ⟨fun limit => ?_, ?_⟩
    · rw [View.latest_eq, hbytes]
      exact List.take_nil
    · rw [View.lossyText?_eq, hbytes]
      rfl
  · exact fun w hroom => ⟨_, hdrain w, rfl, x.mailbox.reading_take_congr hroom⟩
  · intro hroom
    refine x.mailbox.reading_take_congr ?_
    rw [hroom, Mailbox.room_freshView, h.capacity_eq]

/-- A view that tells of a status, a message and their drain. -/
def servedView : View := ⟨some 9, (Snapshot.blank 2 Nat.two_pos).overwrite [1, 2], true⟩

/-- A mailbox from which a status was taken has a message pending. Drained into a view that served
before and has less room, it shows the message cut to that room, and no status. -/
theorem served_view_reads_like_fresh :
    let moves : List Move := [.post (.status 1), .drain, .post (.message [7, 8, 9, 6])]
    let x := ((ofCapacity 3 (by decide)).run moves).1
    x.mailbox.hasPending = true ∧ ∃ (fresh reused : Drained) (after : Mailbox),
      x.mailbox.drain = .took fresh after ∧ x.mailbox.drainInto servedView = .took reused after ∧
        fresh.view.latest 5 = [7, 8, 9] ∧ reused.view.latest 5 = [7, 8] ∧
        reused.view.latest 1 = [7] ∧ reused.view.status = none := by
  intro moves x
  have hp : x.mailbox.hasPending = true := rfl
  have hm : EventKind.message ∈ x.mailbox.pending := by decide
  obtain ⟨fresh, reused, after, hfresh, hreused, -, hstatus, -, hpending, -⟩ :=
    reused_view_reads_like_fresh (by decide) moves hp servedView
  obtain ⟨p, hp', hlatest, -⟩ := hpending hm
  obtain rfl := Option.some.inj hp'
  cases hfresh
  exact ⟨hp, _, reused, _, rfl, hreused, by decide, hlatest 5, hlatest 1, hstatus.trans (by decide)⟩

end Station

end SerialBridge
