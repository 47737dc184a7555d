import SerialBridge.Event.PendingSet
import SerialBridge.Mailbox.Tally
import SerialBridge.Mailbox.View

/-!
# The mailbox

A `Mailbox` stands between producers, who report from any thread, and one consumer. It keeps
**one slot per kind**: a newer report of a kind replaces an older one that no drain has taken,
and the consumer sees only the latest. Each call is one atomic step.

* `post` is the step of a producer. It fills the slot, marks the kind as pending and counts.
* `drainInto` is the step of a consumer. It takes the whole pending set and copies the values
  that belong to it into a view.

A drain of an empty mailbox **waits**. The mailbox then remembers the view that the drain will
fill; the next producer's step fills it and completes the drain. While a drain waits no other
may begin, so a waiting drain and a pending event never stand in the mailbox together.
-/

namespace SerialBridge

/-- What a driver reports. -/
inductive Report where
  /-- The status is now this code. -/
  | status (code : Int32)
  /-- These bytes were received. -/
  | message (payload : List UInt8)
deriving DecidableEq

/-- What a producer posts: a driver's report, or a request to disable. -/
inductive Signal where
  /-- The status is now this code. -/
  | status (code : Int32)
  /-- These bytes were received. -/
  | message (payload : List UInt8)
  /-- The consumer is to look at its enabled flag. -/
  | disable
deriving DecidableEq

/-- The kind of event that a signal makes pending. -/
def Signal.kind : Signal → EventKind
  | .status _ => .status
  | .message _ => .message
  | .disable => .disable

/-- A report as a signal. -/
def Report.signal : Report → Signal
  | .status code => .status code
  | .message payload => .message payload

/-- What a drain took: the kinds, and the values that belong to them. -/
structure Drained where
  /-- The kinds that were pending. -/
  kinds : PendingSet
  /-- Their values. -/
  view : View
deriving DecidableEq

/-- A mailbox with one slot per kind. -/
structure Mailbox where
  /-- The kinds that no drain has taken yet. -/
  pending : PendingSet := ∅
  /-- The latest status. -/
  status : Int32 := 0
  /-- The latest message, cut to the capacity of the mailbox. -/
  message : Snapshot
  /-- The counters. -/
  tally : Tally := {}
  /-- The view of the drain that waits, if one does. -/
  waiting : Option View := none
deriving DecidableEq

/-- How a drain begins. -/
inductive Drain where
  /-- Another drain is waiting, and this one is a fault. -/
  | refused
  /-- Nothing is pending: the drain waits, and the mailbox is left like this. -/
  | waits (mailbox : Mailbox)
  /-- The drain is over, and the mailbox is left like this. -/
  | took (drained : Drained) (mailbox : Mailbox)

namespace Mailbox

/-- An empty mailbox that keeps messages of the given length. -/
def blank (capacity : Nat) (h : 0 < capacity) : Mailbox := { message := .blank capacity h }

/-- An empty mailbox of that capacity, or the fault of asking for no room at all. -/
def ofCapacity (capacity : Nat) : Except Fault Mailbox :=
  (Snapshot.ofCapacity capacity).map fun s => { message := s }

/-- The longest message that is kept. -/
def capacity (m : Mailbox) : Nat := m.message.capacity

theorem capacity_pos (m : Mailbox) : 0 < m.capacity := m.message.capacity_pos

/-- An empty view with room for every message of this mailbox. -/
def freshView (m : Mailbox) : View := .blank m.capacity m.capacity_pos

/-- Whether a drain would end at once. -/
def hasPending (m : Mailbox) : Bool := !m.pending.isEmpty

/-- Whether a drain has begun and not ended. -/
def isDraining (m : Mailbox) : Bool := m.waiting.isSome

/-- One if the condition holds, as a step of a counter. -/
def increment (condition : Bool) : UInt64 := if condition then 1 else 0

/-- Fills the slot of the signal's kind, marks the kind and counts. A disable request replaces
nothing, so it never supersedes. -/
def record (m : Mailbox) (s : Signal) : Mailbox :=
  let (present, pending) := m.pending.record s.kind
  match s with
  | .status code =>
    { m with
      pending
      status := code
      tally := { m.tally with
        statusReports := m.tally.statusReports + 1
        superseded := m.tally.superseded + increment present } }
  | .message payload =>
    { m with
      pending
      message := m.message.overwrite payload
      tally := { m.tally with
        messageReports := m.tally.messageReports + 1
        superseded := m.tally.superseded + increment present
        truncated := m.tally.truncated + increment (0 < m.message.dropped payload) } }
  | .disable =>
    { m with
      pending
      tally := { m.tally with disableRequests := m.tally.disableRequests + 1 } }

/-- Copies the pending values into a view. The view keeps nothing of what it held. -/
def fill (m : Mailbox) (v : View) : View :=
  let v := v.reset
  { status := if m.pending.contains .status then some m.status else none
    message := if m.pending.contains .message then v.message.copyFrom m.message else v.message
    hasMessage := m.pending.contains .message }

/-- Takes everything that is pending into a view and counts the drain. -/
def take (m : Mailbox) (v : View) : Drained × Mailbox :=
  let (kinds, pending) := m.pending.take
  (⟨kinds, m.fill v⟩,
    { m with pending, tally := { m.tally with drains := m.tally.drains + 1 } })

/-- The step of a producer. If a drain was waiting, it takes the signal at once, and the answer
is what it took. -/
def post (m : Mailbox) (s : Signal) : Mailbox × Option Drained :=
  let m := m.record s
  match m.waiting with
  | none => (m, none)
  | some v =>
    let (drained, m) := { m with waiting := none }.take v
    (m, some drained)

/-- Posts one signal after the other. -/
def postAll (m : Mailbox) (signals : List Signal) : Mailbox :=
  signals.foldl (fun m s => (m.post s).1) m

/-- The step of a consumer: begins a drain into the view. -/
def drainInto (m : Mailbox) (v : View) : Drain :=
  if m.isDraining then .refused
  else if m.hasPending then
    let (drained, m) := m.take v
    .took drained m
  else .waits { m with waiting := some v }

/-- Begins a drain into a fresh view. -/
def drain (m : Mailbox) : Drain := m.drainInto m.freshView

/-! ### Small facts -/

@[simp] theorem waiting_record (m : Mailbox) (s : Signal) : (m.record s).waiting = m.waiting := by
  cases s <;> rfl

theorem pending_record (m : Mailbox) (s : Signal) :
    (m.record s).pending = m.pending.insert s.kind := by
  cases s <;> rfl

@[simp] theorem capacity_record (m : Mailbox) (s : Signal) :
    (m.record s).capacity = m.capacity := by
  cases s <;> simp [record, capacity]

@[simp] theorem pending_take (m : Mailbox) (v : View) : (m.take v).2.pending = ∅ := rfl

@[simp] theorem kinds_take (m : Mailbox) (v : View) : (m.take v).1.kinds = m.pending := rfl

@[simp] theorem waiting_take (m : Mailbox) (v : View) : (m.take v).2.waiting = m.waiting := rfl

theorem post_eq_record {m : Mailbox} (h : m.waiting = none) (s : Signal) :
    m.post s = (m.record s, none) := by
  simp [post, h]

end Mailbox

end SerialBridge
