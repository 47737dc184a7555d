import SerialBridge.Proofs.Mailbox.Station

/-!
# Invariants of a mailbox in use

Whatever is done to a station, few things happen to it. A signal is recorded. A drain takes what is
pending, or begins to wait, and does so directly or for a consumer. A producer completes the drain
that waits. A further consumer is made. A statement about a station and its history that each of
these keeps is a `Station.Invariant`. Every move is made of them (`Station.Invariant.step`), and so
the statement holds after every run (`Station.Invariant.run`). This is the only induction on moves
that invariants of a station need.

The statement may speak of the number of **direct** drains besides, those that are no consumer's,
and may ask something of the views that moves bring along. If it speaks of the mailbox and its
history alone, four of these things are left to look at (`Mailbox.Invariant`).
-/

namespace SerialBridge

/-- Whether the entry is a drain. -/
def Entry.isDrain : Entry → Bool
  | .posted _ => false
  | .drained _ => true

namespace Station

/-! ### Direct drains -/

/-- Whether a drain that comes to its end in the move is a direct one, not a consumer's. -/
def isDirect (x : Station) : Move → Bool
  | .post _ => x.waiter.isNone
  | .drain => true
  | .drainInto _ => true
  | .enlist => false
  | .dispatch _ _ _ _ => false

/-- How many direct drains come to their end in the move. -/
def direct (x : Station) (move : Move) : Nat :=
  if x.isDirect move then (x.step move).2.countP Entry.isDrain else 0

/-- How many direct drains come to their end in the moves. -/
def directDrains (x : Station) : List Move → Nat
  | [] => 0
  | move :: rest => x.direct move + (x.step move).1.directDrains rest

/-! ### Stations -/

/-- A statement about a station, its history and the number of direct drains in it, that is kept by
whatever happens to a station, provided that the views which moves bring along are as `brought`
asks. -/
structure Invariant (brought : View → Prop) (P : Station → List Entry → Nat → Prop) : Prop where
  /-- A fresh view is as good as one that is brought along. -/
  fresh {x : Station} {history : List Entry} {d : Nat} (h : P x history d) :
    brought x.mailbox.freshView
  /-- A signal is recorded, while no drain waits. -/
  record {x : Station} {history : List Entry} {d : Nat} (h : P x history d)
    (hw : x.mailbox.waiting = none) (s : Signal) :
    P { x with mailbox := x.mailbox.record s } (history ++ [.posted s]) d
  /-- A direct drain takes what is pending, while no other waits. -/
  take {x : Station} {history : List Entry} {d : Nat} (h : P x history d)
    (hw : x.mailbox.waiting = none) (hp : x.mailbox.hasPending = true) {v : View}
    (hv : brought v) :
    P { x with mailbox := (x.mailbox.take v).2 } (history ++ [.drained (x.mailbox.take v).1])
      (d + 1)
  /-- A consumer's drain does, and fills the consumer's view. -/
  serve {x : Station} {history : List Entry} {d : Nat} (h : P x history d)
    (hw : x.mailbox.waiting = none) (hp : x.mailbox.hasPending = true) {number : Nat}
    {c : Consumer} (hc : x.consumers[number]? = some c) :
    P { x with
        mailbox := (x.mailbox.take c.view).2
        consumers := x.consumers.set number ⟨(x.mailbox.take c.view).1.view, c.cycles + 1⟩ }
      (history ++ [.drained (x.mailbox.take c.view).1]) d
  /-- A direct drain begins to wait. -/
  wait {x : Station} {history : List Entry} {d : Nat} (h : P x history d)
    (hw : x.mailbox.waiting = none) (hp : x.mailbox.hasPending = false) {v : View}
    (hv : brought v) :
    P { x with mailbox := { x.mailbox with waiting := some v }, waiter := none } history d
  /-- A consumer's drain does. -/
  attend {x : Station} {history : List Entry} {d : Nat} (h : P x history d)
    (hw : x.mailbox.waiting = none) (hp : x.mailbox.hasPending = false) {number : Nat}
    {c : Consumer} (hc : x.consumers[number]? = some c) :
    P { x with mailbox := { x.mailbox with waiting := some c.view }, waiter := some number }
      history d
  /-- A producer completes the drain that waits. -/
  complete {x : Station} {history : List Entry} {d : Nat} (h : P x history d) {v : View}
    (hw : x.mailbox.waiting = some v) (s : Signal) :
    let taken := ({ x.mailbox with waiting := none }.record s).take v
    P (x.wake taken.1 taken.2) (history ++ [.posted s, .drained taken.1])
      (d + x.waiter.isNone.toNat)
  /-- A further consumer is made. -/
  enlist {x : Station} {history : List Entry} {d : Nat} (h : P x history d) :
    P { x with consumers := x.consumers ++ [.ofMailbox x.mailbox] } history d

namespace Invariant

variable {brought : View → Prop} {P : Station → List Entry → Nat → Prop}
  (inv : Invariant brought P) {x : Station} {history : List Entry} {d : Nat}
include inv

/-- A producer's step. -/
theorem post (h : P x history d) (s : Signal) :
    P (x.post s).1 (history ++ (x.post s).2) (d + x.direct (.post s)) := by
  cases hw : x.mailbox.waiting with
  | none =>
    have hpost : x.post s = ({ x with mailbox := x.mailbox.record s }, [.posted s]) := by
      rw [Station.post, Mailbox.post_eq_record hw]
    have hdirect : x.direct (.post s) = 0 := by
      rw [direct, Station.step, hpost]
      exact ite_self 0
    rw [hpost, hdirect]
    exact inv.record h hw s
  | some v =>
    have hpost : x.post s = (x.wake (({ x.mailbox with waiting := none }.record s).take v).1
        (({ x.mailbox with waiting := none }.record s).take v).2, [.posted s,
          .drained (({ x.mailbox with waiting := none }.record s).take v).1]) := by
      rw [Station.post, Mailbox.post_of_waiting hw]
    have hdirect : x.direct (.post s) = x.waiter.isNone.toNat := by
      rw [direct, Station.step, hpost, isDirect]
      cases x.waiter <;> rfl
    rw [hpost, hdirect]
    exact inv.complete h hw s

/-- A direct drain begins. -/
theorem conclude (h : P x history d) {v : View} (hv : brought v) :
    P (x.conclude none (x.mailbox.drainInto v)).1
      (history ++ (x.conclude none (x.mailbox.drainInto v)).2)
      (d + (x.conclude none (x.mailbox.drainInto v)).2.countP Entry.isDrain) := by
  by_cases hw : x.mailbox.waiting = none
  · cases hp : x.mailbox.hasPending with
    | true =>
      rw [conclude_of_hasPending hw hp]
      exact inv.take h hw hp hv
    | false =>
      rw [conclude_of_not_hasPending hw hp, List.append_nil]
      exact inv.wait h hw hp hv
  · rw [conclude_of_waiting hw, List.append_nil]
    exact h

/-- A consumer makes a cycle, or begins to wait. -/
theorem dispatch {σ ε : Type} (h : P x history d) (number : Nat) (handler : Handler σ ε)
    (enabled : Bool) (state : σ) :
    P (x.dispatch number handler enabled state).1
      (history ++ (x.dispatch number handler enabled state).2) d := by
  cases hc : x.consumers[number]? with
  | none => simpa [Station.dispatch, hc] using h
  | some consumer =>
    by_cases hw : x.mailbox.waiting = none
    · cases hp : x.mailbox.hasPending with
      | true =>
        -- After the drain of the cycle come the signals that its callbacks post.
        have hserved := inv.serve h hw hp hc
        let served : Station :=
          { x with
            consumers := x.consumers.set number
              ⟨(x.mailbox.take consumer.view).1.view, consumer.cycles + 1⟩ }
        have hacts := Mailbox.performAll_induction (m := (x.mailbox.take consumer.view).2)
          (P := fun m seen => P { served with mailbox := m } seen d)
          (fun h hw s => inv.record h hw s) hserved hw
          ((x.loop consumer enabled state).round handler).acts
        rw [List.append_assoc] at hacts
        rw [dispatch_of_hasPending hc hw hp, Loop.mailbox_dispatched, Loop.consumer_dispatched]
        exact hacts
      | false =>
        rw [dispatch_of_not_hasPending hc hw hp, conclude_of_not_hasPending hw hp, List.append_nil]
        exact inv.attend h hw hp hc
    · rw [dispatch_of_waiting hc hw, List.append_nil]
      exact h

/-- **One move.** -/
theorem step (h : P x history d) (move : Move) (hv : ∀ v, move = .drainInto v → brought v) :
    P (x.step move).1 (history ++ (x.step move).2) (d + x.direct move) := by
  cases move with
  | post s => exact inv.post h s
  | drain => exact inv.conclude h (inv.fresh h)
  | drainInto v => exact inv.conclude h (hv v rfl)
  | enlist =>
    rw [Station.step, List.append_nil]
    exact inv.enlist h
  | dispatch number handler enabled state => exact inv.dispatch h number handler enabled state

/-- **A run.** -/
theorem run (h : P x history d) (moves : List Move) (hv : ∀ v, .drainInto v ∈ moves → brought v) :
    P (x.run moves).1 (history ++ (x.run moves).2) (d + x.directDrains moves) := by
  induction moves generalizing x history d with
  | nil => simpa [Station.run, directDrains] using h
  | cons move rest ih =>
    have hstep := inv.step h move fun v hmove => hv v (hmove ▸ List.mem_cons_self)
    have hrest := ih hstep fun v hmem => hv v (List.mem_cons_of_mem _ hmem)
    rw [List.append_assoc, Nat.add_assoc] at hrest
    exact hrest

end Invariant

end Station

/-! ### Mailboxes -/

/-- A statement about a mailbox and its history that each step of a mailbox keeps. -/
structure Mailbox.Invariant (P : Mailbox → List Entry → Prop) : Prop where
  /-- A signal is recorded, while no drain waits. -/
  record {m : Mailbox} {history : List Entry} (h : P m history) (hw : m.waiting = none)
    (s : Signal) : P (m.record s) (history ++ [.posted s])
  /-- A drain takes what is pending, while no other waits. -/
  take {m : Mailbox} {history : List Entry} (h : P m history) (hw : m.waiting = none)
    (hp : m.hasPending = true) (v : View) : P (m.take v).2 (history ++ [.drained (m.take v).1])
  /-- A drain begins to wait. -/
  wait {m : Mailbox} {history : List Entry} (h : P m history) (hw : m.waiting = none)
    (hp : m.hasPending = false) (v : View) : P { m with waiting := some v } history
  /-- A waiting drain is taken off the mailbox. -/
  rouse {m : Mailbox} {history : List Entry} (h : P m history) :
    P { m with waiting := none } history

namespace Mailbox.Invariant

variable {P : Mailbox → List Entry → Prop} (inv : Mailbox.Invariant P)
include inv

/-- The producer's step that completes a drain: the drain is taken off, and takes the signal as soon
as it is recorded. -/
theorem complete {m : Mailbox} {history : List Entry} (h : P m history) (v : View) (s : Signal) :
    let taken := ({ m with waiting := none }.record s).take v
    P taken.2 (history ++ [.posted s, .drained taken.1]) := by
  have hrecord := inv.record (inv.rouse h) rfl s
  have htake := inv.take hrecord (waiting_record _ s) (hasPending_record _ s) v
  rw [List.append_assoc] at htake
  exact htake

/-- What is said of the mailbox alone is kept by what happens to its station, whatever the views. -/
theorem station : Station.Invariant (fun _ => True) fun x history _ => P x.mailbox history where
  fresh _ := trivial
  record h hw s := inv.record h hw s
  take h hw hp v _ := inv.take h hw hp v
  serve h hw hp _ _ _ := inv.take h hw hp _
  wait h hw hp v _ := inv.wait h hw hp v
  attend h hw hp _ _ _ := inv.wait h hw hp _
  complete h v _ s := inv.complete h v s
  enlist h := h

/-- It holds after every run. -/
theorem run {x : Station} {history : List Entry} (h : P x.mailbox history) (moves : List Move) :
    P (x.run moves).1.mailbox (history ++ (x.run moves).2) :=
  inv.station.run (d := 0) h moves fun _ _ => trivial

end Mailbox.Invariant

end SerialBridge
