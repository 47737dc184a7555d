import SerialBridge.Dispatch.Handler

/-!
# The dispatch loop

A `Consumer` owns the view that its drains go to. One **cycle** drains the mailbox and then
calls the handler for every kind it took, in dispatch order; the first failure ends the cycle,
and what was to follow is not delivered. The mailbox is clear by then, so nothing of a failed
cycle comes back in the next.

The **loop** runs cycles until one of them took a disable request and left the enabled flag
clear. Both halves matter: a clear flag alone does not end the loop, and a disable request that
is seen with the flag set is dispatched and forgotten.

Cycles without end are possible, since a handler may refill the mailbox that it is served from.
`Loop.run` is therefore given the number of cycles that it may make; on an empty mailbox, with
nobody else to post, it stops and says that it waits. It leaves no drain behind in the mailbox: who
has it run on among others lets it try again once they have posted, and the drain then takes what
one left waiting would have been handed.
-/

namespace SerialBridge

/-- The consumer of a mailbox. -/
structure Consumer where
  /-- The view of the latest drain. -/
  view : View
  /-- The number of drains that came to an end. -/
  cycles : UInt64 := 0
deriving DecidableEq

/-- A consumer that has drained nothing yet. -/
def Consumer.ofMailbox (m : Mailbox) : Consumer := { view := m.freshView }

/-- A mailbox, its consumer, the enabled flag and the state of the handler. -/
structure Loop (σ : Type) where
  /-- The mailbox. -/
  mailbox : Mailbox
  /-- Its consumer. -/
  consumer : Consumer
  /-- The enabled flag. -/
  enabled : Bool
  /-- The state of the handler. -/
  state : σ

/-- How a cycle ends. -/
inductive CycleEnd (ε : Type) where
  /-- A drain was waiting already; nothing has changed. -/
  | refused
  /-- Nothing is pending, and the cycle would wait; nothing has changed. -/
  | waiting
  /-- Every callback succeeded; the cycle took these kinds. -/
  | dispatched (kinds : PendingSet)
  /-- A callback failed. -/
  | failed (error : ε)

/-- How a run of the loop ends. -/
inductive RunEnd (ε : Type) where
  /-- A drain was waiting already. -/
  | refused
  /-- Nothing is pending, and the loop waits. -/
  | waiting
  /-- A disable request was taken, and the flag was clear after its cycle. -/
  | exited
  /-- A callback failed. -/
  | failed (error : ε)
  /-- The cycles that were allowed are used up. -/
  | unfinished

namespace Loop

variable {σ ε : Type}

/-- Carries out one act of the handler. -/
def perform (l : Loop σ) (a : Act) : Loop σ :=
  { l with mailbox := l.mailbox.perform a, enabled := a.flag l.enabled }

/-- Calls the handler once and carries out what it does. -/
def call (h : Handler σ ε) (kinds : PendingSet) (d : Delivery) (rest : List Delivery)
    (l : Loop σ) : Loop σ × Option ε :=
  let r := h ⟨kinds, rest, l.mailbox, l.enabled⟩ d l.state
  (r.acts.foldl perform { l with state := r.state }, r.failure)

/-- Calls the handler for one callback after the other, up to the first failure. -/
def deliver (h : Handler σ ε) (kinds : PendingSet) : List Delivery → Loop σ → Loop σ × Option ε
  | [], l => (l, none)
  | d :: rest, l =>
    match l.call h kinds d rest with
    | (l, some e) => (l, some e)
    | (l, none) => deliver h kinds rest l

/-- One cycle: drains the mailbox into the consumer's view and dispatches what it took. -/
def cycle (h : Handler σ ε) (l : Loop σ) : Loop σ × CycleEnd ε :=
  match l.mailbox.drainInto l.consumer.view with
  | .refused => (l, .refused)
  | .waits _ => (l, .waiting)
  | .took drained mailbox =>
    let consumer := { view := drained.view, cycles := l.consumer.cycles + 1 }
    match deliver h drained.kinds drained.deliveries { l with mailbox, consumer } with
    | (l, none) => (l, .dispatched drained.kinds)
    | (l, some e) => (l, .failed e)

/-- Runs cycles, at most as many as allowed, until the loop exits, fails or waits. -/
def run (h : Handler σ ε) : Nat → Loop σ → Loop σ × RunEnd ε
  | 0, l => (l, .unfinished)
  | limit + 1, l =>
    match l.cycle h with
    | (l, .refused) => (l, .refused)
    | (l, .waiting) => (l, .waiting)
    | (l, .failed e) => (l, .failed e)
    | (l, .dispatched kinds) =>
      if kinds.contains .disable && !l.enabled then (l, .exited) else run h limit l

end Loop

end SerialBridge
