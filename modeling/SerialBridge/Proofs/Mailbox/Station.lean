import SerialBridge.Proofs.Dispatch.Round

/-!
# A mailbox in use

A `Station` is a mailbox with the consumers that were made for it. What is done to it is a list
of `Move`s: producers post signals, and drains are begun, into a fresh view, into a view that is
already there, or by a consumer that then dispatches what it took. A move is one atomic step of
its mailbox, except that the callbacks of a dispatching consumer post as they go.

A station keeps a **history** of what was posted and of what drains handed out, in order. A drain
that finds nothing waits, and comes into the history when a producer completes it. A consumer
that was made to wait is given what its drain took at that moment; what its callbacks then post
are further moves.
-/

namespace SerialBridge

/-- An entry in the history of a mailbox. -/
inductive Entry where
  /-- A producer posted a signal. -/
  | posted (signal : Signal)
  /-- A drain came to its end and handed this out. -/
  | drained (taken : Drained)

/-- What an entry makes of the signals that the next drain will hand out. -/
def Entry.extend (signals : List Signal) : Entry → List Signal
  | .posted s => signals ++ [s]
  | .drained _ => []

/-- The signals posted after the latest drain of a history. -/
def sinceDrain (history : List Entry) : List Signal := history.foldl Entry.extend []

@[simp] theorem sinceDrain_posted (history : List Entry) (s : Signal) :
    sinceDrain (history ++ [.posted s]) = sinceDrain history ++ [s] := by
  simp [sinceDrain, Entry.extend]

@[simp] theorem sinceDrain_drained (history : List Entry) (taken : Drained) :
    sinceDrain (history ++ [.drained taken]) = [] := by
  simp [sinceDrain, Entry.extend]

/-- A mailbox with the consumers that were made for it. -/
structure Station where
  /-- The mailbox. -/
  mailbox : Mailbox
  /-- Its consumers, in the order in which they were made. -/
  consumers : List Consumer := []
  /-- The consumer whose drain waits, if a drain waits and it is a consumer's. -/
  waiter : Option Nat := none

/-- Something that is done to a station. -/
inductive Move : Type 1 where
  /-- A producer posts a signal. -/
  | post (signal : Signal)
  /-- A drain into a fresh view begins. -/
  | drain
  /-- A drain into a view that is already there begins. -/
  | drainInto (view : View)
  /-- A further consumer is made. -/
  | enlist
  /-- The consumer with the number makes one cycle. -/
  | dispatch {σ ε : Type} (number : Nat) (handler : Handler σ ε) (enabled : Bool) (state : σ)

namespace Station

/-- A station without consumers and with an empty mailbox of the given capacity. -/
def ofCapacity (capacity : Nat) (h : 0 < capacity) : Station := { mailbox := .blank capacity h }

/-- Hands what a waiting drain took to the consumer that waited, if it was a consumer. -/
def wake (x : Station) (taken : Drained) (mailbox : Mailbox) : Station where
  mailbox := mailbox
  consumers := match x.waiter with
    | none => x.consumers
    | some number =>
      x.consumers.modify number fun c => { view := taken.view, cycles := c.cycles + 1 }

/-- Posts a signal. -/
def post (s : Signal) (x : Station) : Station × List Entry :=
  match x.mailbox.post s with
  | (mailbox, none) => ({ x with mailbox }, [.posted s])
  | (mailbox, some taken) => (x.wake taken mailbox, [.posted s, .drained taken])

/-- Takes in how a drain began. -/
def conclude (waiter : Option Nat) (x : Station) : Drain → Station × List Entry
  | .refused => (x, [])
  | .waits mailbox => ({ x with mailbox, waiter }, [])
  | .took taken mailbox => ({ x with mailbox }, [.drained taken])

/-- The history of a cycle that handed out the given kinds: what the consumer's view shows, and
then what the callbacks posted. -/
def cycleEntries (kinds : PendingSet) (consumer : Consumer) (posted : List Signal) : List Entry :=
  .drained ⟨kinds, consumer.view⟩ :: posted.map .posted

/-- Lets a consumer make one cycle. If there is nothing to drain, it waits. -/
def dispatch {σ ε : Type} (number : Nat) (handler : Handler σ ε) (enabled : Bool) (state : σ)
    (x : Station) : Station × List Entry :=
  match x.consumers[number]? with
  | none => (x, [])
  | some consumer =>
    let l : Loop σ := { mailbox := x.mailbox, consumer, enabled, state }
    let next (l : Loop σ) : Station :=
      { x with mailbox := l.mailbox, consumers := x.consumers.set number l.consumer }
    match l.cycle handler with
    | (_, .refused) => (x, [])
    | (_, .waiting) => x.conclude (some number) (x.mailbox.drainInto consumer.view)
    | (l', .dispatched kinds) =>
      (next l', cycleEntries kinds l'.consumer (l.round handler).posts)
    | (l', .failed _) =>
      (next l', cycleEntries x.mailbox.pending l'.consumer (l.round handler).posts)

/-- Makes a move, and answers with the station afterwards and with the entries of its history. -/
def step (x : Station) : Move → Station × List Entry
  | .post s => x.post s
  | .drain => x.conclude none x.mailbox.drain
  | .drainInto view => x.conclude none (x.mailbox.drainInto view)
  | .enlist => ({ x with consumers := x.consumers ++ [.ofMailbox x.mailbox] }, [])
  | .dispatch number handler enabled state => x.dispatch number handler enabled state

/-- Makes one move after the other, and answers with the station afterwards and the history. -/
def run (x : Station) : List Move → Station × List Entry
  | [] => (x, [])
  | move :: rest => (((x.step move).1.run rest).1, (x.step move).2 ++ ((x.step move).1.run rest).2)

/-! ### How drains begin -/

variable {x : Station}

/-- A drain of a mailbox that has something pending ends at once. -/
theorem conclude_of_hasPending (hw : x.mailbox.waiting = none) (hp : x.mailbox.hasPending = true)
    (waiter : Option Nat) (v : View) :
    x.conclude waiter (x.mailbox.drainInto v)
      = ({ x with mailbox := (x.mailbox.take v).2 }, [.drained (x.mailbox.take v).1]) := by
  rw [Mailbox.drainInto_of_hasPending hw hp, conclude]

/-- A drain of a mailbox that has nothing pending waits. -/
theorem conclude_of_not_hasPending (hw : x.mailbox.waiting = none)
    (hp : x.mailbox.hasPending = false) (waiter : Option Nat) (v : View) :
    x.conclude waiter (x.mailbox.drainInto v)
      = ({ x with mailbox := { x.mailbox with waiting := some v }, waiter }, []) := by
  rw [Mailbox.drainInto_of_not_hasPending hw hp, conclude]

/-- A drain beside one that waits is refused. -/
theorem conclude_of_waiting (hw : x.mailbox.waiting ≠ none) (waiter : Option Nat) (v : View) :
    x.conclude waiter (x.mailbox.drainInto v) = (x, []) := by
  rw [Mailbox.drainInto_of_waiting hw, conclude]

section Dispatch

variable {σ ε : Type} {number : Nat} {consumer : Consumer}

/-- The loop that a consumer of the station runs. -/
def loop (x : Station) (consumer : Consumer) (enabled : Bool) (state : σ) : Loop σ :=
  { mailbox := x.mailbox, consumer, enabled, state }

/-- A consumer that finds something hands out what its cycle took, and its callbacks post. -/
theorem dispatch_of_hasPending (hc : x.consumers[number]? = some consumer)
    (hw : x.mailbox.waiting = none) (hp : x.mailbox.hasPending = true)
    (handler : Handler σ ε) (enabled : Bool) (state : σ) :
    let l := x.loop consumer enabled state
    x.dispatch number handler enabled state =
      ({ x with
          mailbox := (l.dispatched handler).mailbox
          consumers := x.consumers.set number (l.dispatched handler).consumer },
        .drained l.taken :: (l.round handler).posts.map .posted) := by
  intro l
  have hl : { mailbox := x.mailbox, consumer, enabled, state : Loop σ } = l := rfl
  -- Whether the cycle ends with all callbacks made or with a failure, its consumer has been served.
  rcases Loop.cycle_cases handler (l := l) hw hp with ⟨hcycle, -⟩ | ⟨e, hcycle, -⟩
  · simp only [dispatch, hc, hl, hcycle, cycleEntries, Loop.consumer_dispatched]
  · simp only [dispatch, hc, hl, hcycle, cycleEntries, Loop.consumer_dispatched]
    rfl

/-- A consumer that finds nothing waits. -/
theorem dispatch_of_not_hasPending (hc : x.consumers[number]? = some consumer)
    (hw : x.mailbox.waiting = none) (hp : x.mailbox.hasPending = false)
    (handler : Handler σ ε) (enabled : Bool) (state : σ) :
    x.dispatch number handler enabled state
      = x.conclude (some number) (x.mailbox.drainInto consumer.view) := by
  simp only [dispatch, hc]
  -- The loop says that it waits, and the drain of the station is the one that then waits.
  rw [Loop.cycle_of_not_hasPending handler (by exact hw) (by exact hp)]

/-- A consumer is refused beside a drain that waits. -/
theorem dispatch_of_waiting (hc : x.consumers[number]? = some consumer)
    (hw : x.mailbox.waiting ≠ none) (handler : Handler σ ε) (enabled : Bool) (state : σ) :
    x.dispatch number handler enabled state = (x, []) := by
  simp only [dispatch, hc]
  rw [Loop.cycle_of_waiting handler (by exact hw)]

end Dispatch

end Station

end SerialBridge
