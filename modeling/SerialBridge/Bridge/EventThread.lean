import SerialBridge.Bridge.Basic

/-!
# The event thread

Each session has a thread that runs the dispatch loop on the session's mailbox. Its handler turns
status codes into transitions of the engine and tells listeners; codes that are no transition and
disable requests are passed over, and messages are decoded only if somebody listens.

A listener may break off. That ends the thread, and the session stays behind **without** one:
reports still arrive in its mailbox, and nobody takes them.

Threads run as they please, but a bridge is described as if each let the other finish: whatever is
posted to the session's mailbox is dispatched completely before anything else happens. `receive`
is the one way by which signals reach the mailboxes of a bridge, and it ends with `settle`, which
lets the thread work.
-/

namespace SerialBridge

/-- What the event thread works on. -/
structure Hall (σ : Type) where
  /-- The listeners. -/
  audience : Audience σ Report
  /-- The flag of the engine, as the bridge had it and as transitions have set it since. -/
  engineOn : Bool
  /-- Reports that listeners brought about and that are for other mailboxes. -/
  elsewhere : List (Reporter × Report) := []

variable {δ σ : Type}

/-- Tells listeners a note. The hardware makes the reports that they bring about through `outlet`;
those for the thread's own mailbox are acts of the handler. -/
def Hall.tell (s : Surroundings δ σ) (outlet : Option Reporter) (own : Nat) (note : Note)
    (h : Hall σ) : Reaction (Hall σ) Crash :=
  let (audience, failure) := h.audience.notify s.behaviour (s.nesting + 1) note
  let made := outlet.elim [] fun r => audience.effects.map fun report => (r, report)
  { state :=
      { h with
        audience := { audience with effects := [] }
        elsewhere := h.elsewhere ++ made.filter fun r => r.1.mailbox != own }
    acts := (made.filter fun r => r.1.mailbox == own).map fun r => .post r.2.signal
    failure }

/-- The handler of the event thread. -/
def Hall.handle (s : Surroundings δ σ) (outlet : Option Reporter) (own : Nat) :
    Handler (Hall σ) Crash := fun _ delivery h =>
  match delivery with
  | .status code =>
    match Transition.ofCode? code with
    | some t => { h with engineOn := t.engineOn }.tell s outlet own (.status t)
    | none => { state := h }
  | .message snapshot =>
    if h.audience.registry.count .message = 0 then { state := h }
    else h.tell s outlet own (.message snapshot.lossyText)
  | .disable => { state := h }

namespace Bridge

variable [Hardware δ]

/-- The reporter through which the driver reports between calls. -/
def outlet (b : Bridge δ σ) : Option Reporter := b.driver.bind Hardware.outlet

/-- Lets the event thread of a session make cycles, at most as many as given, with the enabled
flag as given. -/
def letThreadRun (s : Surroundings δ σ) (enabled : Bool) (limit : Nat) (session : Session)
    (b : Bridge δ σ) : Bridge δ σ × Session :=
  match session.alive, b.mailboxes[session.mailbox]? with
  | true, some mailbox =>
    let (l, ending) := Loop.run (Hall.handle s b.outlet session.mailbox) limit
      { mailbox, consumer := session.consumer, enabled
        state := { audience := b.audience, engineOn := b.engineOn } }
    ({ b with
        audience := l.state.audience
        engineOn := l.state.engineOn
        mailboxes := reportAll (b.mailboxes.set session.mailbox l.mailbox) l.state.elsewhere },
      { session with
        consumer := l.consumer
        alive := match ending with
          | .failed _ => false
          | _ => true })
  | _, _ => (b, session)

/-- Lets the event thread of the current session dispatch what has arrived. -/
def settle (s : Surroundings δ σ) (b : Bridge δ σ) : Bridge δ σ :=
  match b.session with
  | none => b
  | some session =>
    let (b, session) := b.letThreadRun s true (s.patience + 1) session
    { b with session := some session }

/-- Posts a signal to the mailbox with the given number. If it is the current session's, the
event thread dispatches it. -/
def receive (s : Surroundings δ σ) (number : Nat) (signal : Signal) (b : Bridge δ σ) :
    Bridge δ σ :=
  let b := { b with mailboxes := postTo b.mailboxes number signal }
  if b.session.any (·.mailbox == number) then b.settle s else b

/-- Takes in what a call of the driver left behind: its next state, and its reports in order. -/
def absorb (s : Surroundings δ σ) (e : Effects δ) (b : Bridge δ σ) : Bridge δ σ :=
  e.reports.foldl (fun b r => b.receive s r.1.mailbox r.2.signal) { b with driver := some e.driver }

/-- A request to disable through a control, also one that was kept from an earlier session. -/
def requestDisable (s : Surroundings δ σ) (c : Control) (b : Bridge δ σ) : Bridge δ σ :=
  b.receive s c.mailbox .disable

/-- A report that the hardware makes between calls, and whether it had a reporter to make it
with. -/
def interrupt (s : Surroundings δ σ) (report : Report) (b : Bridge δ σ) : Bridge δ σ × Bool :=
  match b.outlet with
  | some r => (b.receive s r.mailbox report.signal, true)
  | none => (b, false)

end Bridge

end SerialBridge
