import SerialBridge.Mailbox.Basic

/-!
# Handlers

A consumer calls a **handler** once for each kind that a drain took. While it is called, a
handler may itself report to the mailbox, ask for a disable and set the enabled flag; in the end
it succeeds or fails.

A `Handler` is a machine over a state of its own: from the scene in which it is called, the event
and its state it answers with its next state, with what it does and with its failure, if it
fails. What it does is data, a list of `Act`s, which the dispatch loop carries out in order.
-/

namespace SerialBridge

/-- One callback: the event that the handler is called with. -/
inductive Delivery where
  /-- The status at the time of the drain. -/
  | status (code : Int32)
  /-- The message at the time of the drain. -/
  | message (snapshot : Snapshot)
  /-- A disable request was seen. -/
  | disable
deriving DecidableEq

/-- The callback for a kind, with the value that the view holds for it. -/
def View.delivery? (v : View) : EventKind → Option Delivery
  | .status => v.status.map .status
  | .message => (v.message?).map .message
  | .disable => some .disable

/-- The callbacks that a drain gives rise to, in dispatch order. -/
def Drained.deliveries (d : Drained) : List Delivery := d.kinds.toList.filterMap d.view.delivery?

/-- Something a handler does while it is called. -/
inductive Act where
  /-- Posts a signal to the mailbox that is being dispatched. -/
  | post (signal : Signal)
  /-- Sets the enabled flag. -/
  | setEnabled (value : Bool)
deriving DecidableEq

/-- The mailbox after the act. No drain waits while a handler is called, so nobody is woken. -/
def Mailbox.perform (m : Mailbox) : Act → Mailbox
  | .post s => (m.post s).1
  | .setEnabled _ => m

/-- The enabled flag after the act. -/
def Act.flag (enabled : Bool) : Act → Bool
  | .post _ => enabled
  | .setEnabled value => value

/-- What surrounds a callback. -/
structure Scene where
  /-- The kinds that this cycle's drain took. -/
  drained : PendingSet
  /-- The callbacks of this cycle that are still to come. -/
  remaining : List Delivery
  /-- The mailbox at the moment of the call. -/
  mailbox : Mailbox
  /-- The enabled flag at the moment of the call. -/
  enabled : Bool

/-- What a callback comes to. -/
structure Reaction (σ ε : Type) where
  /-- The handler's state afterwards. -/
  state : σ
  /-- What the handler does, in order. -/
  acts : List Act := []
  /-- The failure with which it returns, if it fails. -/
  failure : Option ε := none

/-- A handler with states in `σ` and failures in `ε`. -/
abbrev Handler (σ ε : Type) := Scene → Delivery → σ → Reaction σ ε

end SerialBridge
