import SerialBridge.Dispatch.Loop

/-!
# Scripted handlers

A handler whose behaviour is written down beforehand, one turn per callback, and which keeps a
log of what it was called with. A script that is over goes on with turns in which nothing is
done.

A loop under a scripted handler has nobody else to post to its mailbox, so it would wait for
ever on an empty one. A **supervised** script steps in: when a cycle comes to its end with
nothing pending and without ending the loop, it clears the enabled flag and asks for a disable.
`HandlerScript.run` does the same when nothing is pending at the outset.
-/

namespace SerialBridge.Scripted

/-- What a scripted handler does in one callback. -/
structure HandlerTurn where
  /-- The acts, in order. -/
  acts : List Act := []
  /-- The failure it returns afterwards. -/
  failure : Option String := none

/-- An entry in the log of a scripted handler. -/
inductive HandlerEvent where
  /-- Called with a status. -/
  | status (code : Int32)
  /-- Called with a message of these bytes. -/
  | message (bytes : List UInt8)
  /-- Called with a disable request. -/
  | disable
  /-- The loop would have waited for ever. -/
  | stalled
deriving DecidableEq

/-- The log entry for a callback. -/
def HandlerEvent.ofDelivery : Delivery → HandlerEvent
  | .status code => .status code
  | .message s => .message s.bytes
  | .disable => .disable

/-- The state of a scripted handler: the turns to come, and the log so far. -/
structure HandlerScript where
  /-- The turns to come. -/
  turns : List HandlerTurn := []
  /-- What happened, in order. -/
  log : List HandlerEvent := []

namespace HandlerScript

/-- Plays the next turn and logs the callback. -/
def play : Handler HandlerScript String := fun _ d s =>
  let turn := s.turns.headD {}
  { state := { turns := s.turns.tail, log := s.log ++ [.ofDelivery d] }
    acts := turn.acts
    failure := turn.failure }

/-- Logs what carries a value and pays no heed to disable requests. -/
def listen : Handler HandlerScript String := fun _ d s =>
  match d with
  | .disable => { state := s }
  | d => { state := { s with log := s.log ++ [.ofDelivery d] } }

/-- The acts that end a loop which would wait for ever. -/
def rescue : List Act := [.setEnabled false, .post .disable]

/-- Whether the loop comes to rest: the mailbox is empty, and a cycle that took these kinds does
not end the loop. -/
def atRest (drained : PendingSet) (mailbox : Mailbox) (enabled : Bool) : Bool :=
  !mailbox.hasPending && !(drained.contains .disable && !enabled)

/-- Plays the next turn as `play` does. Where the last callback of a cycle leaves the loop at
rest, the loop is rescued. -/
def supervise : Handler HandlerScript String := fun scene d s =>
  let r := play scene d s
  let mailbox := r.acts.foldl Mailbox.perform scene.mailbox
  let enabled := r.acts.foldl Act.flag scene.enabled
  if scene.remaining.isEmpty && r.failure.isNone && atRest scene.drained mailbox enabled then
    { r with
      state := { r.state with log := r.state.log ++ [.stalled] }
      acts := r.acts ++ rescue }
  else r

/-- A number of cycles that no supervised run of these turns exceeds: every act may bring about
one cycle and undo one rescue. -/
def limit (turns : List HandlerTurn) : Nat := 2 * (turns.flatMap (·.acts)).length + 4

/-- Runs the loop under supervision. -/
def run (l : Loop HandlerScript) : Loop HandlerScript × RunEnd String :=
  let fuel := limit l.state.turns
  if l.mailbox.hasPending || l.mailbox.isDraining then l.run supervise fuel
  else
    let l := { l with state := { l.state with log := l.state.log ++ [.stalled] } }
    (rescue.foldl Loop.perform l).run supervise fuel

end HandlerScript

end SerialBridge.Scripted
