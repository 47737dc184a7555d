import SerialBridge.Listener.Conduct
import SerialBridge.Mailbox.Basic

/-!
# Scripted listeners

Listeners whose behaviour is written down beforehand. Each has a `Part`: one `Turn` for its
first call, one for the second, and so on, and one for all calls after those. In a turn a
listener does its deeds in order, then returns or breaks off.

The listeners' common memory counts the calls of each and keeps a log, in which a deed is entered
together with its answer once it is done.
-/

namespace SerialBridge.Scripted

/-- Something that a scripted listener does. -/
inductive Deed where
  /-- Adds a listener. -/
  | add (kind : ListenerKind) (id : String)
  /-- Removes a listener. -/
  | remove (kind : ListenerKind) (id : String)
  /-- Notifies status listeners of the transition with this code, if there is one. -/
  | notifyStatus (code : Int32)
  /-- Notifies message listeners. -/
  | notifyMessage (text : String)
  /-- Counts the listeners of both kinds. -/
  | counts
  /-- Has the hardware make a report. -/
  | report (report : Report)
deriving DecidableEq

/-- The answer to a deed. -/
inductive Answer where
  /-- There is none. -/
  | nothing
  /-- Yes or no. -/
  | flag (value : Bool)
  /-- The status code is not that of a transition. -/
  | unknownCode
deriving DecidableEq

/-- What a listener does in one call. -/
structure ListenerTurn where
  /-- The deeds, in order. -/
  deeds : List Deed := []
  /-- The error with which it returns, if it returns with one. -/
  failure : Option BridgeError := none
  /-- Whether it breaks off instead of returning. -/
  panics : Bool := false

/-- What a listener does in all its calls. -/
structure Part where
  /-- The turns of the first calls. -/
  turns : List ListenerTurn := []
  /-- The turn of every later call. -/
  afterwards : ListenerTurn := {}

/-- A line in the log of scripted listeners. -/
inductive LogLine where
  /-- The listener was told a note. -/
  | heard (id : String) (note : Note)
  /-- The listener did a deed. -/
  | did (id : String) (deed : Deed) (answer : Answer)
deriving DecidableEq

/-- The common memory of scripted listeners. -/
structure Memory where
  /-- Who was called, most recent call first. -/
  calls : List (ListenerKind × String) := []
  /-- What happened, in order. -/
  log : List LogLine := []
  /-- The answer to the latest deed. -/
  answer : Answer := .nothing

/-- The parts of all listeners. -/
abbrev Cast := List ((ListenerKind × String) × Part)

/-- Does a deed and goes on with its answer. -/
def Deed.conduct (next : Answer → Conduct Memory Report) : Deed → Conduct Memory Report
  | .add kind id => .add kind id fun b => next (.flag b)
  | .remove kind id => .remove kind id fun b => next (.flag b)
  | .notifyStatus code =>
    match Transition.ofCode? code with
    | some t => .notify (.status t) (next .nothing)
    | none => next .unknownCode
  | .notifyMessage text => .notify (.message text) (next .nothing)
  | .counts => .count .status fun _ => .count .message fun _ => next .nothing
  | .report r => .effect r (next .nothing)

/-- Does a deed by itself and leaves its answer in the memory. -/
def Deed.alone (d : Deed) : Conduct Memory Report :=
  d.conduct fun answer => .recall fun m => .remember { m with answer } (.finish none)

/-- Does the deeds of a turn, logging each, and then returns or breaks off. -/
def ListenerTurn.conduct (t : ListenerTurn) (id : String) : Conduct Memory Report :=
  t.deeds.foldr
    (fun d next => d.conduct fun answer => .recall fun m =>
      .remember { m with log := m.log ++ [.did id d answer], answer } next)
    (if t.panics then .panic else .finish t.failure)

/-- The turn of a listener that has been called that often before. -/
def Part.turn (p : Part) (callsBefore : Nat) : ListenerTurn :=
  p.turns[callsBefore]?.getD p.afterwards

/-- The behaviour of scripted listeners: each logs that it was called and plays its next turn. -/
def behaviour (cast : Cast) : Behaviour Memory Report := fun id note =>
  let who := (note.kind, id)
  .recall fun m =>
    .remember { m with calls := who :: m.calls, log := m.log ++ [.heard id note] }
      ((((cast.lookup who).getD {}).turn (m.calls.count who)).conduct id)

end SerialBridge.Scripted
