import SerialBridge.Message.Snapshot

/-!
# Views

A `View` is the consumer's own copy of what one drain took. It is **reused** from drain to drain:
a reset clears what can be read and leaves the message's storage in place, so a view that has
served before differs from a fresh one only in stale bytes.
-/

namespace SerialBridge

/-- A consumer's copy of what a drain took. -/
structure View where
  /-- The status that was pending, if one was. -/
  status : Option Int32 := none
  /-- Room for the message. -/
  message : Snapshot
  /-- Whether a message was pending. -/
  hasMessage : Bool := false
deriving DecidableEq

namespace View

/-- An empty view with room for messages of the given length. -/
def blank (capacity : Nat) (h : 0 < capacity) : View := { message := .blank capacity h }

/-- An empty view of that capacity, or the fault of asking for no room at all. -/
def ofCapacity (capacity : Nat) : Except Fault View :=
  (Snapshot.ofCapacity capacity).map fun s => { message := s }

/-- The message that was pending, if one was. -/
def message? (v : View) : Option Snapshot := if v.hasMessage then some v.message else none

/-- The first bytes of the message, at most `limit` of them; none if no message was pending. -/
def latest (v : View) (limit : Nat) : List UInt8 := ((v.message?).map (·.latest limit)).getD []

/-- The message as text. -/
def lossyText? (v : View) : Option String := (v.message?).map (·.lossyText)

/-- Forgets what can be read. -/
def reset (v : View) : View := { message := v.message.clear }

/-- The fields in words. -/
def describe (v : View) : String :=
  let status := match v.status with
    | some code => s!"Some(Status({code.toInt}))"
    | none => "None"
  s!"DrainView \x7b status: {status}, message: {v.message.describe}, " ++
    s!"has_message: {v.hasMessage} \x7d"

end View

end SerialBridge
