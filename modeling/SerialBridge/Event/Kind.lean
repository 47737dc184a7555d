/-!
# Event kinds

A mailbox between a serial driver and its listeners knows three kinds of event: the driver's
status changed, a message arrived, somebody asked for the bridge to be taken down. The order
in which they are dispatched is fixed, whatever order they arrived in: **status before message
before disable**. Each kind owns one bit, and only the first two carry a payload.
-/

namespace SerialBridge

/-- The kinds of event that can be pending in a mailbox. -/
inductive EventKind where
  /-- The driver reported a status code. -/
  | status
  /-- The driver reported received bytes. -/
  | message
  /-- Somebody asked the consumer to look at its enabled flag. -/
  | disable
deriving DecidableEq, Repr

namespace EventKind

/-- Every kind once, in the order in which a cycle dispatches them. -/
def dispatchOrder : List EventKind := [.status, .message, .disable]

/-- The bit that stands for the kind in a set of pending kinds. -/
def bit : EventKind → BitVec 3
  | .status => 1
  | .message => 2
  | .disable => 4

/-- Whether an event of the kind comes with a value. -/
def carriesPayload : EventKind → Bool
  | .status => true
  | .message => true
  | .disable => false

/-- The kind's name, as it stands in the text of a set. -/
def name : EventKind → String
  | .status => "Status"
  | .message => "Message"
  | .disable => "Disable"

theorem mem_dispatchOrder (k : EventKind) : k ∈ dispatchOrder := by cases k <;> decide

theorem nodup_dispatchOrder : dispatchOrder.Nodup := by decide

end EventKind

end SerialBridge
