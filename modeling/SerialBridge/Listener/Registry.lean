import SerialBridge.Link.Transition

/-!
# The registry of listeners

Listeners come in two kinds, for transitions of the engine and for messages, and the registry
keeps a list of each. A list is an **ordered set by identity**: adding a listener that is on it
changes nothing, and removing one leaves the order of the others alone.
-/

namespace SerialBridge

/-- What a listener listens to. -/
inductive ListenerKind where
  /-- Transitions of the engine. -/
  | status
  /-- Received messages. -/
  | message
deriving DecidableEq, Repr

/-- What a listener is told. -/
inductive Note where
  /-- The engine started or stopped. -/
  | status (transition : Transition)
  /-- A message with this text was received. -/
  | message (text : String)
deriving DecidableEq

/-- The kind of listener that a note is for. -/
def Note.kind : Note → ListenerKind
  | .status _ => .status
  | .message _ => .message

/-- What a listener gets to see of a note. -/
def Note.text : Note → String
  | .status t => t.name
  | .message text => text

/-- The registered listeners of both kinds, by identity, in the order of their registration. -/
structure Registry where
  /-- The status listeners. -/
  status : List String := []
  /-- The message listeners. -/
  message : List String := []
deriving DecidableEq

namespace Registry

/-- The registered listeners of one kind. -/
def entries (r : Registry) : ListenerKind → List String
  | .status => r.status
  | .message => r.message

/-- Replaces the list of one kind. -/
def withEntries (r : Registry) (k : ListenerKind) (l : List String) : Registry :=
  match k with
  | .status => { r with status := l }
  | .message => { r with message := l }

/-- Puts a listener at the end of its list, unless it is on it. -/
def add (r : Registry) (k : ListenerKind) (id : String) : Registry :=
  if id ∈ r.entries k then r else r.withEntries k (r.entries k ++ [id])

/-- Takes a listener off its list. -/
def remove (r : Registry) (k : ListenerKind) (id : String) : Registry :=
  r.withEntries k ((r.entries k).filter (· ≠ id))

/-- The number of registered listeners of one kind. -/
def count (r : Registry) (k : ListenerKind) : Nat := (r.entries k).length

/-! ### The lists after each operation -/

@[simp] theorem entries_withEntries_self (r : Registry) (k : ListenerKind) (l : List String) :
    (r.withEntries k l).entries k = l := by
  cases k <;> rfl

theorem entries_withEntries_of_ne (r : Registry) {j k : ListenerKind} (h : j ≠ k)
    (l : List String) : (r.withEntries j l).entries k = r.entries k := by
  cases j <;> cases k <;> first | rfl | exact absurd rfl h

theorem entries_add_self (r : Registry) (k : ListenerKind) (id : String) :
    (r.add k id).entries k
      = if id ∈ r.entries k then r.entries k else r.entries k ++ [id] := by
  unfold add
  split <;> simp

theorem entries_remove_self (r : Registry) (k : ListenerKind) (id : String) :
    (r.remove k id).entries k = (r.entries k).filter (· ≠ id) := by
  simp [remove]

theorem entries_add_of_ne (r : Registry) {j k : ListenerKind} (h : j ≠ k) (id : String) :
    (r.add j id).entries k = r.entries k := by
  unfold add
  split
  · rfl
  · exact entries_withEntries_of_ne r h _

theorem entries_remove_of_ne (r : Registry) {j k : ListenerKind} (h : j ≠ k) (id : String) :
    (r.remove j id).entries k = r.entries k :=
  entries_withEntries_of_ne r h _

end Registry

end SerialBridge
