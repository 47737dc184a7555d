/-!
# Engine transitions

Of the status codes that a serial driver can report, two say that the engine of the link changed:
`1` that it started and `2` that it stopped. Every other code is carried through the mailbox and
then ignored.
-/

namespace SerialBridge

/-- The status code that says nothing. -/
def statusNone : Int32 := 0

/-- The status code of a started engine. -/
def statusEngineOn : Int32 := 1

/-- The status code of a stopped engine. -/
def statusEngineOff : Int32 := 2

/-- A change of the engine, as status listeners hear of it. -/
inductive Transition where
  /-- The engine started. -/
  | started
  /-- The engine stopped. -/
  | stopped
deriving DecidableEq, Repr

namespace Transition

/-- The status code of the transition. -/
def code : Transition → Int32
  | .started => statusEngineOn
  | .stopped => statusEngineOff

/-- The transition that a status code stands for, if it stands for one. -/
def ofCode? (code : Int32) : Option Transition :=
  if code = statusEngineOn then some .started
  else if code = statusEngineOff then some .stopped
  else none

/-- Whether the engine runs after the transition. -/
def engineOn : Transition → Bool
  | .started => true
  | .stopped => false

/-- The name of the transition. -/
def name : Transition → String
  | .started => "Started"
  | .stopped => "Stopped"

end Transition

end SerialBridge
