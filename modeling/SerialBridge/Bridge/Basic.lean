import SerialBridge.Config.Basic
import SerialBridge.Dispatch.Loop
import SerialBridge.Hardware.Basic
import SerialBridge.Listener.Conduct

/-!
# The bridge

A `Bridge` connects a driver with an audience of listeners. It is **disabled** at first. Enabling
it opens a `Session`, with a mailbox and an event thread of its own; disabling it closes the
session, and nothing of that session is ever used again.

What a bridge cannot know beforehand stands in its `Surroundings`: what discovery finds, whether
the event thread can be made, what listeners do. The dealings with discovery and the driver are
kept as a list of `Contact`s.
-/

namespace SerialBridge

/-- One dealing of the bridge with discovery or with the driver. -/
inductive Contact where
  /-- Discovery ran, and found a driver or did not. -/
  | discovery (found : Bool)
  /-- The driver was set up, with this result. -/
  | init (reporter : Reporter) (result : CallResult)
  /-- The driver was told to start a device. -/
  | start (link : Link)
  /-- The driver was told to stop. -/
  | stop
  /-- The driver was told to clean up. -/
  | cleanup
  /-- The driver was given bytes to send. -/
  | send (bytes : List UInt8)
deriving DecidableEq

/-- What a bridge with drivers in `δ` and listeners' memory in `σ` finds around it. -/
structure Surroundings (δ σ : Type) where
  /-- What each run of discovery finds. -/
  discover : Nat → Option δ
  /-- Why each attempt to make an event thread fails, if it fails. -/
  spawnFailure : Nat → Option String := fun _ => none
  /-- What listeners do. A listener may make the hardware report. -/
  behaviour : Behaviour σ Report
  /-- How deep notifications may nest in one another. -/
  nesting : Nat := 0
  /-- How many further cycles the event thread gets to make after a report before the bridge goes
  on. -/
  patience : Nat := 0

/-- What exists from one enabling to the next disabling. -/
structure Session where
  /-- The number of the session's mailbox. -/
  mailbox : Nat
  /-- The consumer of that mailbox. -/
  consumer : Consumer
  /-- Whether the event thread is still there. -/
  alive : Bool := true
deriving DecidableEq

/-- A bridge with a driver in `δ` and listeners' memory in `σ`. -/
structure Bridge (δ σ : Type) where
  /-- Its configuration. -/
  config : ValidConfig
  /-- The registered listeners. -/
  audience : Audience σ Report
  /-- The driver, once discovery has found one. -/
  driver : Option δ := none
  /-- Whether the latest transition of the engine was a start, and the bridge was not disabled
  since. -/
  engineOn : Bool := false
  /-- The session, if the bridge is enabled. -/
  session : Option Session := none
  /-- All mailboxes made so far, also those of former sessions. -/
  mailboxes : List Mailbox := []
  /-- How often discovery ran. -/
  discoveries : Nat := 0
  /-- How often an event thread was to be made. -/
  spawns : Nat := 0
  /-- The dealings with discovery and the driver, in order. -/
  contacts : List Contact := []

namespace Bridge

variable {δ σ : Type}

/-- A disabled bridge without listeners. -/
def ofConfig (config : ValidConfig) (memory : σ) : Bridge δ σ :=
  { config, audience := { memory } }

/-- Whether the bridge has a session. -/
def isEnabled (b : Bridge δ σ) : Bool := b.session.isSome

/-- The counters of the session's mailbox. -/
def tally (b : Bridge δ σ) : Option Tally := do
  let s ← b.session
  let m ← b.mailboxes[s.mailbox]?
  return m.tally

/-- The control of the session. -/
def control (b : Bridge δ σ) : Option Control := b.session.map fun s => ⟨s.mailbox⟩

/-- Notes a dealing. -/
def note (b : Bridge δ σ) (c : Contact) : Bridge δ σ := { b with contacts := b.contacts ++ [c] }

/-- Registers a listener. -/
def addListener (b : Bridge δ σ) (kind : ListenerKind) (id : String) : Bridge δ σ :=
  { b with audience := { b.audience with registry := b.audience.registry.add kind id } }

/-- Takes a listener off its list and says whether it was on it. -/
def removeListener (b : Bridge δ σ) (kind : ListenerKind) (id : String) : Bridge δ σ × Bool :=
  ({ b with audience := { b.audience with registry := b.audience.registry.remove kind id } },
    decide (id ∈ b.audience.registry.entries kind))

/-- Looks for a driver, unless one has been found before. -/
def discover (s : Surroundings δ σ) (b : Bridge δ σ) : Bridge δ σ × Option δ :=
  match b.driver with
  | some d => (b, some d)
  | none =>
    let found := s.discover b.discoveries
    ({ b with driver := found, discoveries := b.discoveries + 1 }.note (.discovery found.isSome),
      found)

/-- Whether there is a driver to work with. -/
def isSupported (s : Surroundings δ σ) (b : Bridge δ σ) : Bridge δ σ × Bool :=
  let (b, driver) := b.discover s
  (b, driver.isSome)

end Bridge

end SerialBridge
