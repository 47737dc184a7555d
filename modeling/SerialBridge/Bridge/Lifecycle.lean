import SerialBridge.Bridge.EventThread

/-!
# Enabling, starting, stopping, disabling

```
            enable                        start
  disabled ────────▶ enabled ──────────────────────▶ started
      ▲                 │                               │
      │     disable     │             stop              │
      └─────────────────┴───────────────────────────────┘
```

Enabling sets the driver up with the reporter of a **fresh mailbox** and then makes the event
thread; a failure on the way leaves the bridge disabled. Disabling clears the enabled flag, posts
a disable request, waits for the thread and has the driver clean up, and does so even if the
thread has died. Stopping tells the driver to stop **before** it disables the bridge, so that the
driver's last status still reaches listeners; it disables the bridge even if the driver refuses.
-/

namespace SerialBridge.Bridge

variable {δ σ : Type} [Hardware δ]

/-- What an operation answers. -/
abbrev Outcome := Except Failure Unit

/-- The outcome of a call of the driver, given the error that a refusal becomes. -/
def outcome (refusal : Int32 → BridgeError) : CallResult → Outcome
  | .success => .ok ()
  | .refused e => .error (.error (refusal e.code))
  | .fault f => .error (.fault f)

/-- Has the driver clean up, if there is one. -/
def cleanup (s : Surroundings δ σ) (b : Bridge δ σ) : Bridge δ σ :=
  match b.driver with
  | none => b
  | some d => (b.note .cleanup).absorb s (Hardware.cleanup d)

/-- Makes the event thread for the mailbox with the given number, and with it a session. -/
def openSession (s : Surroundings δ σ) (number : Nat) (mailbox : Mailbox) (b : Bridge δ σ) :
    Bridge δ σ × Outcome :=
  if '\x00' ∈ b.config.eventThreadName.toList then (b, .error (.fault .nulInThreadName))
  else
    let failure := s.spawnFailure b.spawns
    let b := { b with spawns := b.spawns + 1 }
    match failure with
    | some reason => (b.cleanup s, .error (.error (.eventThreadSpawn reason)))
    | none =>
      ({ b with session := some { mailbox := number, consumer := .ofMailbox mailbox } }.settle s,
        .ok ())

/-- Sets the driver up and opens a session. Does nothing if there is one. -/
def enable (s : Surroundings δ σ) (b : Bridge δ σ) : Bridge δ σ × Outcome :=
  if b.isEnabled then (b, .ok ())
  else
    let number := b.mailboxes.length
    let mailbox := Mailbox.blank b.config.messageCapacity b.config.valid.capacity_pos
    let (b, driver) := { b with mailboxes := b.mailboxes ++ [mailbox] }.discover s
    match driver with
    | none => (b, .error (.error .interfaceUnavailable))
    | some d =>
      let reporter := mailbox.reporter number
      let reply := Hardware.init reporter d
      let b := (b.note (.init reporter reply.result)).absorb s reply.toEffects
      match outcome .initializationFailed reply.result with
      | .error e => (b, .error e)
      | .ok () => b.openSession s number mailbox

/-- Closes the session. Does nothing if there is none. -/
def disable (s : Surroundings δ σ) (b : Bridge δ σ) : Bridge δ σ × Outcome :=
  match b.session with
  | none => (b, .ok ())
  | some session =>
    let b := { b with session := none }
    let b := b.receive s session.mailbox .disable
    let (b, session) := b.letThreadRun s false 1 session
    let b := { b with engineOn := false }.cleanup s
    (b, if session.alive then .ok () else .error (.error .eventThreadPanicked))

/-- Enables the bridge and starts the device of a link. -/
def start (s : Surroundings δ σ) (link : Link) (b : Bridge δ σ) : Bridge δ σ × Outcome :=
  match b.enable s with
  | (b, .error e) => (b, .error e)
  | (b, .ok ()) =>
    match b.driver with
    | none => (b, .error (.error .interfaceUnavailable))
    | some d =>
      let reply := Hardware.start link d
      ((b.note (.start link)).absorb s reply.toEffects,
        outcome (.startFailed link.device) reply.result)

/-- Enables the bridge and starts the device of the configured link. -/
def startConfigured (s : Surroundings δ σ) (b : Bridge δ σ) : Bridge δ σ × Outcome :=
  b.start s b.config.link

/-- Stops the device and disables the bridge. If both fail, the answer is the failure to
disable. -/
def stop (s : Surroundings δ σ) (b : Bridge δ σ) : Bridge δ σ × Outcome :=
  if b.isEnabled then
    match b.driver with
    | none => (b, .error (.error .interfaceUnavailable))
    | some d =>
      let reply := Hardware.stop d
      let b := (b.note .stop).absorb s reply.toEffects
      match reply.result with
      | .fault f => (b, .error (.fault f))
      | result =>
        match b.disable s with
        | (b, .error e) => (b, .error e)
        | (b, .ok ()) => (b, outcome .stopFailed result)
  else (b, .error (.error .notEnabled))

/-- Writes bytes to the device. -/
def send (s : Surroundings δ σ) (bytes : List UInt8) (b : Bridge δ σ) : Bridge δ σ × Outcome :=
  if b.isEnabled then
    match b.driver with
    | none => (b, .error (.error .interfaceUnavailable))
    | some d => ((b.note (.send bytes)).absorb s (Hardware.send bytes d), .ok ())
  else (b, .error (.error .notEnabled))

/-- Writes text to the device. -/
def print (s : Surroundings δ σ) (text : String) (b : Bridge δ σ) : Bridge δ σ × Outcome :=
  b.send s (Utf8.encode text)

/-- Closes the session for good. A failure has nobody left to hear of it. -/
def release (s : Surroundings δ σ) (b : Bridge δ σ) : Bridge δ σ := (b.disable s).1

end SerialBridge.Bridge
