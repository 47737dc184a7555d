import SerialBridge.Hardware.Basic
import SerialBridge.Hardware.Channel
import SerialBridge.Link.Transition

/-!
# The loopback driver

A driver without hardware. Starting it makes a **device**, a thread that reports that the engine is
on, then reports every byte string it is sent as a received message, and in the end reports that the
engine is off. A device keeps the reporter that the driver held when it was started; what happens to
the driver's own reporter afterwards does not concern it.

The driver and the thread share a channel and nothing else. `Device.step` is one step of the thread,
and `Device.receive` the loop in it: it goes on as long as it gets bytes, and anything else ends it.
There are two ways to end it. Stopping sends `Instruction.shutdown`; cleaning up gives up the
sender, so that the thread finds the channel disconnected. Either way the driver then waits for the
thread, which is to let it run out (`Device.runOut`). That it does come to its end in this, and what
it has reported by then, is a matter of the channel and is proved, not built in.

Each of setting up, starting and stopping can be scripted to be refused. The order of the checks
is fixed: the scripted code first, then the state of the driver, then the name of the device's
thread, and last the system may refuse to make the thread, of which `threads` tells. A refused call
changes nothing.

`LoopbackOver κ` is the driver over channels in `κ`; `Loopback` is the one that runs.
-/

namespace SerialBridge

/-- The code of a start before the driver was set up. -/
def errNotInitialized : Int32 := -1

/-- The code of a start while a device runs, and of one for which no thread can be made. -/
def errBusy : Int32 := -16

/-- The code of a stop while no device runs. -/
def errNotRunning : Int32 := -19

/-! ### Devices -/

/-- A device of the loopback driver: its thread, and the channel through which it is told what to
do. -/
structure Device (κ : Type) where
  /-- Where it reports. -/
  reporter : Reporter
  /-- Whether it has reported that the engine is on. -/
  announced : Bool := false
  /-- Whether its thread has come to an end. -/
  ended : Bool := false
  /-- The channel to it. -/
  channel : κ
deriving DecidableEq

/-- What some steps of a device come to. -/
structure Course (κ : Type) where
  /-- The device afterwards. -/
  device : Device κ
  /-- The reports made in these steps, in order. -/
  reports : List Report := []
  /-- The number of bytes echoed in these steps. -/
  echoed : UInt64 := 0

/-- Some steps and those after them. -/
def Course.followedBy {κ : Type} (first next : Course κ) : Course κ where
  device := next.device
  reports := first.reports ++ next.reports
  echoed := first.echoed + next.echoed

namespace Device

variable {κ : Type} [Channel κ]

/-- One turn of the loop in which the thread receives. -/
def receive (d : Device κ) : Course κ :=
  match Channel.receive d.channel with
  | .waits => { device := d }
  | .instruction (.bytes bytes) rest =>
    { device := { d with channel := rest }
      reports := [.message bytes]
      echoed := UInt64.ofNat bytes.length }
  | .instruction .shutdown rest =>
    { device := { d with channel := rest, ended := true }
      reports := [.status statusEngineOff] }
  | .disconnected =>
    { device := { d with ended := true }
      reports := [.status statusEngineOff] }

/-- One step of the thread. -/
def step (d : Device κ) : Course κ :=
  if d.ended then { device := d }
  else if d.announced then d.receive
  else
    { device := { d with announced := true }
      reports := [.status statusEngineOn] }

/-- That many steps of the thread. -/
def run : Nat → Device κ → Course κ
  | 0, d => { device := d }
  | n + 1, d => d.step.followedBy (run n d.step.device)

/-- As many steps as a device can have to make without being told more: one to report the start, one
for each instruction that waits, and one to learn that no more will come. -/
def runOut (d : Device κ) : Course κ := d.run (Channel.length d.channel + 2)

/-- Tells the device something. A thread that has ended has left the channel, and what it is told is
dropped. -/
def tell (i : Instruction) (d : Device κ) : Device κ :=
  if d.ended then d else { d with channel := Channel.send i d.channel }

/-- Gives up the sender of the channel to the device. -/
def release (d : Device κ) : Device κ := { d with channel := Channel.disconnect d.channel }

end Device

/-! ### The driver -/

/-- The loopback driver over channels in `κ`. -/
structure LoopbackOver (κ : Type) where
  /-- The code with which setting up is refused, if it is. -/
  failInit : Option Int32 := none
  /-- The code with which starting is refused, if it is. -/
  failStart : Option Int32 := none
  /-- The code with which stopping is refused, if it is. -/
  failStop : Option Int32 := none
  /-- Whether the system makes the next threads that it will be asked for. It makes those of which
  nothing is said here. -/
  threads : List Bool := []
  /-- The reporter that the next device will get. -/
  reporter : Option Reporter := none
  /-- The device, if one runs. -/
  device : Option (Device κ) := none
  /-- The number of bytes echoed so far. -/
  echoed : UInt64 := 0
deriving DecidableEq

namespace LoopbackOver

variable {κ : Type}

/-- Whether a device runs. -/
def isRunning (l : LoopbackOver κ) : Bool := l.device.isSome

/-- Sets the driver up. -/
def init (r : Reporter) (l : LoopbackOver κ) : Reply (LoopbackOver κ) :=
  match l.failInit with
  | some code => .refuse l code
  | none => { driver := { l with reporter := some r } }

variable [Channel κ]

/-- Asks the system for the thread of a device. -/
def spawn (reporter : Reporter) (l : LoopbackOver κ) : Reply (LoopbackOver κ) :=
  let asked := { l with threads := l.threads.tail }
  if l.threads.headD true then
    { driver := { asked with device := some { reporter, channel := Channel.fresh } } }
  else .refuse asked errBusy

/-- Makes a device. Its thread is named after the device of the link. -/
def launch (link : Link) (l : LoopbackOver κ) : Reply (LoopbackOver κ) :=
  match l.failStart, l.device, l.reporter with
  | some code, _, _ => .refuse l code
  | none, some _, _ => .refuse l errBusy
  | none, none, none => .refuse l errNotInitialized
  | none, none, some reporter =>
    if '\x00' ∈ link.device.toList then { driver := l, result := .fault .nulInThreadName }
    else l.spawn reporter

/-- Sends bytes to the device. Without a device they are dropped. -/
def enqueue (bytes : List UInt8) (l : LoopbackOver κ) : LoopbackOver κ :=
  { l with device := l.device.map (·.tell (.bytes bytes)) }

/-- What steps of the device come to for the driver. -/
def follow (l : LoopbackOver κ) (course : Course κ) : Effects (LoopbackOver κ) where
  driver := { l with device := some course.device, echoed := l.echoed + course.echoed }
  reports := course.reports.map (course.device.reporter, ·)

/-- Lets the device make one step. -/
def workOne (l : LoopbackOver κ) : Effects (LoopbackOver κ) :=
  l.device.elim { driver := l } fun d => l.follow d.step

/-- Lets the device work off all that it was told. -/
def workOff (l : LoopbackOver κ) : Effects (LoopbackOver κ) :=
  l.device.elim { driver := l } fun d => l.follow d.runOut

/-- Waits for the thread of a device that is the driver's no longer. -/
def join (d : Device κ) (l : LoopbackOver κ) : Effects (LoopbackOver κ) :=
  let ended := l.follow d.runOut
  { ended with driver := { ended.driver with device := none } }

/-- Stops the device: it is told to shut down and waited for. -/
def stop (l : LoopbackOver κ) : Reply (LoopbackOver κ) :=
  match l.failStop, l.device with
  | some code, _ => .refuse l code
  | none, none => .refuse l errNotRunning
  | none, some d => { l.join (d.tell .shutdown) with }

/-- Gives up the sender to the device, if one runs, and waits for it. Then the reporter is given
up. -/
def cleanup (l : LoopbackOver κ) : Effects (LoopbackOver κ) :=
  let ended := l.device.elim { driver := l } fun d => l.join d.release
  { ended with driver := { ended.driver with reporter := none } }

/-- Starts a device and lets it report. -/
def start (link : Link) (l : LoopbackOver κ) : Reply (LoopbackOver κ) :=
  let made := l.launch link
  match made.result with
  | .success => { made.driver.workOff with }
  | _ => made

/-- Sends bytes and lets the device echo them. -/
def send (bytes : List UInt8) (l : LoopbackOver κ) : Effects (LoopbackOver κ) :=
  (l.enqueue bytes).workOff

end LoopbackOver

/-- The loopback driver that runs. -/
abbrev Loopback := LoopbackOver InstructionQueue

instance {κ : Type} [Channel κ] : Hardware (LoopbackOver κ) where
  init := LoopbackOver.init
  start := LoopbackOver.start
  stop := LoopbackOver.stop
  send := LoopbackOver.send
  cleanup := LoopbackOver.cleanup
  outlet := LoopbackOver.reporter

end SerialBridge
