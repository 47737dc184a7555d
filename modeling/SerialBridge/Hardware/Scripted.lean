import SerialBridge.Hardware.Basic

/-!
# Scripted drivers

A driver that does as it was told beforehand: with which codes its calls are refused, and which
reports it makes in them. Zero, and the end of a list of codes, stand for success.
-/

namespace SerialBridge.Scripted

/-- A scripted driver. -/
structure Driver where
  /-- The codes of the calls that set it up. -/
  initCodes : List Int32 := []
  /-- The codes of the calls that start it. -/
  startCodes : List Int32 := []
  /-- The codes of the calls that stop it. -/
  stopCodes : List Int32 := []
  /-- The reports it makes when it is set up. -/
  onInit : List Report := []
  /-- The report it makes when it is started. -/
  onStart : Option Report := none
  /-- The report it makes when it is to stop, whether or not it does. -/
  onStop : Option Report := none
  /-- The report it makes when it cleans up. -/
  onCleanup : Option Report := none
  /-- Whether it reports the bytes it is sent. -/
  echoes : Bool := false
  /-- Whether it keeps its reporter when it cleans up. -/
  keepsReporter : Bool := false
  /-- The reporter it got when it was last set up. -/
  reporter : Option Reporter := none

namespace Driver

/-- Makes reports through the driver's reporter, if it has one. -/
def reports (d : Driver) (l : List Report) : List (Reporter × Report) :=
  match d.reporter with
  | none => []
  | some r => l.map fun report => (r, report)

/-- The result that the next code of a list stands for. -/
def result (codes : List Int32) : CallResult :=
  match codes.headD 0 with
  | 0 => .success
  | code => .refused ⟨code⟩

/-- Plays the next call that sets the driver up. -/
def init (r : Reporter) (d : Driver) : Reply Driver :=
  let result := result d.initCodes
  let d := { d with initCodes := d.initCodes.tail }
  if result = .success then
    let d := { d with reporter := some r }
    { driver := d, reports := d.reports d.onInit }
  else { driver := d, result }

/-- Plays the next call that starts the driver. -/
def start (_ : Link) (d : Driver) : Reply Driver :=
  let result := result d.startCodes
  let d := { d with startCodes := d.startCodes.tail }
  if result = .success then { driver := d, reports := d.reports d.onStart.toList }
  else { driver := d, result }

/-- Plays the next call that stops the driver. -/
def stop (d : Driver) : Reply Driver :=
  { driver := { d with stopCodes := d.stopCodes.tail }
    reports := d.reports d.onStop.toList
    result := result d.stopCodes }

/-- Takes bytes. -/
def send (bytes : List UInt8) (d : Driver) : Effects Driver :=
  { driver := d, reports := if d.echoes then d.reports [.message bytes] else [] }

/-- Cleans up. -/
def cleanup (d : Driver) : Effects Driver :=
  { driver := if d.keepsReporter then d else { d with reporter := none }
    reports := d.reports d.onCleanup.toList }

end Driver

instance : Hardware Driver where
  init := Driver.init
  start := Driver.start
  stop := Driver.stop
  send := Driver.send
  cleanup := Driver.cleanup
  outlet := Driver.reporter

end SerialBridge.Scripted
