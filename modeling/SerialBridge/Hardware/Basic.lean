import SerialBridge.Config.Basic
import SerialBridge.Mailbox.Handle

/-!
# Hardware drivers

A driver is told to set itself up, to start and stop a device, to write bytes, and to clean up.
It gets a reporter when it is set up and makes its reports through that.

`Hardware δ` says what a driver with states in `δ` does. A call answers with the driver's next
state and with the reports that are made **while it runs**, each with the reporter it goes
through, in order; the first three calls may be refused with a code. Reports that are made
between calls, say from an interrupt, go through the reporter that `outlet` names.
-/

namespace SerialBridge

/-- How a call of a driver ends. -/
inductive CallResult where
  /-- It succeeded. -/
  | success
  /-- It was refused. -/
  | refused (error : DriverError)
  /-- It ran into a fault. -/
  | fault (cause : Fault)
deriving DecidableEq

/-- What a call leaves behind. -/
structure Effects (δ : Type) where
  /-- The driver afterwards. -/
  driver : δ
  /-- The reports made during the call, in order. -/
  reports : List (Reporter × Report) := []

/-- What a call that may be refused leaves behind. -/
structure Reply (δ : Type) extends Effects δ where
  /-- How the call ended. -/
  result : CallResult := .success

/-- Drivers with states in `δ`. -/
class Hardware (δ : Type) where
  /-- Sets the driver up to report through the reporter. -/
  init : Reporter → δ → Reply δ
  /-- Starts the device of the link. -/
  start : Link → δ → Reply δ
  /-- Stops the device. -/
  stop : δ → Reply δ
  /-- Writes bytes to the device. -/
  send : List UInt8 → δ → Effects δ
  /-- Releases whatever the driver holds. -/
  cleanup : δ → Effects δ
  /-- The reporter that reports between calls go through, if there is one. -/
  outlet : δ → Option Reporter

/-- A refused call that left everything as it was. -/
def Reply.refuse {δ : Type} (driver : δ) (code : Int32) : Reply δ :=
  { driver, result := .refused ⟨code⟩ }

end SerialBridge
