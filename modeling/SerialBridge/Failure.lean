/-!
# What can go wrong

Three levels of failure, from the mildest to the hardest.

* A `DriverError` is the code with which a hardware driver refused a call.
* A `BridgeError` is the answer of an operation of the bridge, and of a listener.
* A `Fault` is a broken precondition: whoever runs into one gets no answer at all.

Every cause is a constructor; its wording stands in one place, the `message` beside the type.
-/

namespace SerialBridge

/-- The code with which a hardware driver refused a call. It is carried through untouched. -/
structure DriverError where
  /-- The raw code of the driver. -/
  code : Int32
deriving DecidableEq

/-- The text of a driver's refusal. -/
def DriverError.message (e : DriverError) : String := s!"driver returned code {e.code.toInt}"

/-- Why an operation of the bridge, or a listener's call, did not succeed. -/
inductive BridgeError where
  /-- Discovery found no hardware. -/
  | interfaceUnavailable
  /-- The driver refused to be set up. -/
  | initializationFailed (code : Int32)
  /-- The driver refused to start the device. -/
  | startFailed (device : String) (code : Int32)
  /-- The driver refused to stop the device. -/
  | stopFailed (code : Int32)
  /-- The operation needs an enabled bridge. -/
  | notEnabled
  /-- The event thread could not be made. -/
  | eventThreadSpawn (reason : String)
  /-- The event thread died of a fault. -/
  | eventThreadPanicked
  /-- A configuration that cannot be read, or a value that cannot be worked with. -/
  | invalidConfig (reason : String)
  /-- A listener is gone and wants to be taken off the list. -/
  | listenerDisconnected
deriving DecidableEq

/-- The text of an error. -/
def BridgeError.message : BridgeError → String
  | .interfaceUnavailable => "no hardware interface available"
  | .initializationFailed code => s!"hardware interface init failed with code {code.toInt}"
  | .startFailed device code => s!"failed to start device {device}: code {code.toInt}"
  | .stopFailed code => s!"failed to stop device: code {code.toInt}"
  | .notEnabled => "bridge is not enabled"
  | .eventThreadSpawn reason => s!"failed to spawn event thread: {reason}"
  | .eventThreadPanicked => "event thread panicked"
  | .invalidConfig reason => s!"invalid configuration: {reason}"
  | .listenerDisconnected => "listener disconnected"

/-- A broken precondition. -/
inductive Fault where
  /-- A buffer without room for a single byte was asked for. -/
  | zeroCapacity
  /-- A second consumer tried to drain a mailbox whose drain is still waiting. -/
  | concurrentDrain
  /-- A thread was to be named by a text that holds a NUL. -/
  | nulInThreadName
deriving DecidableEq

/-- The text of a fault. -/
def Fault.message : Fault → String
  | .zeroCapacity => "Message capacity must be greater than zero"
  | .concurrentDrain => "Concurrent drain! Only one consumer may drain at a time."
  | .nulInThreadName => "thread name may not contain interior null bytes"

/-- How an operation of the bridge ends if it does not succeed. -/
inductive Failure where
  /-- It answers with an error. -/
  | error (cause : BridgeError)
  /-- It runs into a fault. -/
  | fault (cause : Fault)
deriving DecidableEq

end SerialBridge
