import SerialBridge.Failure
import SerialBridge.File.Reader
import SerialBridge.Text.Blank

/-!
# Configuration

Which device to open and how fast, how long a message may be, and what the event thread is
called. Every setting has a default.

A configuration that can be read may still be one that cannot be worked with. `Config.problem?`
names the **first** setting that is at fault, in the order capacity, baud rate, device, thread
name; a `ValidConfig` has none.
-/

namespace SerialBridge

/-- A serial device and its line speed. -/
structure Link where
  /-- The device to open. -/
  device : String := "/dev/ttyS0"
  /-- The line speed in baud. -/
  baud : UInt32 := 115200
deriving DecidableEq

/-- The settings of a bridge. -/
structure Config where
  /-- The link that is opened when no other is named. -/
  link : Link := {}
  /-- The longest message that is kept, in bytes. -/
  messageCapacity : Nat := 1024
  /-- The name of the event thread. -/
  eventThreadName : String := "SerialEventThread"
deriving DecidableEq

/-- What is wrong with a configuration. -/
inductive ConfigProblem where
  /-- The file cannot be read. -/
  | unreadable (path : String) (cause : ReadFailure)
  /-- The document is malformed, or a value has the wrong type or range. -/
  | malformed
  /-- There is no room for messages. -/
  | zeroMessageCapacity
  /-- The line speed is zero. -/
  | zeroBaud
  /-- The device's name has nothing but blanks. -/
  | blankDevice
  /-- The event thread has no name. -/
  | emptyThreadName
deriving DecidableEq

/-- The wording of a problem. -/
def ConfigProblem.reason : ConfigProblem → String
  | .unreadable path cause => s!"failed to read {path}: {cause.message}"
  | .malformed => "TOML parse error"
  | .zeroMessageCapacity => "mailbox.message_capacity must be greater than zero"
  | .zeroBaud => "link.baud must be greater than zero"
  | .blankDevice => "link.device must not be empty"
  | .emptyThreadName => "event_thread_name must not be empty"

/-- A problem with a configuration as an error of the bridge. -/
def ConfigProblem.error (p : ConfigProblem) : BridgeError := .invalidConfig p.reason

namespace Config

/-- The first setting that cannot be worked with, if there is one. -/
def problem? (c : Config) : Option ConfigProblem :=
  if c.messageCapacity = 0 then some .zeroMessageCapacity
  else if c.link.baud = 0 then some .zeroBaud
  else if isBlankText c.link.device then some .blankDevice
  else if c.eventThreadName.isEmpty then some .emptyThreadName
  else none

/-- Whether every setting can be worked with. -/
def Valid (c : Config) : Prop := c.problem? = none

instance (c : Config) : Decidable c.Valid := inferInstanceAs (Decidable (c.problem? = none))

theorem valid_iff {c : Config} :
    c.Valid ↔ c.messageCapacity ≠ 0 ∧ c.link.baud ≠ 0 ∧ isBlankText c.link.device = false ∧
      c.eventThreadName.isEmpty = false := by
  unfold Valid problem?
  split <;> try split <;> try split <;> try split
  all_goals simp_all

theorem Valid.capacity_pos {c : Config} (h : c.Valid) : 0 < c.messageCapacity :=
  Nat.pos_of_ne_zero (valid_iff.1 h).1

end Config

/-- A configuration with which a bridge can be made. -/
structure ValidConfig extends Config where
  /-- No setting is at fault. -/
  valid : toConfig.Valid

/-- Accepts a configuration, or names the first setting that is at fault. -/
def Config.validate (c : Config) : Except ConfigProblem ValidConfig :=
  match h : c.problem? with
  | none => .ok { c with valid := h }
  | some p => .error p

theorem Config.validate_of_some {c : Config} {p : ConfigProblem} (h : c.problem? = some p) :
    c.validate = .error p := by
  rw [validate]
  split
  next h' => rw [h] at h'; cases h'
  next h' => rw [h] at h'; cases h'; rfl

theorem Config.validate_of_none {c : Config} (h : c.problem? = none) :
    c.validate = .ok { c with valid := h } := by
  rw [validate]
  split
  next => rfl
  next h' => rw [h] at h'; cases h'

end SerialBridge
