/-!
# Tallies

The counters of a mailbox. They are machine words and wrap around.
-/

namespace SerialBridge

/-- The counters of a mailbox. -/
structure Tally where
  /-- Status reports received. -/
  statusReports : UInt64 := 0
  /-- Message reports received. -/
  messageReports : UInt64 := 0
  /-- Disable requests received. -/
  disableRequests : UInt64 := 0
  /-- Reports that replaced a value of their kind before any drain took it. -/
  superseded : UInt64 := 0
  /-- Messages of which the end was cut off. -/
  truncated : UInt64 := 0
  /-- Drains that came to an end. -/
  drains : UInt64 := 0
deriving DecidableEq

end SerialBridge
