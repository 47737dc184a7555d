import SerialBridge.Config.Basic
import SerialBridge.Toml.Library

/-!
# Configuration documents

A configuration is written as a TOML document:

```
event_thread_name = "SerialEventThread"

[link]
device = "/dev/ttyS0"
baud = 115200

[mailbox]
message_capacity = 1024
```

The two groups of settings are records within the record of all settings. Every setting may be left
out and then has its default, and so may a group. What is declared here is which fields these
records have; reading them is the business of the library.

`Config.parse` reads and validates. A document whose settings have the wrong type or range is as
malformed as one that is no TOML at all, and only a configuration without such a defect is
validated.
-/

namespace SerialBridge.Config

open Toml

variable (library : Library)

/-- The device of a link. -/
def deviceField : Field library.Value Link :=
  ⟨"device", fun v => (library.text? v).map fun device link => { link with device }⟩

/-- The line speed of a link. -/
def baudField : Field library.Value Link :=
  ⟨"baud", fun v => (library.word? v).map fun baud link => { link with baud }⟩

/-- The capacity of the mailbox, which is all that there is to set of it. -/
def capacityField : Field library.Value Nat :=
  ⟨"message_capacity", fun v => (library.size? v).map fun capacity _ => capacity⟩

/-- Reads the settings of a link. -/
def link? (v : library.Value) : Option Link :=
  library.record? {} [deviceField library, baudField library] v

/-- Reads the settings of the mailbox. -/
def capacity? (v : library.Value) : Option Nat :=
  let standard : Config := {}
  library.record? standard.messageCapacity [capacityField library] v

/-- The settings of the link among all settings. -/
def linkField : Field library.Value Config :=
  ⟨"link", fun v => (link? library v).map fun link c => { c with link }⟩

/-- The settings of the mailbox among all settings. -/
def mailboxField : Field library.Value Config :=
  ⟨"mailbox", fun v =>
    (capacity? library v).map fun messageCapacity c => { c with messageCapacity }⟩

/-- The name of the event thread. -/
def threadNameField : Field library.Value Config :=
  ⟨"event_thread_name", fun v =>
    (library.text? v).map fun eventThreadName c => { c with eventThreadName }⟩

/-- Reads all settings. -/
def config? (v : library.Value) : Option Config :=
  library.record? {} [linkField library, mailboxField library, threadNameField library] v

/-- Reads a configuration from a document. -/
def decode? (text : String) : Option Config :=
  (library.document? text).bind (config? library)

/-- Reads a configuration and validates it. -/
def parse (text : String) : Except ConfigProblem ValidConfig :=
  match decode? library text with
  | some c => c.validate
  | none => .error .malformed

end SerialBridge.Config
