import SerialBridge.Mailbox.Basic

/-!
# Handles

Mailboxes are numbered in the order in which they are made, and whoever may post to one holds a
handle with its number. A **reporter**, which drivers get, can only report; a **control** can only
ask for a disable. A handle may outlive the consumer of its mailbox. What is then posted through
it piles up where nobody looks.
-/

namespace SerialBridge

/-- A handle through which a driver reports to a mailbox. -/
structure Reporter where
  /-- The number of the mailbox. -/
  mailbox : Nat
  /-- The longest message that the mailbox keeps. -/
  capacity : Nat
deriving DecidableEq

/-- A handle through which a disable is asked for. -/
structure Control where
  /-- The number of the mailbox. -/
  mailbox : Nat
deriving DecidableEq

/-- What a reporter shows of itself. -/
def Reporter.describe (r : Reporter) : String :=
  s!"EventReporter \x7b message_capacity: {r.capacity} \x7d"

/-- What a control shows of itself. -/
def Control.describe (_ : Control) : String := "ControlChannel \x7b .. \x7d"

/-- The reporter of a mailbox with the given number. -/
def Mailbox.reporter (m : Mailbox) (number : Nat) : Reporter := ⟨number, m.capacity⟩

/-- Posts a signal to the mailbox with that number, if there is one. -/
def postTo (mailboxes : List Mailbox) (number : Nat) (s : Signal) : List Mailbox :=
  mailboxes.modify number fun m => (m.post s).1

/-- Makes reports one after the other, each through its reporter. -/
def reportAll (mailboxes : List Mailbox) (reports : List (Reporter × Report)) : List Mailbox :=
  reports.foldl (fun ms r => postTo ms r.1.mailbox r.2.signal) mailboxes

@[simp] theorem length_postTo (ms : List Mailbox) (n : Nat) (s : Signal) :
    (postTo ms n s).length = ms.length := by
  simp [postTo]

end SerialBridge
