import SerialBridge.Bridge.Lifecycle

/-!
# Operations

What can be done to a bridge from outside is an `Operation`: the calls of its owner, requests
through a control, and reports that the hardware makes between calls. `Bridge.perform` carries one
out, `Bridge.answer` is what it answers, and `Bridge.performAll` carries out one after the other.

All signals reach a bridge by `Bridge.receive`, which lets the event thread work. Whatever the
thread and its listeners then do is no business of the driver: two bridges have `SameDealings` if
they have the same configuration, driver, dealings and number of mailboxes, and they are `Alike` if
they also agree on whether there is a session. All that the event thread does leaves a bridge
alike.
-/

namespace SerialBridge

/-- Something that is done to a bridge from outside. -/
inductive Operation where
  /-- Asks whether there is a driver. -/
  | isSupported
  /-- Enables the bridge. -/
  | enable
  /-- Disables the bridge. -/
  | disable
  /-- Starts the device of a link. -/
  | start (link : Link)
  /-- Starts the device of the configured link. -/
  | startConfigured
  /-- Stops the device. -/
  | stop
  /-- Writes bytes. -/
  | send (bytes : List UInt8)
  /-- Writes text. -/
  | print (text : String)
  /-- Registers a listener. -/
  | addListener (kind : ListenerKind) (id : String)
  /-- Takes a listener off its list. -/
  | removeListener (kind : ListenerKind) (id : String)
  /-- Asks for a disable through a control. -/
  | requestDisable (control : Control)
  /-- The hardware makes a report between calls. -/
  | interrupt (report : Report)

/-- What an operation answers. -/
inductive Answer where
  /-- It answers nothing. -/
  | nothing
  /-- It answers yes or no. -/
  | flag (value : Bool)
  /-- It answers that it succeeded, or why it did not. -/
  | outcome (result : Bridge.Outcome)

namespace Bridge

variable {δ σ : Type}

section Perform

variable [Hardware δ]

/-- Carries out an operation. -/
def perform (s : Surroundings δ σ) (b : Bridge δ σ) : Operation → Bridge δ σ
  | .isSupported => (b.isSupported s).1
  | .enable => (b.enable s).1
  | .disable => (b.disable s).1
  | .start link => (b.start s link).1
  | .startConfigured => (b.startConfigured s).1
  | .stop => (b.stop s).1
  | .send bytes => (b.send s bytes).1
  | .print text => (b.print s text).1
  | .addListener kind id => b.addListener kind id
  | .removeListener kind id => (b.removeListener kind id).1
  | .requestDisable control => b.requestDisable s control
  | .interrupt report => (b.interrupt s report).1

/-- What an operation answers that is carried out now. The hardware gets no answer. -/
def answer (s : Surroundings δ σ) (b : Bridge δ σ) : Operation → Answer
  | .isSupported => .flag (b.isSupported s).2
  | .enable => .outcome (b.enable s).2
  | .disable => .outcome (b.disable s).2
  | .start link => .outcome (b.start s link).2
  | .startConfigured => .outcome (b.startConfigured s).2
  | .stop => .outcome (b.stop s).2
  | .send bytes => .outcome (b.send s bytes).2
  | .print text => .outcome (b.print s text).2
  | .addListener _ _ => .nothing
  | .removeListener kind id => .flag (b.removeListener kind id).2
  | .requestDisable _ => .nothing
  | .interrupt _ => .nothing

/-- Carries out one operation after the other. -/
def performAll (s : Surroundings δ σ) (b : Bridge δ σ) (operations : List Operation) :
    Bridge δ σ :=
  operations.foldl (perform s) b

end Perform

/-! ### What the event thread leaves alone -/

/-- The bridges have had the same dealings. -/
structure SameDealings (b b' : Bridge δ σ) : Prop where
  /-- The configuration is the same. -/
  config : b'.config = b.config
  /-- The driver is the same. -/
  driver : b'.driver = b.driver
  /-- The dealings with discovery and the driver are the same. -/
  contacts : b'.contacts = b.contacts
  /-- Discovery ran as often. -/
  discoveries : b'.discoveries = b.discoveries
  /-- There are as many mailboxes. -/
  mailboxes : b'.mailboxes.length = b.mailboxes.length

/-- The bridges differ at most in what the event thread and the listeners have been doing. -/
structure Alike (b b' : Bridge δ σ) : Prop extends b.SameDealings b' where
  /-- They agree on whether there is a session. -/
  enabled : b'.isEnabled = b.isEnabled

theorem Alike.refl (b : Bridge δ σ) : b.Alike b := ⟨⟨rfl, rfl, rfl, rfl, rfl⟩, rfl⟩

theorem Alike.trans {b b' b'' : Bridge δ σ} (h : b.Alike b') (h' : b'.Alike b'') : b.Alike b'' where
  config := h'.config.trans h.config
  driver := h'.driver.trans h.driver
  contacts := h'.contacts.trans h.contacts
  discoveries := h'.discoveries.trans h.discoveries
  mailboxes := h'.mailboxes.trans h.mailboxes
  enabled := h'.enabled.trans h.enabled

/-- Reports open no mailbox and drop none. -/
theorem length_reportAll (mailboxes : List Mailbox) (reports : List (Reporter × Report)) :
    (reportAll mailboxes reports).length = mailboxes.length := by
  rw [reportAll]
  induction reports generalizing mailboxes with
  | nil => rfl
  | cons r reports ih => rw [List.foldl_cons, ih, length_postTo]

variable [Hardware δ] (s : Surroundings δ σ) (b : Bridge δ σ)

/-- What the event thread does stays in its own mailbox, in the mailboxes that listeners report to,
and among the listeners. -/
theorem alike_letThreadRun (enabled : Bool) (limit : Nat) (session : Session) :
    b.Alike (b.letThreadRun s enabled limit session).1 := by
  rw [letThreadRun]
  split
  · refine ⟨⟨rfl, rfl, rfl, rfl, ?_⟩, rfl⟩
    rw [length_reportAll, List.length_set]
  · exact .refl b

/-- A thread that was woken stores its loop in the session, which stays there. -/
theorem alike_settle : b.Alike (b.settle s) := by
  rw [settle]
  split
  · exact .refl b
  · next session hsession =>
    have h := b.alike_letThreadRun s true (s.patience + 1) session
    refine ⟨⟨h.config, h.driver, h.contacts, h.discoveries, h.mailboxes⟩, ?_⟩
    simp [isEnabled, hsession]

theorem alike_receive (number : Nat) (signal : Signal) : b.Alike (b.receive s number signal) := by
  have hpost : b.Alike { b with mailboxes := postTo b.mailboxes number signal } :=
    ⟨⟨rfl, rfl, rfl, rfl, length_postTo _ _ _⟩, rfl⟩
  rw [receive]
  split
  -- The signal is for the mailbox of the session, so the thread is woken after it is posted.
  · exact hpost.trans (alike_settle s _)
  · exact hpost

/-- A driver's reports change nothing but what the event thread and the listeners do. -/
theorem alike_absorb (e : Effects δ) : { b with driver := some e.driver }.Alike (b.absorb s e) := by
  rw [absorb]
  generalize { b with driver := some e.driver } = b'
  -- The bridge varies, since the thread may have answered earlier reports when a later one is made.
  induction e.reports generalizing b' with
  | nil => exact .refl b'
  | cons r reports ih =>
    rw [List.foldl_cons]
    exact (b'.alike_receive s _ _).trans (ih _)

end Bridge

end SerialBridge
