import SerialBridge.Hardware.Loopback
import SerialBridge.Proofs.Bridge.Mailboxes

/-!
# What makes a bridge break off

An operation that runs into a fault gives no answer, and the caller breaks off with it. Three things
are asked of a configuration: that there is room for messages, that a thread can have the name of
the event thread, and that a thread can have the name of the device. Validation looks into the first
only. A text that is not empty may still hold a NUL, and then no thread can have it as its name.

`Bridge.can_break_off_iff` says that there is nothing else. Over the loopback driver, whatever it is
told to refuse, some run of the configured operations ends in a fault exactly if one of the two
names holds a NUL. Where none does, each operation answers, with success or with an error. A bridge
that is released is disabled, and disabling always answers.

The mailboxes never give cause for a fault (`Bridge.Furnished`): each has the configured capacity,
which is positive, and none has a drain that waits while another begins.
-/

namespace SerialBridge

/-- The fault that an operation ran into instead of answering. -/
def Answer.fault? : Answer → Option Fault
  | .outcome (.error (.fault f)) => some f
  | _ => none

theorem Answer.fault?_outcome {result : Bridge.Outcome} {f : Fault} :
    (Answer.outcome result).fault? = some f ↔ result = .error (.fault f) := by
  rcases result with (e | g) | _ <;> simp [Answer.fault?]

/-! ### The loopback driver -/

namespace Loopback

open LoopbackOver

/-- Setting up answers. -/
theorem result_init_ne_fault (r : Reporter) (l : Loopback) (f : Fault) :
    (l.init r).result ≠ .fault f := by
  rw [init]
  split <;> nofun

/-- Stopping answers. -/
theorem result_stop_ne_fault (l : Loopback) (f : Fault) : l.stop.result ≠ .fault f := by
  rw [stop]
  split <;> nofun

/-- A thread that the system refuses is an answer too. -/
theorem result_spawn_ne_fault (r : Reporter) (l : Loopback) (f : Fault) :
    (l.spawn r).result ≠ .fault f := by
  rw [spawn]
  split <;> nofun

/-- Starting answers, unless no thread can have the name of the device. -/
theorem nul_of_result_start {link : Link} {l : Loopback} {f : Fault}
    (h : (l.start link).result = .fault f) :
    f = .nulInThreadName ∧ '\x00' ∈ link.device.toList := by
  have hmade : (l.launch link).result = .fault f := by
    rw [start] at h
    dsimp only at h
    split at h
    · cases h
    · exact h
  rw [launch] at hmade
  split at hmade
  · cases hmade
  · cases hmade
  · cases hmade
  · split at hmade
    · next hnul => exact ⟨(CallResult.fault.inj hmade).symm, hnul⟩
    · exact absurd hmade (result_spawn_ne_fault _ l f)

end Loopback

/-! ### Where faults come from -/

namespace Bridge

variable {δ σ : Type} [Hardware δ] {s : Surroundings δ σ} {b : Bridge δ σ} {f : Fault}

theorem nul_of_openSession {number : Nat} {mailbox : Mailbox}
    (h : (b.openSession s number mailbox).2 = .error (.fault f)) :
    f = .nulInThreadName ∧ '\x00' ∈ b.config.eventThreadName.toList := by
  rw [openSession] at h
  split at h
  · next hnul =>
    obtain rfl := Failure.fault.inj (Except.error.inj h)
    exact ⟨rfl, hnul⟩
  · dsimp only at h
    split at h <;> cases h

/-- A call of the driver ends in a fault only if the driver does. -/
theorem fault_of_outcome {refusal : Int32 → BridgeError} {result : CallResult}
    (h : outcome refusal result = .error (.fault f)) : result = .fault f := by
  cases result with
  | success => cases h
  | refused e => cases h
  | fault g => rw [Failure.fault.inj (Except.error.inj h)]

/-- **Enabling**: the driver breaks off, or no thread can have the name of the event thread. -/
theorem cause_of_enable (h : (b.enable s).2 = .error (.fault f)) :
    (f = .nulInThreadName ∧ '\x00' ∈ b.config.eventThreadName.toList) ∨
      ∃ (r : Reporter) (d : δ), (Hardware.init r d).result = .fault f := by
  rw [enable] at h
  split at h
  · cases h
  · obtain ⟨driver, discoveries, contacts, hfields⟩ := discover_fields s
      { b with mailboxes := b.mailboxes ++
          [Mailbox.blank b.config.messageCapacity b.config.valid.capacity_pos] }
    dsimp only at h hfields
    generalize Bridge.discover s _ = answered at h hfields
    obtain ⟨b', found⟩ := answered
    obtain rfl : b' = _ := hfields
    cases found with
    | none => cases h
    | some d =>
      dsimp only at h
      split at h
      · next e houtcome =>
        obtain rfl := Except.error.inj h
        exact .inr ⟨_, d, fault_of_outcome houtcome⟩
      · obtain ⟨hf, hname⟩ := nul_of_openSession h
        rw [(alike_absorb s _ _).config] at hname
        exact .inl ⟨hf, hname⟩

/-- **Starting**: enabling ends in a fault, or the driver breaks off when it is to start. -/
theorem cause_of_start {link : Link} (h : (b.start s link).2 = .error (.fault f)) :
    (b.enable s).2 = .error (.fault f) ∨ ∃ d : δ, (Hardware.start link d).result = .fault f := by
  rw [start] at h
  generalize b.enable s = answered at h ⊢
  obtain ⟨b', e | _⟩ := answered
  · exact .inl h
  · dsimp only at h
    split at h
    · cases h
    · next d _ => exact .inr ⟨d, fault_of_outcome h⟩

/-- **Disabling** always answers. -/
theorem disable_ne_fault (s : Surroundings δ σ) (b : Bridge δ σ) (f : Fault) :
    (b.disable s).2 ≠ .error (.fault f) := by
  rw [disable]
  split
  · simp
  · dsimp only
    split <;> simp

/-- **Stopping**: the driver breaks off. -/
theorem cause_of_stop (h : (b.stop s).2 = .error (.fault f)) :
    ∃ d : δ, (Hardware.stop d).result = .fault f := by
  cases hb : b.isEnabled with
  | false =>
    rw [stop_of_disabled hb] at h
    cases h
  | true =>
    cases hd : b.driver with
    | none =>
      rw [stop, if_pos hb, hd] at h
      cases h
    | some d =>
      refine ⟨d, ?_⟩
      by_cases hfault : ∃ g, (Hardware.stop d).result = .fault g
      · obtain ⟨g, hg⟩ := hfault
        rw [stop_of_fault hb hd hg] at h
        rw [hg, Failure.fault.inj (Except.error.inj h)]
      · rw [stop_of_answered hb hd (not_exists.mp hfault)] at h
        have hclosed := disable_ne_fault s ((b.note .stop).absorb s (Hardware.stop d).toEffects) f
        generalize (((b.note .stop).absorb s (Hardware.stop d).toEffects).disable s).2 = closed at *
        cases closed with
        | error e => exact absurd h hclosed
        | ok _ => exact fault_of_outcome h

/-- **Writing** always answers. -/
theorem send_ne_fault (s : Surroundings δ σ) (bytes : List UInt8) (b : Bridge δ σ) (f : Fault) :
    (b.send s bytes).2 ≠ .error (.fault f) := by
  rw [send]
  split
  · split <;> simp
  · simp

end Bridge

/-- The device that the operation names, if it names one, is no trouble as the name of a thread. -/
def Operation.NamesDevice (op : Operation) : Prop :=
  ∀ link, op = .start link → '\x00' ∉ link.device.toList

/-- The link whose device an operation starts, if it starts one. -/
def Operation.link? (configured : Link) : Operation → Option Link
  | .start link => some link
  | .startConfigured => some configured
  | _ => none

namespace Bridge

variable {σ : Type}

/-- Over the loopback driver, an operation that ends in a fault has a name before it that no thread
can have. -/
theorem nul_of_answer {s : Surroundings Loopback σ} {b : Bridge Loopback σ} {op : Operation}
    {f : Fault} (h : (b.answer s op).fault? = some f) :
    f = .nulInThreadName ∧
      ('\x00' ∈ b.config.eventThreadName.toList ∨
        ∃ link, op.link? b.config.link = some link ∧ '\x00' ∈ link.device.toList) := by
  have henable (h : (b.enable s).2 = .error (.fault f)) :
      f = .nulInThreadName ∧ '\x00' ∈ b.config.eventThreadName.toList := by
    rcases cause_of_enable h with hname | ⟨r, d, hinit⟩
    · exact hname
    · exact absurd hinit (Loopback.result_init_ne_fault r d f)
  have hstart (link : Link) (hop : op.link? b.config.link = some link)
      (h : (b.start s link).2 = .error (.fault f)) :
      f = .nulInThreadName ∧
        ('\x00' ∈ b.config.eventThreadName.toList ∨
          ∃ link, op.link? b.config.link = some link ∧ '\x00' ∈ link.device.toList) := by
    rcases cause_of_start h with henabled | ⟨d, hstarted⟩
    · exact (henable henabled).imp_right .inl
    · obtain ⟨hf, hdevice⟩ := Loopback.nul_of_result_start hstarted
      exact ⟨hf, .inr ⟨link, hop, hdevice⟩⟩
  -- Whatever neither enables nor starts makes no thread, and there is no other fault.
  cases op with
  | enable => exact (henable (Answer.fault?_outcome.mp h)).imp_right .inl
  | start link => exact hstart link rfl (Answer.fault?_outcome.mp h)
  | startConfigured => exact hstart b.config.link rfl (Answer.fault?_outcome.mp h)
  | disable => exact absurd (Answer.fault?_outcome.mp h) (disable_ne_fault s b f)
  | stop =>
    obtain ⟨d, hstop⟩ := cause_of_stop (Answer.fault?_outcome.mp h)
    exact absurd hstop (Loopback.result_stop_ne_fault d f)
  | send bytes => exact absurd (Answer.fault?_outcome.mp h) (send_ne_fault s bytes b f)
  | print text => exact absurd (Answer.fault?_outcome.mp h) (send_ne_fault s _ b f)
  | _ => cases h

/-- A loopback driver that refuses nothing, and listeners that do nothing. -/
def willing : Surroundings Loopback σ where
  discover := fun _ => some {}
  behaviour := fun _ _ => .finish none

/-- A new bridge whose driver has been set up. -/
def readied (config : ValidConfig) (memory : σ) : Bridge Loopback σ :=
  let b : Bridge Loopback σ := ofConfig config memory
  let reporter := b.nextMailbox.reporter 0
  { b with
    driver := some { reporter := some reporter }
    mailboxes := [b.nextMailbox]
    discoveries := 1
    contacts := [.discovery true, .init reporter .success] }

variable {config : ValidConfig}

/-- A willing driver is set up before the name of the event thread is looked at. -/
theorem enable_willing (memory : σ) :
    (ofConfig config memory).enable willing =
      (readied config memory).openSession willing 0 (readied config memory).nextMailbox := rfl

/-- If no thread can have the name of the event thread, enabling breaks off and leaves the driver
set up. -/
theorem start_of_nul_in_threadName (h : '\x00' ∈ config.eventThreadName.toList) (memory : σ)
    (link : Link) :
    (ofConfig config memory).start willing link
      = (readied config memory, .error (.fault .nulInThreadName)) := by
  have hopen : (ofConfig config memory).enable willing
      = (readied config memory, .error (.fault .nulInThreadName)) := by
    rw [enable_willing, openSession]
    exact if_pos h
  rw [start, hopen]

/-- If no thread can have the name of the device, starting it breaks off, and the driver has been
told to set up and to start only. -/
theorem start_of_nul_in_device (hname : '\x00' ∉ config.eventThreadName.toList) {link : Link}
    (hdevice : '\x00' ∈ link.device.toList) (memory : σ) :
    ((ofConfig config memory).start willing link).2 = .error (.fault .nulInThreadName) ∧
      ((ofConfig config memory).start willing link).1.contacts
        = (readied config memory).contacts ++ [.start link] := by
  let opened : Bridge Loopback σ := { readied config memory with
    spawns := 1
    session := some { mailbox := 0, consumer := .ofMailbox (readied config memory).nextMailbox } }
  have hopen : (ofConfig config memory).enable willing = (opened.settle willing, .ok ()) := by
    rw [enable_willing, openSession]
    exact if_neg hname
  have hsettled := alike_settle willing opened
  have hdriver : (opened.settle willing).driver = (readied config memory).driver := hsettled.driver
  have hcontacts : (opened.settle willing).contacts = (readied config memory).contacts :=
    hsettled.contacts
  have hbreaks (d : Loopback) (hd : d = { reporter := d.reporter }) (hr : d.reporter.isSome) :
      Hardware.start link d = { driver := d, result := .fault .nulInThreadName } := by
    obtain ⟨r, hr⟩ := Option.isSome_iff_exists.mp hr
    rw [hd, hr]
    simp [Hardware.start, LoopbackOver.start, LoopbackOver.launch, hdevice]
  rw [start, hopen]
  generalize opened.settle willing = b at hdriver hcontacts
  dsimp only
  rw [hdriver]
  dsimp only [readied]
  rw [hbreaks _ rfl rfl]
  exact ⟨rfl, congrArg (· ++ [Contact.start link]) hcontacts⟩

/-- **What breaks off.** Over the loopback driver, and whatever it refuses, a bridge can be brought
to end an operation in a fault exactly if its configuration has a NUL in the name of the event
thread or in that of the device; and there is no other fault than this one. -/
theorem can_break_off_iff (config : ValidConfig) (memory : σ) (f : Fault) :
    (∃ (s : Surroundings Loopback σ) (operations : List Operation) (op : Operation),
      (∀ o ∈ operations ++ [op], o.NamesDevice) ∧
        (((ofConfig config memory).performAll s operations).answer s op).fault? = some f) ↔
      f = .nulInThreadName ∧
        ('\x00' ∈ config.eventThreadName.toList ∨ '\x00' ∈ config.link.device.toList) := by
  constructor
  · rintro ⟨s, operations, op, hnames, hfault⟩
    -- No operation replaces the configuration, so the name was there from the beginning.
    have hconfig := ((Furnished.ofConfig config memory).performAll s operations).config_eq
    obtain ⟨hf, hname⟩ := nul_of_answer hfault
    rw [hconfig] at hname
    refine ⟨hf, hname.imp_right fun ⟨link, hlink, hdevice⟩ => ?_⟩
    cases op with
    | start own =>
      obtain rfl := Option.some.inj hlink
      exact absurd hdevice (hnames (.start own) (by simp) own rfl)
    | startConfigured =>
      obtain rfl := Option.some.inj hlink
      exact hdevice
    | _ => cases hlink
  · rintro ⟨rfl, h⟩
    -- Where nothing else refuses, starting the configured device comes to either of the names.
    have hnames : ∀ o ∈ [] ++ [Operation.startConfigured], o.NamesDevice := by
      intro o ho link hlink
      obtain rfl := List.mem_singleton.mp ho
      cases hlink
    refine ⟨willing, [], .startConfigured, hnames, Answer.fault?_outcome.mpr ?_⟩
    show ((ofConfig config memory).start willing config.link).2 = _
    by_cases hname : '\x00' ∈ config.eventThreadName.toList
    · rw [start_of_nul_in_threadName hname]
    · exact (start_of_nul_in_device hname (h.resolve_left hname) memory).1

/-- A valid configuration whose device is called `/dev/tty` and then a NUL. -/
def cutOffDevice : ValidConfig where
  link := { device := "/dev/tty\x00" }
  valid := by decide

/-- Validation accepts it, and yet starting the configured device breaks off, after the driver has
been set up and without its being told to clean up. -/
theorem valid_device_breaks_off :
    cutOffDevice.toConfig.problem? = none ∧
      ((ofConfig cutOffDevice ()).startConfigured willing).2 = .error (.fault .nulInThreadName) ∧
        .cleanup ∉ ((ofConfig cutOffDevice ()).startConfigured willing).1.contacts := by
  have hname : '\x00' ∉ cutOffDevice.eventThreadName.toList := by decide
  have hdevice : '\x00' ∈ cutOffDevice.link.device.toList := by decide
  obtain ⟨hbreaks, hcontacts⟩ := start_of_nul_in_device hname hdevice ()
  refine ⟨cutOffDevice.valid, hbreaks, ?_⟩
  show Contact.cleanup ∉ ((ofConfig cutOffDevice ()).start willing cutOffDevice.link).1.contacts
  rw [hcontacts]
  simp [readied]

end Bridge

end SerialBridge
