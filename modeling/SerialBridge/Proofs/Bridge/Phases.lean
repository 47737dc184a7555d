import SerialBridge.Hardware.Loopback
import SerialBridge.Proofs.Bridge.DriverProtocol
import SerialBridge.Proofs.Bridge.Session

/-!
# Three phases

A bridge over the loopback driver goes through three phases: it is disabled, enabled or started.
`Phase` is the machine with these states. It knows the codes with which the driver is told to refuse
calls, and of the bridge it knows nothing else: no mailbox, no event thread, no device.

`Bridge.shows_phase` says that the machine is all that an owner gets to see of sessions: what the
operations answer, whether the bridge is enabled and whether the engine runs are as the machine
says, after any operations.

The invariant is `Bridge.InPhase`. Between operations the session has settled and the driver is at
rest (`Refusals.driver`), with its device gone, or at work with an empty queue.
-/

namespace SerialBridge

/-! ### The machine -/

/-- The codes with which the loopback driver is told to refuse its calls. -/
structure Refusals where
  /-- The code for setting up. -/
  init : Option Int32 := none
  /-- The code for starting. -/
  start : Option Int32 := none
  /-- The code for stopping. -/
  stop : Option Int32 := none

/-- What an owner sees of a bridge. -/
inductive Phase where
  /-- There is no session. -/
  | disabled
  /-- There is a session, and no device runs. -/
  | enabled
  /-- There is a session, and a device runs. -/
  | started
deriving DecidableEq

namespace Phase

open Bridge (Outcome)

/-- Enabling. -/
def enable (r : Refusals) : Phase → Phase × Outcome
  | .disabled =>
    match r.init with
    | some code => (.disabled, .error (.error (.initializationFailed code)))
    | none => (.enabled, .ok ())
  | p => (p, .ok ())

/-- Starting the device of a link. -/
def start (r : Refusals) (link : Link) (p : Phase) : Phase × Outcome :=
  match p.enable r with
  | (p, .error e) => (p, .error e)
  | (p, .ok ()) =>
    match r.start, p with
    | some code, p => (p, .error (.error (.startFailed link.device code)))
    | none, .started => (.started, .error (.error (.startFailed link.device errBusy)))
    | none, _ => (.started, .ok ())

/-- Stopping the device. -/
def stop (r : Refusals) : Phase → Phase × Outcome
  | .disabled => (.disabled, .error (.error .notEnabled))
  | p =>
    match r.stop, p with
    | some code, _ => (.disabled, .error (.error (.stopFailed code)))
    | none, .started => (.disabled, .ok ())
    | none, _ => (.disabled, .error (.error (.stopFailed errNotRunning)))

/-- Writing. -/
def write : Phase → Phase × Outcome
  | .disabled => (.disabled, .error (.error .notEnabled))
  | p => (p, .ok ())

/-- One operation, with its answer. Whether a listener was registered is for others to say. -/
def step (r : Refusals) (configured : Link) (p : Phase) : Operation → Phase × Option Answer
  | .isSupported => (p, some (.flag true))
  | .enable => (p.enable r).map id (some ∘ .outcome)
  | .disable => (.disabled, some (.outcome (.ok ())))
  | .start link => (p.start r link).map id (some ∘ .outcome)
  | .startConfigured => (p.start r configured).map id (some ∘ .outcome)
  | .stop => (p.stop r).map id (some ∘ .outcome)
  | .send _ => p.write.map id (some ∘ .outcome)
  | .print _ => p.write.map id (some ∘ .outcome)
  | .addListener _ _ => (p, some .nothing)
  | .removeListener _ _ => (p, none)
  | .requestDisable _ => (p, some .nothing)
  | .interrupt _ => (p, none)

/-- One operation after the other. -/
def run (r : Refusals) (configured : Link) (p : Phase) (operations : List Operation) : Phase :=
  operations.foldl (fun p op => (p.step r configured op).1) p

end Phase

/-- The operation is one that an owner can do with a loopback driver, which has nobody to interrupt
it, and a thread can have the name of the device that it starts, if it starts one. -/
def Operation.Fits (config : ValidConfig) : Operation → Prop
  | .start link => '\x00' ∉ link.device.toList
  | .startConfigured => '\x00' ∉ config.link.device.toList
  | .interrupt _ => False
  | _ => True

/-! ### The driver at rest -/

/-- The loopback driver between operations. The device, if one runs, has made all its reports. -/
def Refusals.driver (r : Refusals) (reporter : Option Reporter) (running : Bool)
    (echoed : UInt64) : Loopback where
  failInit := r.init
  failStart := r.start
  failStop := r.stop
  reporter := reporter
  device := if running then
    reporter.map fun reporter => { reporter, announced := true, channel := Channel.fresh }
  else none
  echoed := echoed

namespace Loopback

variable {r : Refusals} {reporter : Option Reporter} {own : Reporter} {running : Bool}
  {echoed : UInt64}

open LoopbackOver

theorem init_driver_of_some {code : Int32} (h : r.init = some code) (new : Reporter) :
    (r.driver reporter running echoed).init new
      = .refuse (r.driver reporter running echoed) code := by
  simp [init, Refusals.driver, h]

theorem init_driver_of_none (h : r.init = none) (new : Reporter) :
    (r.driver reporter false echoed).init new
      = { driver := r.driver (some new) false echoed } := by
  simp [init, Refusals.driver, h]

theorem start_driver_of_some {code : Int32} (h : r.start = some code) (link : Link) :
    (r.driver reporter running echoed).start link
      = .refuse (r.driver reporter running echoed) code := by
  simp [start, launch, Refusals.driver, Reply.refuse, h]

theorem start_driver_running (h : r.start = none) (link : Link) :
    (r.driver (some own) true echoed).start link
      = .refuse (r.driver (some own) true echoed) errBusy := by
  simp [start, launch, Refusals.driver, Reply.refuse, h]

/-- A device that is started reports that the engine is on. -/
theorem start_driver_idle (h : r.start = none) {link : Link} (hlink : '\x00' ∉ link.device.toList) :
    (r.driver (some own) false echoed).start link
      = { driver := r.driver (some own) true echoed
          reports := [(own, .status statusEngineOn)] } := by
  simp [start, launch, spawn, Refusals.driver, h, hlink, workOff, follow, Device.runOut, Device.run,
    Course.followedBy, Device.step, Device.receive, InstructionQueue.receive]

theorem send_driver_idle (bytes : List UInt8) :
    (r.driver reporter false echoed).send bytes = { driver := r.driver reporter false echoed } :=
  rfl

/-- A device that runs reports what it is sent. -/
theorem send_driver_running (bytes : List UInt8) :
    (r.driver (some own) true echoed).send bytes
      = { driver := r.driver (some own) true (echoed + .ofNat bytes.length)
          reports := [(own, .message bytes)] } := by
  simp [send, enqueue, Refusals.driver, workOff, follow, Device.tell, Device.runOut, Device.run,
    Course.followedBy, Device.step, Device.receive, InstructionQueue.receive]

theorem stop_driver_of_some {code : Int32} (h : r.stop = some code) :
    (r.driver reporter running echoed).stop = .refuse (r.driver reporter running echoed) code := by
  simp [stop, Refusals.driver, Reply.refuse, h]

theorem stop_driver_idle (h : r.stop = none) :
    (r.driver reporter false echoed).stop
      = .refuse (r.driver reporter false echoed) errNotRunning := by
  simp [stop, Refusals.driver, Reply.refuse, h]

/-- A device that is stopped reports that the engine is off. -/
theorem stop_driver_running (h : r.stop = none) :
    (r.driver (some own) true echoed).stop
      = { driver := r.driver (some own) false echoed
          reports := [(own, .status statusEngineOff)] } := by
  simp [stop, Refusals.driver, h, join, follow, Device.tell, Device.runOut, Device.run,
    Course.followedBy, Device.step, Device.receive, InstructionQueue.receive]

/-- Cleaning up ends the device, if one runs. -/
theorem driver_cleanup :
    (r.driver reporter running echoed).cleanup.driver = r.driver none false echoed := by
  cases running <;> cases reporter <;>
    simp [cleanup, Refusals.driver, join, follow, Device.release, Device.runOut, Device.run,
      Course.followedBy, Device.step, Device.receive, InstructionQueue.receive]

end Loopback

/-- The phase of a session, given whether a device runs. -/
def Phase.serving (running : Bool) : Phase := if running then .started else .enabled

namespace Bridge

variable {σ : Type}

/-- The surroundings of a bridge over the loopback driver in which nothing goes wrong but what the
driver is told to refuse. -/
structure Hosts (s : Surroundings Loopback σ) (r : Refusals) (config : ValidConfig) : Prop where
  /-- Discovery finds the driver. -/
  discover : ∀ n, s.discover n = some (r.driver none false 0)
  /-- Every event thread can be made. -/
  spawn : ∀ n, s.spawnFailure n = none
  /-- A thread can have the name of the event thread. -/
  name : '\x00' ∉ config.eventThreadName.toList
  /-- Listeners are calm. -/
  calm : Calm s.behaviour s.nesting

/-- The bridge is in a phase, as far as its session, its driver and the engine's flag go. -/
inductive InPhase (r : Refusals) (config : ValidConfig) (b : Bridge Loopback σ) : Phase → Prop where
  /-- There is no session, and the driver, once it has been found, was cleaned up. -/
  | idle (configured : b.config = config) (closed : b.session = none)
    (engineOn : b.engineOn = false) (effects : b.audience.effects = [])
    (driver : b.driver = none ∨ ∃ echoed, b.driver = some (r.driver none false echoed)) :
    InPhase r config b .disabled
  /-- The session has settled, and the driver reports to it. -/
  | serving {session : Session} {m : Mailbox} {own : Reporter} (running : Bool) (echoed : UInt64)
    (configured : b.config = config) (opened : b.session = some session)
    (settled : b.Settled session m) (reports : own.mailbox = session.mailbox)
    (engineOn : b.engineOn = running)
    (driver : b.driver = some (r.driver (some own) running echoed)) :
    InPhase r config b (.serving running)

/-- A bridge and its answer are as the machine says. -/
def Agrees (r : Refusals) (config : ValidConfig) (answered : Bridge Loopback σ × Outcome)
    (said : Phase × Outcome) : Prop :=
  answered.1.InPhase r config said.1 ∧ answered.2 = said.2

variable {s : Surroundings Loopback σ} {r : Refusals} {config : ValidConfig}
  {b : Bridge Loopback σ} {p : Phase}

/-! ### Steps of the operations -/

/-- Once the driver is set up, the session is opened. -/
theorem agrees_openSession (hs : Hosts s r config) (hconfig : b.config = config)
    (hengine : b.engineOn = false) (heffects : b.audience.effects = []) {number : Nat} {m : Mailbox}
    {echoed : UInt64} (hdriver : b.driver = some (r.driver (some (m.reporter number)) false echoed))
    (hmailbox : b.mailboxes[number]? = some m) (hblank : m = b.nextMailbox) :
    Agrees r config (b.openSession s number m) (.enabled, .ok ()) := by
  let session : Session := { mailbox := number, consumer := .ofMailbox m }
  let b' : Bridge Loopback σ := { b with spawns := b.spawns + 1, session := some session }
  have hcapacity : m.capacity = b.config.messageCapacity :=
    hblank ▸ Snapshot.capacity_blank _ (messageCapacity_pos b)
  have hsettled : b'.Settled session m :=
    .of_fresh hmailbox (by rw [hblank]; rfl) (by rw [hblank]; rfl) hcapacity heffects
  have hname : '\x00' ∉ b.config.eventThreadName.toList := hconfig ▸ hs.name
  have hopened : b.openSession s number m = (b'.settle s, .ok ()) := by
    rw [openSession, if_neg hname]
    simp only [hs.spawn]
    rfl
  rw [hopened, hsettled.settle_eq rfl]
  exact ⟨.serving false echoed hconfig rfl hsettled rfl hengine hdriver, rfl⟩

/-- What the driver reports to the session in a call decides on the phase after it. -/
theorem inPhase_absorb (hs : Hosts s r config) (hconfig : b.config = config) {session : Session}
    {m : Mailbox} (hopened : b.session = some session) (hsettled : b.Settled session m)
    {own : Reporter} (hown : own.mailbox = session.mailbox) (reports : List (Reporter × Report))
    (hreports : ∀ x ∈ reports, x.1 = own) {running : Bool}
    (hengine :
      engineAfterAll b.config.messageCapacity (reports.map (·.2.signal)) b.engineOn = running)
    (echoed : UInt64) (c : Contact) :
    ((b.note c).absorb s { driver := r.driver (some own) running echoed, reports }).InPhase r config
      (.serving running) := by
  let e : Effects Loopback := { driver := r.driver (some own) running echoed, reports }
  have halike := (b.note c).alike_absorb s e
  have hbegun : (b.note c).Settled session m := hsettled.congr rfl rfl rfl
  obtain ⟨session', m', hsettled', hsome, hmailbox, hengine'⟩ :=
    hbegun.absorb hs.calm hopened (e := e) fun x hx => hreports x hx ▸ hown
  exact .serving running echoed (halike.config.trans hconfig) hsome hsettled'
    (hown.trans hmailbox.symm) (hengine'.trans hengine) halike.driver

/-- Without a session, cleaning up leaves the bridge disabled. -/
theorem inPhase_cleanup (hconfig : b.config = config) (hclosed : b.session = none)
    (hengine : b.engineOn = false) (heffects : b.audience.effects = [])
    {reporter : Option Reporter} {running : Bool} {echoed : UInt64}
    (hdriver : b.driver = some (r.driver reporter running echoed)) :
    (b.cleanup s).InPhase r config .disabled := by
  have hcleanup : b.cleanup s
      = (b.note .cleanup).absorb s (r.driver reporter running echoed).cleanup := by
    rw [cleanup, hdriver]
    rfl
  have hnoted : (b.note .cleanup).session = none := hclosed
  rw [hcleanup, absorb_of_disabled hnoted, Loopback.driver_cleanup]
  exact .idle hconfig hclosed hengine heffects (.inr ⟨echoed, rfl⟩)

namespace InPhase

/-- **Enabling.** -/
theorem enable (h : b.InPhase r config p) (hs : Hosts s r config) :
    Agrees r config (b.enable s) (p.enable r) := by
  cases h with
  | serving running echoed hconfig hsession hsettled hown hengine hdriver =>
    have hb : b.isEnabled = true := isEnabled_of_session hsession
    have hstays : (Phase.serving running).enable r = (Phase.serving running, .ok ()) := by
      cases running <;> rfl
    rw [enable_of_enabled hb, hstays]
    exact ⟨.serving running echoed hconfig hsession hsettled hown hengine hdriver, rfl⟩
  | idle hconfig hsession hengine heffects hdriver =>
    have hb : b.isEnabled = false := isEnabled_eq_false_iff.mpr hsession
    -- Found just now or kept from an earlier session, the driver has neither reporter nor device.
    have hfound : ∃ echoed, (b.addMailbox.discover s).2 = some (r.driver none false echoed) := by
      rcases hdriver with hnone | ⟨echoed, hsome⟩
      · have hnone' : b.addMailbox.driver = none := hnone
        exact ⟨0, by rw [discover_of_none hnone']; exact hs.discover _⟩
      · have hsome' : b.addMailbox.driver = some (r.driver none false echoed) := hsome
        exact ⟨echoed, by rw [discover, hsome']⟩
    obtain ⟨echoed, hfound⟩ := hfound
    obtain ⟨driver, discoveries, contacts, hfields⟩ := discover_fields s b.addMailbox
    have hreply (new : Reporter) : Hardware.init new (r.driver none false echoed)
        = (r.driver none false echoed).init new := rfl
    rw [enable_of_hit hb (Prod.ext hfields hfound), setUp, hreply]
    cases hinit : r.init with
    | some code =>
      rw [Loopback.init_driver_of_some hinit, Phase.enable, hinit]
      exact ⟨.idle hconfig hsession hengine heffects (.inr ⟨echoed, rfl⟩), rfl⟩
    | none =>
      rw [Loopback.init_driver_of_none hinit, Phase.enable, hinit]
      let own := b.nextMailbox.reporter b.mailboxes.length
      let b' : Bridge Loopback σ := { b.addMailbox with
        driver := some (r.driver (some own) false echoed)
        discoveries
        contacts := contacts ++ [.init own .success] }
      have hmailbox : b'.mailboxes[b.mailboxes.length]? = some b.nextMailbox :=
        List.getElem?_concat_length
      exact agrees_openSession (b := b') hs hconfig hengine heffects rfl hmailbox rfl

/-- **Starting.** -/
theorem start (h : b.InPhase r config p) (hs : Hosts s r config) {link : Link}
    (hlink : '\x00' ∉ link.device.toList) :
    Agrees r config (b.start s link) (p.start r link) := by
  have hopened := h.enable hs
  have hserves : (p.enable r).2 = .ok () → (p.enable r).1 ≠ .disabled := by
    cases p <;> cases hinit : r.init <;> simp [Phase.enable, hinit]
  rw [Bridge.start, Phase.start]
  generalize b.enable s = answered at hopened ⊢
  generalize p.enable r = said at hopened hserves ⊢
  obtain ⟨b', answer⟩ := answered
  obtain ⟨p', outcome⟩ := said
  obtain ⟨hphase, hanswer⟩ := hopened
  obtain rfl : answer = outcome := hanswer
  replace hphase : b'.InPhase r config p' := hphase
  cases answer with
  | error e => exact ⟨hphase, rfl⟩
  | ok _ =>
    cases hphase with
    | idle => exact absurd rfl (hserves rfl)
    | @serving session m own running echoed hconfig hsession hsettled hown hengine hdriver =>
      simp only [hdriver]
      have hreply : Hardware.start link (r.driver (some own) running echoed)
          = (r.driver (some own) running echoed).start link := rfl
      rw [hreply]
      have hnone : ((b'.note (.start link)).absorb s
          { driver := r.driver (some own) running echoed }).InPhase r config (.serving running) :=
        inPhase_absorb hs hconfig hsession hsettled hown [] (List.forall_mem_nil _) hengine echoed _
      cases hstart : r.start with
      | some code =>
        rw [Loopback.start_driver_of_some hstart]
        exact ⟨hnone, rfl⟩
      | none =>
        cases running with
        | true =>
          rw [Loopback.start_driver_running hstart]
          exact ⟨hnone, rfl⟩
        | false =>
          rw [Loopback.start_driver_idle hstart hlink]
          exact ⟨inPhase_absorb hs hconfig hsession hsettled hown
            [(own, .status statusEngineOn)] (by simp) rfl echoed _, rfl⟩

/-- **Writing.** -/
theorem send (h : b.InPhase r config p) (hs : Hosts s r config) (bytes : List UInt8) :
    Agrees r config (b.send s bytes) p.write := by
  cases h with
  | idle hconfig hsession hengine heffects hdriver =>
    rw [send_of_disabled (isEnabled_eq_false_iff.mpr hsession)]
    exact ⟨.idle hconfig hsession hengine heffects hdriver, rfl⟩
  | @serving session m own running echoed hconfig hsession hsettled hown hengine hdriver =>
    have hb : b.isEnabled = true := isEnabled_of_session hsession
    have hreply : Hardware.send bytes (r.driver (some own) running echoed)
        = (r.driver (some own) running echoed).send bytes := rfl
    rw [send_of_enabled hb hdriver, hreply]
    cases running with
    | false =>
      rw [Loopback.send_driver_idle]
      exact ⟨inPhase_absorb hs hconfig hsession hsettled hown [] (List.forall_mem_nil _) hengine
        echoed _, rfl⟩
    | true =>
      rw [Loopback.send_driver_running]
      exact ⟨inPhase_absorb hs hconfig hsession hsettled hown [(own, .message bytes)] (by simp)
        hengine _ _, rfl⟩

/-- **Disabling.** -/
theorem disable (h : b.InPhase r config p) (hs : Hosts s r config) :
    Agrees r config (b.disable s) (.disabled, .ok ()) := by
  cases h with
  | idle hconfig hsession hengine heffects hdriver =>
    rw [Bridge.disable, hsession]
    exact ⟨.idle hconfig hsession hengine heffects hdriver, rfl⟩
  | serving running echoed hconfig hsession hsettled hown hengine hdriver =>
    rw [hsettled.disable_eq hs.calm hsession]
    exact ⟨inPhase_cleanup hconfig rfl rfl hsettled.effects hdriver, rfl⟩

/-- A driver that answers when it is told to stop: the bridge is disabled, and the driver's answer
is what the owner gets. -/
theorem stop_of_reply {d : Loopback} {reply : Reply Loopback}
    (h : ((b.note .stop).absorb s reply.toEffects).InPhase r config p) (hs : Hosts s r config)
    (hb : b.isEnabled = true) (hdriver : b.driver = some d) (hreply : d.stop = reply)
    (hanswers : ∀ f, reply.result ≠ .fault f) :
    Agrees r config (b.stop s) (.disabled, outcome .stopFailed reply.result) := by
  obtain ⟨hclosed, hanswer⟩ := h.disable hs
  obtain rfl : Hardware.stop d = reply := hreply
  rw [stop_of_answered hb hdriver hanswers, hanswer]
  exact ⟨hclosed, rfl⟩

/-- **Stopping**: whatever the driver answers, the bridge is disabled. -/
theorem stop (h : b.InPhase r config p) (hs : Hosts s r config) :
    Agrees r config (b.stop s) (p.stop r) := by
  cases h with
  | idle hconfig hsession hengine heffects hdriver =>
    rw [stop_of_disabled (isEnabled_eq_false_iff.mpr hsession)]
    exact ⟨.idle hconfig hsession hengine heffects hdriver, rfl⟩
  | @serving session m own running echoed hconfig hsession hsettled hown hengine hdriver =>
    have hb : b.isEnabled = true := isEnabled_of_session hsession
    -- A driver that refuses changes nothing, and the bridge is disabled all the same.
    have hrefused (code : Int32) : ((b.note .stop).absorb s
        (Reply.refuse (r.driver (some own) running echoed) code).toEffects).InPhase r config
          (.serving running) :=
      inPhase_absorb hs hconfig hsession hsettled hown [] (List.forall_mem_nil _) hengine echoed _
    cases hstop : r.stop with
    | some code =>
      have hsaid : (Phase.serving running).stop r
          = (.disabled, .error (.error (.stopFailed code))) := by
        cases running <;> simp [Phase.serving, Phase.stop, hstop]
      rw [hsaid]
      exact (hrefused code).stop_of_reply hs hb hdriver (Loopback.stop_driver_of_some hstop) nofun
    | none =>
      cases running with
      | false =>
        have hsaid : (Phase.serving false).stop r
            = (.disabled, .error (.error (.stopFailed errNotRunning))) := by
          simp [Phase.serving, Phase.stop, hstop]
        rw [hsaid]
        exact (hrefused errNotRunning).stop_of_reply hs hb hdriver
          (Loopback.stop_driver_idle hstop) nofun
      | true =>
        have hsaid : (Phase.serving true).stop r = (.disabled, .ok ()) := by
          simp [Phase.serving, Phase.stop, hstop]
        let reply : Reply Loopback :=
          { driver := r.driver (some own) false echoed
            reports := [(own, .status statusEngineOff)] }
        have hended : ((b.note .stop).absorb s reply.toEffects).InPhase r config (.serving false) :=
          inPhase_absorb hs hconfig hsession hsettled hown [(own, .status statusEngineOff)]
            (by simp) rfl echoed _
        rw [hsaid]
        exact hended.stop_of_reply hs hb hdriver (Loopback.stop_driver_running hstop) nofun

/-- **A request to disable**, also through a control of long ago. -/
theorem requestDisable (h : b.InPhase r config p) (hs : Hosts s r config) (control : Control) :
    (b.requestDisable s control).InPhase r config p := by
  cases h with
  | idle hconfig hsession hengine heffects hdriver =>
    rw [Bridge.requestDisable, receive_of_elsewhere (by simp [hsession])]
    exact .idle hconfig hsession hengine heffects hdriver
  | @serving session m own running echoed hconfig hsession hsettled hown hengine hdriver =>
    by_cases hnumber : control.mailbox = session.mailbox
    · have hattended := hsettled.attend hs.calm .disable
      rw [Bridge.requestDisable, hnumber, hsettled.receive_eq hs.calm hsession]
      exact .serving running echoed hconfig rfl (hattended.congr rfl rfl rfl) hown hengine hdriver
    · have helsewhere : b.session.any (·.mailbox == control.mailbox) = false := by
        simpa [hsession] using Ne.symm hnumber
      rw [Bridge.requestDisable, receive_of_elsewhere helsewhere]
      exact .serving running echoed hconfig hsession
        (hsettled.congr rfl (getElem?_postTo_of_ne hnumber) rfl) hown hengine hdriver

theorem isSupported (h : b.InPhase r config p) (hs : Hosts s r config) :
    (b.isSupported s).1.InPhase r config p ∧ (b.isSupported s).2 = true := by
  rw [Bridge.isSupported]
  cases h with
  | idle hconfig hsession hengine heffects hdriver =>
    rcases hdriver with hnone | ⟨echoed, hsome⟩
    · rw [discover_of_none hnone, hs.discover]
      exact ⟨.idle hconfig hsession hengine heffects (.inr ⟨0, rfl⟩), rfl⟩
    · have hfound : b.discover s = (b, some (r.driver none false echoed)) := by
        rw [discover, hsome]
      rw [hfound]
      exact ⟨.idle hconfig hsession hengine heffects (.inr ⟨echoed, hsome⟩), rfl⟩
  | @serving session m own running echoed hconfig hsession hsettled hown hengine hdriver =>
    have hfound : b.discover s = (b, some (r.driver (some own) running echoed)) := by
      rw [discover, hdriver]
    rw [hfound]
    exact ⟨.serving running echoed hconfig hsession hsettled hown hengine hdriver, rfl⟩

/-- A change of the listeners. -/
theorem congr (h : b.InPhase r config p) {audience : Audience σ Report}
    (heffects' : audience.effects = b.audience.effects) :
    { b with audience }.InPhase r config p := by
  cases h with
  | idle hconfig hsession hengine heffects hdriver =>
    exact .idle hconfig hsession hengine (heffects'.trans heffects) hdriver
  | serving running echoed hconfig hsession hsettled hown hengine hdriver =>
    exact .serving running echoed hconfig hsession (hsettled.congr rfl rfl heffects') hown hengine
      hdriver

/-- **One operation.** -/
theorem perform (h : b.InPhase r config p) (hs : Hosts s r config) {operation : Operation}
    (hfits : operation.Fits config) :
    (b.perform s operation).InPhase r config (p.step r config.link operation).1 ∧
      ∀ a, (p.step r config.link operation).2 = some a → b.answer s operation = a := by
  have hagrees {answered : Bridge Loopback σ × Outcome} {said : Phase × Outcome}
      (hboth : Agrees r config answered said) :
      answered.1.InPhase r config said.1 ∧
        ∀ a, some (Answer.outcome said.2) = some a → .outcome answered.2 = a :=
    ⟨hboth.1, fun a ha => (congrArg Answer.outcome hboth.2).trans (Option.some.inj ha)⟩
  have hconfig : b.config = config := by
    cases h with
    | idle hconfig => exact hconfig
    | serving _ _ hconfig => exact hconfig
  cases operation with
  | isSupported =>
    obtain ⟨hphase, hanswer⟩ := h.isSupported hs
    exact ⟨hphase, fun a ha => (congrArg Answer.flag hanswer).trans (Option.some.inj ha)⟩
  | enable => exact hagrees (h.enable hs)
  | disable => exact hagrees (h.disable hs)
  | start link => exact hagrees (h.start hs hfits)
  | startConfigured =>
    have hstart : b.startConfigured s = b.start s config.link := by rw [startConfigured, hconfig]
    have hboth : Agrees r config (b.startConfigured s) (p.start r config.link) :=
      hstart ▸ h.start hs hfits
    exact hagrees hboth
  | stop => exact hagrees (h.stop hs)
  | send bytes => exact hagrees (h.send hs bytes)
  | print text => exact hagrees (h.send hs (Utf8.encode text))
  | addListener kind id => exact ⟨h.congr rfl, fun a ha => Option.some.inj ha⟩
  | removeListener kind id => exact ⟨h.congr rfl, nofun⟩
  | requestDisable control => exact ⟨h.requestDisable hs control, fun a ha => Option.some.inj ha⟩
  | interrupt report => exact hfits.elim

/-- **Any number of operations.** -/
theorem performAll (h : b.InPhase r config p) (hs : Hosts s r config) {operations : List Operation}
    (hfits : ∀ op ∈ operations, op.Fits config) :
    (b.performAll s operations).InPhase r config (p.run r config.link operations) := by
  induction operations generalizing b p with
  | nil => exact h
  | cons operation operations ih =>
    have hfirst := (h.perform hs (hfits operation List.mem_cons_self)).1
    exact ih hfirst fun op hop => hfits op (List.mem_cons_of_mem operation hop)

end InPhase

/-- **The bridge shows its phase.** Take a bridge over the loopback driver with any refusals, in
surroundings in which nothing else goes wrong, and any operations that an owner can do. The machine
that does the same operations tells whether the bridge is enabled, whether the engine and the device
run, and what any further operation answers. -/
theorem shows_phase (hs : Hosts s r config) (memory : σ) {operations : List Operation}
    (hfits : ∀ op ∈ operations, op.Fits config) :
    let b := (ofConfig config memory).performAll s operations
    let p := Phase.disabled.run r config.link operations
    b.isEnabled = decide (p ≠ .disabled) ∧
      b.engineOn = decide (p = .started) ∧
      b.driver.any LoopbackOver.isRunning = decide (p = .started) ∧
      ∀ op, op.Fits config → ∀ a, (p.step r config.link op).2 = some a → b.answer s op = a := by
  intro b p
  have hbegin : (ofConfig config memory).InPhase r config .disabled :=
    .idle rfl rfl rfl rfl (.inl rfl)
  have h : b.InPhase r config p := hbegin.performAll hs hfits
  clear_value b p
  refine ⟨?_, ?_, ?_, fun op hop => (h.perform hs hop).2⟩
  · cases h with
    | idle _ hsession => simp [isEnabled, hsession]
    | serving running _ _ hsession => cases running <;> simp [isEnabled, hsession, Phase.serving]
  · cases h with
    | idle _ _ hengine => simp [hengine]
    | serving running _ _ _ _ _ hengine => cases running <;> simp [hengine, Phase.serving]
  · cases h with
    | idle _ _ _ _ hdriver =>
      rcases hdriver with hnone | ⟨echoed, hsome⟩
      · simp [hnone]
      · simp [hsome, Refusals.driver, LoopbackOver.isRunning]
    | serving running _ _ _ _ _ _ hdriver =>
      cases running <;> simp [hdriver, Refusals.driver, LoopbackOver.isRunning, Phase.serving]

/-- A driver that refuses to stop, and listeners that are disconnected when they are called. -/
def stubbornSurroundings : Surroundings Loopback Unit where
  discover _ := some (Refusals.driver { stop := some 7 } none false 0)
  behaviour _ _ := .finish (some .listenerDisconnected)

/-- The device is started once, and stopping it is refused. -/
theorem stubborn_bridge_shows_phase :
    let b := (ofConfig { messageCapacity := 4, valid := by decide } ()).performAll
      stubbornSurroundings [.addListener .status "gone", .start {}]
    b.engineOn = true ∧
      b.answer stubbornSurroundings .startConfigured
        = .outcome (.error (.error (.startFailed (Link.device {}) errBusy))) ∧
      b.answer stubbornSurroundings .stop = .outcome (.error (.error (.stopFailed 7))) := by
  let config : ValidConfig := { messageCapacity := 4, valid := by decide }
  have hs : Hosts stubbornSurroundings { stop := some 7 } config :=
    ⟨fun _ => rfl, fun _ => rfl, by decide, ⟨fun _ _ _ => ⟨_, rfl⟩, fun _ _ _ => rfl⟩⟩
  have hlink : '\x00' ∉ config.link.device.toList := by decide
  have hfits : ∀ op ∈ [Operation.addListener .status "gone", .start {}], op.Fits config :=
    List.forall_mem_cons.mpr ⟨trivial, List.forall_mem_singleton.mpr hlink⟩
  obtain ⟨-, hengine, -, hanswer⟩ := shows_phase hs () hfits
  exact ⟨hengine.trans rfl, hanswer .startConfigured hlink _ rfl, hanswer .stop trivial _ rfl⟩

end Bridge

end SerialBridge
