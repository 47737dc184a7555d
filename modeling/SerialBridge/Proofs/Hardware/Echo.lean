import SerialBridge.Proofs.Bridge.Session
import SerialBridge.Proofs.Hardware.Device

/-!
# What the loopback driver echoes

The owner of a loopback driver sees its calls and how they end. From that alone one can tell which
devices there were, through which reporter each was to report, and what each was sent: this is the
`Ledger`. A device's `Life` begins with a start that succeeds and is over with the next stop that
succeeds or with the next clean-up. Calls that are refused are not entered, and neither is what is
sent while no device runs.

The devices themselves work on their own, so a `Step` is either a call or one step of the device's
thread, and a schedule is any sequence of steps. The invariant is `Ledger.Covers`: either no device
runs and all that is due has been reported, or one runs that holds certain byte strings, and what is
due is what was reported and what this device owes. Each step keeps it, by what `Device.Holds` says
of the thread. `LoopbackOver.every_device_echoes` draws the conclusion for every schedule, every
refusal by a script or by the system, and channels of every kind that do what is documented of them.
The driver as `Hardware`, whose devices report at once, is one way of scheduling.
-/

namespace SerialBridge

/-! ### What the owner knows -/

/-- The life of a device, as its owner knows it. -/
structure Life where
  /-- The reporter that the driver held when the device was started. -/
  reporter : Reporter
  /-- What was sent while the device ran, in order. -/
  sent : List (List UInt8) := []

namespace Life

/-- What a device reports until it is ended. -/
def begun (life : Life) : List Report := .status statusEngineOn :: life.sent.map .message

/-- What a device reports altogether. -/
def whole (life : Life) : List Report := life.begun ++ [.status statusEngineOff]

end Life

/-- What the owner of a loopback driver knows about it. -/
structure Ledger where
  /-- The reporter that the driver was given, until it cleaned up. -/
  held : Option Reporter := none
  /-- The devices that were ended. -/
  past : List Life := []
  /-- The device that runs, if one does. -/
  current : Option Life := none

namespace Ledger

/-- All devices, in the order of their starts. -/
def lives (g : Ledger) : List Life := g.past ++ g.current.toList

/-- The running device is ended. -/
def close (g : Ledger) : Ledger := { g with past := g.lives, current := none }

/-- What is due of all devices: everything from those that were ended, and everything but the end
from the one that runs. -/
def reports (g : Ledger) : List (Reporter × Report) :=
  (g.past.flatMap fun life => life.whole.map (life.reporter, ·)) ++
    g.current.elim [] fun life => life.begun.map (life.reporter, ·)

/-- What is due to one mailbox. -/
def dueTo (g : Ledger) (number : Nat) : List Report :=
  ((g.past.filter (·.reporter.mailbox = number)).flatMap Life.whole) ++
    (g.current.filter (·.reporter.mailbox = number)).elim [] Life.begun

/-- The number of bytes that were sent while a device ran. -/
def bytes (g : Ledger) : Nat := (g.lives.map fun life => bytesIn life.sent).sum

end Ledger

namespace LoopbackOver

/-! ### Schedules -/

/-- What may happen to a driver next. -/
inductive Step where
  /-- The driver is set up. -/
  | init (reporter : Reporter)
  /-- The device of a link is started. -/
  | start (link : Link)
  /-- Bytes are sent. -/
  | send (bytes : List UInt8)
  /-- The device is stopped. -/
  | stop
  /-- The driver cleans up. -/
  | cleanup
  /-- The device makes a step. -/
  | work

section

variable {κ : Type} [Channel κ]

/-- Carries out a step, leaving it to later steps to let the device report. -/
def perform (l : LoopbackOver κ) : Step → Reply (LoopbackOver κ)
  | .init reporter => l.init reporter
  | .start link => l.launch link
  | .send bytes => { driver := l.enqueue bytes }
  | .stop => l.stop
  | .cleanup => { l.cleanup with }
  | .work => { l.workOne with }

/-- Carries out a step as `Hardware` does, where the device reports at once. -/
def performAtOnce (l : LoopbackOver κ) : Step → Reply (LoopbackOver κ)
  | .init reporter => Hardware.init reporter l
  | .start link => Hardware.start link l
  | .send bytes => { Hardware.send bytes l with }
  | .stop => Hardware.stop l
  | .cleanup => { Hardware.cleanup l with }
  | .work => { l.workOne with }

end

end LoopbackOver

/-- Enters a step and how it ended. -/
def Ledger.enter (g : Ledger) : LoopbackOver.Step → CallResult → Ledger
  | .init reporter, .success => { g with held := some reporter }
  | .start _, .success => { g with current := g.held.map fun reporter => { reporter } }
  | .send bytes, .success =>
    { g with current := g.current.map fun life => { life with sent := life.sent ++ [bytes] } }
  | .stop, .success => g.close
  | .cleanup, .success => { g.close with held := none }
  | _, _ => g

namespace LoopbackOver

/-- What a schedule leaves behind. -/
structure Run (κ : Type) where
  /-- The driver. -/
  driver : LoopbackOver κ
  /-- The reports made, in order. -/
  reports : List (Reporter × Report) := []
  /-- The steps and how they ended. -/
  log : List (Step × CallResult) := []

variable {κ : Type}

namespace Run

/-- One more step, carried out in the given way. -/
def add (how : LoopbackOver κ → Step → Reply (LoopbackOver κ)) (run : Run κ) (step : Step) :
    Run κ :=
  let reply := how run.driver step
  { driver := reply.driver
    reports := run.reports ++ reply.reports
    log := run.log ++ [(step, reply.result)] }

/-- What the owner knows in the end. -/
def ledger (run : Run κ) : Ledger := run.log.foldl (fun g entry => g.enter entry.1 entry.2) {}

theorem ledger_add (how : LoopbackOver κ → Step → Reply (LoopbackOver κ)) (run : Run κ)
    (step : Step) :
    (run.add how step).ledger = run.ledger.enter step (how run.driver step).result := by
  simp [ledger, add]

end Run

/-- Carries out a schedule in the given way. -/
def run (how : LoopbackOver κ → Step → Reply (LoopbackOver κ)) (l : LoopbackOver κ)
    (steps : List Step) : Run κ :=
  steps.foldl (Run.add how) { driver := l }

/-! ### A call that is refused -/

/-- A call left all as it was. It may only have used up an answer of the system. -/
structure Refused (l : LoopbackOver κ) (reply : Reply (LoopbackOver κ)) : Prop where
  /-- The driver is what it was, its device and what waits for it included. -/
  driver : { reply.driver with threads := l.threads } = l
  /-- No report was made. -/
  reports : reply.reports = []

theorem Refused.refl (l : LoopbackOver κ) (result : CallResult) :
    l.Refused { driver := l, result } := ⟨rfl, rfl⟩

variable [Channel κ]

/-- A launch makes no report, and without a device that it makes the driver stays as it was. -/
theorem launch_silent (link : Link) (l : LoopbackOver κ) :
    (l.launch link).reports = [] ∧
      ((l.launch link).result ≠ .success → l.Refused (l.launch link)) := by
  rw [launch]
  split
  · exact ⟨rfl, fun _ => .refl l _⟩
  · exact ⟨rfl, fun _ => .refl l _⟩
  · exact ⟨rfl, fun _ => .refl l _⟩
  · split
    · exact ⟨rfl, fun _ => .refl l _⟩
    · rw [spawn]
      split
      · exact ⟨rfl, fun hresult => absurd rfl hresult⟩
      · exact ⟨rfl, fun _ => ⟨rfl, rfl⟩⟩

/-- A start that launches a device lets it report. -/
theorem start_of_launched {link : Link} {l : LoopbackOver κ}
    (h : (l.launch link).result = .success) :
    l.start link = { (l.launch link).driver.workOff with } := by
  rw [start, h]

/-- A start that does not is nothing but the launch. -/
theorem start_of_not_launched {link : Link} {l : LoopbackOver κ}
    (h : (l.launch link).result ≠ .success) : l.start link = l.launch link := by
  rw [start]
  cases hlaunch : (l.launch link).result with
  | success => exact absurd hlaunch h
  | refused | fault => rfl

/-- A stop that does not succeed leaves everything as it was. -/
theorem refused_stop (l : LoopbackOver κ) (h : l.stop.result ≠ .success) : l.Refused l.stop := by
  rw [stop] at h ⊢
  split at h
  · exact .refl l _
  · exact .refl l _
  · exact absurd rfl h

/-- **What starting comes to**, in the order of the checks. -/
theorem result_launch (link : Link) (l : LoopbackOver κ) : (l.launch link).result =
    match l.failStart with
    | some code => .refused ⟨code⟩
    | none =>
      if l.isRunning then .refused ⟨errBusy⟩
      else if l.reporter.isNone then .refused ⟨errNotInitialized⟩
      else if '\x00' ∈ link.device.toList then .fault .nulInThreadName
      else if l.threads.headD true then .success
      else .refused ⟨errBusy⟩ := by
  rw [launch, isRunning]
  cases l.failStart with
  | some code => rfl
  | none =>
    cases l.device with
    | some d => rfl
    | none =>
      cases l.reporter with
      | none => rfl
      | some r => simp only [spawn, apply_ite Reply.result]; rfl

theorem result_stop (l : LoopbackOver κ) : l.stop.result =
    match l.failStop with
    | some code => .refused ⟨code⟩
    | none => if l.isRunning then .success else .refused ⟨errNotRunning⟩ := by
  rw [stop, isRunning]
  cases l.failStop with
  | some code => rfl
  | none => cases l.device <;> rfl

end LoopbackOver

/-! ### The ledger is kept -/

section

variable {κ : Type} [Channel κ]

/-- A ledger tells of a driver and of the reports that were made so far. -/
inductive Ledger.Covers (waiting : κ → List Instruction) (isOpen : κ → Bool) (g : Ledger)
    (made : List (Reporter × Report)) (l : LoopbackOver κ) : Prop where
  /-- No device runs, and all that was due has been reported. -/
  | idle (held : l.reporter = g.held) (device : l.device = none) (current : g.current = none)
      (reports : made = g.reports) (echoed : l.echoed = UInt64.ofNat g.bytes)
  /-- A device runs, with the reporter with which it was started. What was due has been reported or
  is owed by it. -/
  | running {d : Device κ} {life : Life} {queue : List (List UInt8)} (held : l.reporter = g.held)
      (device : l.device = some d) (current : g.current = some life)
      (holds : d.Holds waiting isOpen queue) (through : d.reporter = life.reporter)
      (reports : made ++ (d.owed queue).map (d.reporter, ·) = g.reports)
      (echoed : l.echoed + UInt64.ofNat (bytesIn queue) = UInt64.ofNat g.bytes)

end

namespace Ledger

variable {g : Ledger} {life : Life}

/-- What is sent is due as a message of the device that runs. -/
theorem reports_send (h : g.current = some life) (bytes : List UInt8) :
    (g.enter (.send bytes) .success).reports = g.reports ++ [(life.reporter, .message bytes)] := by
  simp [enter, reports, h, Life.begun]

theorem bytes_send (h : g.current = some life) (bytes : List UInt8) :
    (g.enter (.send bytes) .success).bytes = g.bytes + bytes.length := by
  simp [enter, Ledger.bytes, lives, h, bytesIn, Nat.add_assoc]

/-- What is sent to nobody is not entered. -/
theorem enter_send_of_none (h : g.current = none) (bytes : List UInt8) :
    g.enter (.send bytes) .success = g := by
  rw [enter, h, Option.map_none, ← h]

/-- The end of a device is due when it is ended. -/
theorem reports_close (h : g.current = some life) :
    g.close.reports = g.reports ++ [(life.reporter, .status statusEngineOff)] := by
  simp [close, lives, reports, h, Life.whole]

theorem bytes_close (g : Ledger) : g.close.bytes = g.bytes := by simp [close, lives, bytes]

theorem close_of_none (h : g.current = none) : g.close = g := by
  cases g
  obtain rfl := h
  simp [close, lives]

/-- A call that does not succeed is not entered. -/
theorem enter_of_ne_success (g : Ledger) (step : LoopbackOver.Step) {result : CallResult}
    (h : result ≠ .success) : g.enter step result = g := by
  cases result with
  | success => exact absurd rfl h
  | refused | fault => cases step <;> rfl

end Ledger

namespace Ledger.Covers

open LoopbackOver

variable {κ : Type} {waiting : κ → List Instruction} {isOpen : κ → Bool}
  {g : Ledger} {made : List (Reporter × Report)} {l : LoopbackOver κ}

/-- The driver holds the reporter that it was given. -/
theorem held (h : g.Covers waiting isOpen made l) : l.reporter = g.held := by
  cases h with
  | idle held => exact held
  | running held => exact held

/-- Only what decides it whether a ledger tells of a driver matters. -/
theorem congr {l' : LoopbackOver κ} (h : g.Covers waiting isOpen made l)
    (hreporter : l'.reporter = l.reporter) (hdevice : l'.device = l.device)
    (hechoed : l'.echoed = l.echoed) : g.Covers waiting isOpen made l' := by
  cases h with
  | idle held device current reports echoed =>
    exact .idle (hreporter.trans held) (hdevice.trans device) current reports (hechoed.trans echoed)
  | running held device current holds through reports echoed =>
    exact .running (hreporter.trans held) (hdevice.trans device) current holds through reports
      (hechoed ▸ echoed)

/-- **A call that is refused** is not entered, and there is nothing to enter. -/
theorem refused (h : g.Covers waiting isOpen made l) (step : Step)
    {reply : Reply (LoopbackOver κ)} (hresult : reply.result ≠ .success)
    (hrefused : l.Refused reply) :
    (g.enter step reply.result).Covers waiting isOpen (made ++ reply.reports) reply.driver := by
  obtain ⟨hdriver, hreports⟩ := hrefused
  rw [g.enter_of_ne_success step hresult, hreports, List.append_nil]
  have hreporter := congrArg LoopbackOver.reporter hdriver
  have hdevice := congrArg LoopbackOver.device hdriver
  have hechoed := congrArg LoopbackOver.echoed hdriver
  exact h.congr hreporter hdevice hechoed

theorem isRunning_eq (h : g.Covers waiting isOpen made l) :
    l.isRunning = g.current.isSome := by
  cases h with
  | idle held device current => rw [isRunning, device, current]; rfl
  | running held device current => rw [isRunning, device, current]; rfl

/-- **Setting up** concerns the next device only. -/
theorem init (h : g.Covers waiting isOpen made l) (reporter : Reporter) :
    (g.enter (.init reporter) (l.init reporter).result).Covers waiting isOpen
      (made ++ (l.init reporter).reports) (l.init reporter).driver := by
  rw [LoopbackOver.init]
  split
  · exact h.refused _ nofun (.refl l _)
  · rw [List.append_nil]
    cases h with
    | idle held device current reports echoed => exact .idle rfl device current reports echoed
    | running held device current holds through reports echoed =>
      exact .running rfl device current holds through reports echoed

variable [Channel κ] (hchannel : Channel.Documented waiting isOpen)

include hchannel

/-- **Starting**: the device that is made owes the report of its start. -/
theorem launch (h : g.Covers waiting isOpen made l) (link : Link) :
    (g.enter (.start link) (l.launch link).result).Covers waiting isOpen
      (made ++ (l.launch link).reports) (l.launch link).driver := by
  by_cases hresult : (l.launch link).result = .success
  · -- A launch succeeds at its end only, behind all checks.
    rw [LoopbackOver.launch] at hresult ⊢
    split at hresult
    · cases hresult
    · cases hresult
    · cases hresult
    · next reporter _ hdevice hreporter =>
      split at hresult
      · cases hresult
      · rw [spawn] at hresult ⊢
        split at hresult
        · next hname hthread =>
          cases h with
          | running held device => rw [hdevice] at device; cases device
          | idle held device current reports echoed =>
            have hheld : g.held = some reporter := held.symm.trans hreporter
            have hcurrent : (g.enter (.start link) .success).current = some { reporter } := by
              rw [enter, hheld, Option.map_some]
            rw [if_neg hname, if_pos hthread, List.append_nil]
            refine .running held rfl hcurrent (.new hchannel reporter) rfl ?_ ?_
            · simp [enter, hheld, Device.owed, reports, Ledger.reports, current, Life.begun]
            · simp [enter, hheld, echoed, bytes, lives, current, bytesIn]
        · cases hresult
  · exact h.refused _ hresult ((launch_silent link l).2 hresult)

/-- **Sending**: the running device owes an echo of what it is sent. -/
theorem enqueue (h : g.Covers waiting isOpen made l) (bytes : List UInt8) :
    (g.enter (.send bytes) .success).Covers waiting isOpen made (l.enqueue bytes) := by
  cases h with
  | idle held device current reports echoed =>
    rw [enter_send_of_none current]
    refine .idle held ?_ current reports echoed
    rw [LoopbackOver.enqueue, device]
    rfl
  | @running d life queue held device current holds through reports echoed =>
    obtain ⟨htold, hannounced, hreporter⟩ := holds.tell hchannel bytes
    have hcurrent : (g.enter (.send bytes) .success).current
        = some { life with sent := life.sent ++ [bytes] } := by
      rw [enter, current, Option.map_some]
    refine .running held ?_ hcurrent htold (hreporter.trans through) ?_ ?_
    · rw [LoopbackOver.enqueue, device]
      rfl
    · rw [reports_send current, ← reports, hreporter, Device.owed, Device.owed, hannounced, through]
      simp
    · rw [bytes_send current, UInt64.ofNat_add, ← echoed, bytesIn_append, UInt64.ofNat_add,
        ← UInt64.add_assoc]
      simp [LoopbackOver.enqueue, bytesIn]

/-- **Working**: a report that is made was due. -/
theorem workOne (h : g.Covers waiting isOpen made l) :
    g.Covers waiting isOpen (made ++ l.workOne.reports) l.workOne.driver := by
  cases h with
  | idle held device current reports echoed =>
    rw [LoopbackOver.workOne, device, Option.elim_none, List.append_nil]
    exact .idle held device current reports echoed
  | running held device current holds through reports echoed =>
    obtain ⟨queue', hholds, hreporter, hreports, hechoed⟩ := holds.step hchannel
    rw [LoopbackOver.workOne, device, Option.elim_some]
    refine .running held rfl current hholds (hreporter.trans through) ?_ ?_
    · rw [← reports, ← hreports, follow, hreporter, List.map_append, List.append_assoc]
    · rw [← echoed, ← hechoed, follow, UInt64.add_assoc]

/-- A device that is left alone makes the reports that were due, and owes nothing. -/
theorem workOff (h : g.Covers waiting isOpen made l) :
    g.Covers waiting isOpen (made ++ l.workOff.reports) l.workOff.driver ∧
      made ++ l.workOff.reports = g.reports ∧ l.workOff.driver.echoed = UInt64.ofNat g.bytes := by
  cases h with
  | idle held device current reports echoed =>
    rw [LoopbackOver.workOff, device, Option.elim_none, List.append_nil]
    exact ⟨.idle held device current reports echoed, reports, echoed⟩
  | @running d life queue held device current holds through reports echoed =>
    obtain ⟨d', hholds, hannounced, hreporter, hcourse⟩ := holds.runOut hchannel
    have howed : d'.owed [] = [] := by rw [Device.owed_of_announced hannounced, List.map_nil]
    have hmade : made ++ (l.follow d.runOut).reports = g.reports := by
      rw [← reports, follow, hcourse, hreporter]
    have hbytes : (l.follow d.runOut).driver.echoed = UInt64.ofNat g.bytes := by
      rw [← echoed, follow, hcourse]
    rw [LoopbackOver.workOff, device, Option.elim_some]
    refine ⟨.running held (d := d') ?_ current hholds (hreporter.trans through) ?_ ?_, hmade,
      hbytes⟩
    · rw [follow, hcourse]
    · rw [hmade, howed, List.map_nil, List.append_nil]
    · rw [hbytes, bytesIn]
      simp

/-- **The end** of a device. However it is brought about, all that was due has been reported once
the thread has been waited for. -/
theorem join (h : g.Covers waiting isOpen made l) {d : Device κ} (hdevice : l.device = some d) :
    ∀ last ∈ [d.tell .shutdown, d.release],
      last.runOut.device.ended = true ∧
        g.close.Covers waiting isOpen (made ++ (l.join last).reports) (l.join last).driver ∧
        made ++ (l.join last).reports = g.close.reports := by
  cases h with
  | idle held device => rw [device] at hdevice; cases hdevice
  | @running d₀ life queue held device current holds through reports echoed =>
    obtain rfl : d₀ = d := Option.some.inj (device.symm.trans hdevice)
    have hboth : ∀ last ∈ [d₀.tell .shutdown, d₀.release],
        ∃ d' : Device κ, d'.ended = true ∧ d'.reporter = d₀.reporter ∧
          last.runOut = { device := d'
                          reports := d₀.owed queue ++ [.status statusEngineOff]
                          echoed := UInt64.ofNat (bytesIn queue) } := by
      simpa using ⟨holds.runOut_shutdown hchannel, holds.runOut_release hchannel⟩
    intro last hlast
    obtain ⟨d', hended, hreporter, hcourse⟩ := hboth last hlast
    have hmade : made ++ (l.join last).reports = g.close.reports := by
      rw [reports_close current, ← reports, LoopbackOver.join, follow, hcourse, hreporter, through]
      simp
    refine ⟨by rw [hcourse]; exact hended, .idle held rfl rfl hmade ?_, hmade⟩
    rw [bytes_close, ← echoed, LoopbackOver.join, follow, hcourse]

/-- **Stopping** ends the device, unless it is refused. -/
theorem stop (h : g.Covers waiting isOpen made l) :
    (g.enter .stop l.stop.result).Covers waiting isOpen (made ++ l.stop.reports) l.stop.driver ∧
      (l.stop.result = .success → made ++ l.stop.reports = g.close.reports) := by
  rw [LoopbackOver.stop]
  split
  · exact ⟨h.refused _ nofun (.refl l _), nofun⟩
  · exact ⟨h.refused _ nofun (.refl l _), nofun⟩
  · next d _ hdevice =>
    obtain ⟨-, hcovers, hmade⟩ := h.join hchannel hdevice _ (List.mem_cons_self ..)
    exact ⟨hcovers, fun _ => hmade⟩

/-- **Cleaning up** ends the device and gives up the reporter. -/
theorem cleanup (h : g.Covers waiting isOpen made l) :
    (g.enter .cleanup .success).Covers waiting isOpen (made ++ l.cleanup.reports)
        l.cleanup.driver ∧
      made ++ l.cleanup.reports = g.close.reports ∧ l.cleanup.driver.device = none := by
  -- Either way there is no device in the end, so that only the reporter has to be given up.
  have hended : g.close.Covers waiting isOpen (made ++ l.cleanup.reports)
      (l.device.elim { driver := l } fun d => l.join d.release).driver ∧
        made ++ l.cleanup.reports = g.close.reports ∧ l.cleanup.driver.device = none := by
    rw [LoopbackOver.cleanup]
    cases hdevice : l.device with
    | none =>
      have hcurrent : g.current = none := by
        have hrunning := h.isRunning_eq
        rw [isRunning, hdevice] at hrunning
        exact Option.isSome_eq_false_iff.mp hrunning.symm |> Option.isNone_iff_eq_none.mp
      rw [Option.elim_none, List.append_nil, close_of_none hcurrent]
      cases h with
      | idle held device current reports echoed =>
        exact ⟨.idle held device current reports echoed, reports, device⟩
      | running held device => rw [hdevice] at device; cases device
    | some d =>
      obtain ⟨-, hcovers, hmade⟩ := h.join hchannel hdevice d.release (by simp)
      exact ⟨hcovers, hmade, rfl⟩
  obtain ⟨hcovers, hmade, hnone⟩ := hended
  refine ⟨?_, hmade, hnone⟩
  cases hcovers with
  | idle held device current reports echoed => exact .idle rfl device current reports echoed
  | running held device => exact absurd (device.symm.trans hnone) nofun

/-- **One step** of a schedule. -/
theorem perform (h : g.Covers waiting isOpen made l) (step : Step) :
    (g.enter step (l.perform step).result).Covers waiting isOpen
      (made ++ (l.perform step).reports) (l.perform step).driver := by
  cases step with
  | init reporter => exact h.init reporter
  | start link => exact h.launch hchannel link
  | send bytes =>
    rw [LoopbackOver.perform, List.append_nil]
    exact h.enqueue hchannel bytes
  | stop => exact (h.stop hchannel).1
  | cleanup => exact (h.cleanup hchannel).1
  | work => exact h.workOne hchannel

/-- **One call** of the driver as hardware, after which nothing is owed. -/
theorem performAtOnce (h : g.Covers waiting isOpen made l) (hmade : made = g.reports)
    (step : Step) :
    (g.enter step (l.performAtOnce step).result).Covers waiting isOpen
        (made ++ (l.performAtOnce step).reports) (l.performAtOnce step).driver ∧
      made ++ (l.performAtOnce step).reports
        = (g.enter step (l.performAtOnce step).result).reports := by
  -- Where a call is refused, there is nothing to enter and nothing was reported.
  have hrefused {step : Step} {reply : Reply (LoopbackOver κ)} (hresult : reply.result ≠ .success)
      (hreports : reply.reports = []) :
      made ++ reply.reports = (g.enter step reply.result).reports := by
    rw [g.enter_of_ne_success step hresult, hreports, List.append_nil, hmade]
  cases step with
  | init reporter =>
    refine ⟨h.init reporter, ?_⟩
    show made ++ (l.init reporter).reports = (g.enter _ (l.init reporter).result).reports
    rw [LoopbackOver.init]
    split
    · exact hrefused nofun rfl
    · exact (List.append_nil made).trans hmade
  | start link =>
    -- A launch makes no report; what the new device owes is worked off at once.
    have hlaunched := h.launch hchannel link
    obtain ⟨hsilent, -⟩ := launch_silent link l
    by_cases hresult : (l.launch link).result = .success
    · have hstart : l.performAtOnce (.start link) = { (l.launch link).driver.workOff with } :=
        start_of_launched hresult
      rw [hresult, hsilent, List.append_nil] at hlaunched
      obtain ⟨hcovers, hreports, -⟩ := hlaunched.workOff hchannel
      rw [hstart]
      exact ⟨hcovers, hreports⟩
    · have hstart : l.performAtOnce (.start link) = l.launch link := start_of_not_launched hresult
      rw [hstart]
      exact ⟨hlaunched, hrefused hresult hsilent⟩
  | send bytes =>
    obtain ⟨hcovers, hreports, -⟩ := (h.enqueue hchannel bytes).workOff hchannel
    exact ⟨hcovers, hreports⟩
  | stop =>
    refine ⟨(h.stop hchannel).1, ?_⟩
    show made ++ l.stop.reports = (g.enter .stop l.stop.result).reports
    by_cases hresult : l.stop.result = .success
    · rw [hresult, (h.stop hchannel).2 hresult]
      rfl
    · exact hrefused hresult (l.refused_stop hresult).reports
  | cleanup => exact ⟨(h.cleanup hchannel).1, (h.cleanup hchannel).2.1⟩
  | work =>
    have hcovers := h.workOne hchannel
    refine ⟨hcovers, ?_⟩
    show made ++ l.workOne.reports = g.reports
    cases hcovers with
    | idle held device current reports echoed => exact reports
    | running held device current holds through reports echoed =>
      -- All that is due was made before, so that nothing can have been added.
      rw [List.append_assoc, ← hmade] at reports
      rw [(List.append_eq_nil_iff.mp (List.append_right_eq_self.mp reports)).1, List.append_nil,
        hmade]

end Ledger.Covers

/-! ### What a mailbox gets -/

/-- The reports that go to one mailbox. -/
def received (number : Nat) (reports : List (Reporter × Report)) : List Report :=
  (reports.filter (·.1.mailbox = number)).map (·.2)

theorem received_append (number : Nat) (reports reports' : List (Reporter × Report)) :
    received number (reports ++ reports')
      = received number reports ++ received number reports' := by
  simp [received]

/-- Reports through one reporter all go to its mailbox. -/
theorem received_through (number : Nat) (r : Reporter) (reports : List Report) :
    received number (reports.map (r, ·)) = if r.mailbox = number then reports else [] := by
  rw [received, List.filter_map]
  split
  · next h => simp [Function.comp_def, h]
  · next h => simp [Function.comp_def, h]

/-- A mailbox gets the reports that go to it, in order, and no others. -/
theorem getElem?_reportAll (mailboxes : List Mailbox) (reports : List (Reporter × Report))
    (number : Nat) :
    (reportAll mailboxes reports)[number]?
      = mailboxes[number]?.map (·.postAll ((received number reports).map Report.signal)) := by
  induction reports generalizing mailboxes with
  | nil => simp [reportAll, received, Mailbox.postAll]
  | cons r reports ih =>
    show (reportAll (postTo mailboxes r.1.mailbox r.2.signal) reports)[number]? = _
    rw [ih, postTo, List.getElem?_modify, Option.map_eq_map, Option.map_map]
    by_cases hr : r.1.mailbox = number
    · simp [received, hr, Mailbox.postAll, Function.comp_def]
    · simp [received, hr, Function.comp_def]

theorem Ledger.received_reports (g : Ledger) (number : Nat) :
    received number g.reports = g.dueTo number := by
  have hpast (past : List Life) :
      received number (past.flatMap fun life => life.whole.map (life.reporter, ·))
        = (past.filter (·.reporter.mailbox = number)).flatMap Life.whole := by
    induction past with
    | nil => rfl
    | cons life past ih =>
      rw [List.flatMap_cons, received_append, ih, received_through, List.filter_cons]
      split <;> simp_all
  rw [reports, dueTo, received_append, hpast]
  congr 1
  cases g.current with
  | none => rfl
  | some life =>
    rw [Option.elim_some, received_through, Option.filter_some]
    split <;> simp_all

namespace LoopbackOver

section

variable {κ : Type} [Channel κ]

/-- What the owner of a loopback driver may rely on. -/
structure Run.Echoes (run : Run κ) : Prop where
  /-- The reports that were made, and those that the running device makes if it is left alone, are
  those of the lives of all devices, in order. -/
  reports : run.reports ++ run.driver.workOff.reports = run.ledger.reports
  /-- Each mailbox gets the reports of the devices that were started with its reporter. -/
  mailbox : ∀ (mailboxes : List Mailbox) (number : Nat),
    (reportAll mailboxes (run.reports ++ run.driver.workOff.reports))[number]?
      = mailboxes[number]?.map (·.postAll ((run.ledger.dueTo number).map Report.signal))
  /-- When cleaning up returns, all reports have been made, the end of the device included. -/
  cleaned : run.reports ++ run.driver.cleanup.reports = run.ledger.close.reports
  /-- Stopping makes the same reports as cleaning up, if no script speaks against it. -/
  stopped : run.driver.failStop = none → run.driver.stop.reports = run.driver.cleanup.reports
  /-- Both ways to end a device bring its thread to an end while it is waited for. -/
  joined : ∀ d ∈ run.driver.device, (d.tell .shutdown).runOut.device.ended = true ∧
    d.release.runOut.device.ended = true
  /-- The bytes that were sent while a device ran have been echoed, or will be by the running device
  if it is left alone. -/
  echoed : run.driver.workOff.driver.echoed = UInt64.ofNat run.ledger.bytes
  /-- Where no device runs, no report is owed and no byte waits. -/
  rests : run.ledger.current = none →
    run.reports = run.ledger.reports ∧ run.driver.echoed = UInt64.ofNat run.ledger.bytes
  /-- A start succeeds exactly if nothing speaks against it: no script, no running device, a driver
  that was set up, a name that a thread can have, and a system that makes the thread. -/
  starts : ∀ link, (run.driver.launch link).result = .success ↔
    run.driver.failStart = none ∧ run.ledger.current = none ∧ run.ledger.held ≠ none ∧
      '\x00' ∉ link.device.toList ∧ run.driver.threads.headD true = true
  /-- A stop succeeds exactly if no script speaks against it and a device runs. -/
  stops : run.driver.stop.result = .success ↔
    run.driver.failStop = none ∧ run.ledger.current ≠ none

variable {waiting : κ → List Instruction} {isOpen : κ → Bool}
  (hchannel : Channel.Documented waiting isOpen)

include hchannel

theorem Run.Echoes.of_covers {run : Run κ}
    (h : run.ledger.Covers waiting isOpen run.reports run.driver) : run.Echoes where
  reports := (h.workOff hchannel).2.1
  mailbox mailboxes number := by
    rw [getElem?_reportAll, (h.workOff hchannel).2.1, Ledger.received_reports]
  cleaned := (h.cleanup hchannel).2.1
  stopped hwilling := by
    -- The two ways to end a device have the same outcome: all that was due has been reported.
    have hcleaned := (h.cleanup hchannel).2.1
    cases hdevice : run.driver.device with
    | none =>
      rw [stop, cleanup, hwilling, hdevice]
      rfl
    | some d =>
      have hstop : run.driver.stop.result = .success := by
        rw [result_stop, hwilling, isRunning, hdevice]
        rfl
      exact List.append_cancel_left (((h.stop hchannel).2 hstop).trans hcleaned.symm)
  joined d hd := by
    have hjoin := h.join hchannel (Option.mem_def.mp hd)
    exact ⟨(hjoin _ (by simp)).1, (hjoin _ (by simp)).1⟩
  echoed := (h.workOff hchannel).2.2
  rests hcurrent := by
    cases h with
    | idle held device current reports echoed => exact ⟨reports, echoed⟩
    | running held device current => rw [hcurrent] at current; cases current
  starts link := by
    have hcurrent : run.ledger.current = none ↔ run.driver.isRunning = false := by
      rw [h.isRunning_eq, Option.isSome_eq_false_iff, Option.isNone_iff_eq_none]
    rw [hcurrent, ← h.held, result_launch]
    -- Each check that a start does not pass is one of the conditions that fails.
    cases run.driver.failStart with
    | some code => simp
    | none =>
      cases run.driver.isRunning with
      | true => simp
      | false =>
        cases run.driver.reporter with
        | none => simp
        | some r =>
          generalize run.driver.threads.headD true = made
          by_cases hname : '\x00' ∈ link.device.toList <;> cases made <;> simp [hname]
  stops := by
    have hcurrent : run.ledger.current ≠ none ↔ run.driver.isRunning = true := by
      rw [h.isRunning_eq, Option.isSome_iff_ne_none]
    rw [hcurrent, result_stop]
    split
    · simp_all
    · split <;> simp_all

end

/-- **The loopback driver echoes everything.** Whatever is refused, by a script or by the system,
and however its owner calls it while its devices work on their own, each device reports its start,
everything that it is sent and its end, once and in order, through the reporter that the driver held
when the device was started. As hardware, where devices report at once, the driver never owes a
report. All of this is so over any channels that do what is documented of them. -/
theorem every_device_echoes {κ : Type} [Channel κ] {waiting : κ → List Instruction}
    {isOpen : κ → Bool} (hchannel : Channel.Documented waiting isOpen)
    (failInit failStart failStop : Option Int32) (threads : List Bool) (steps : List Step) :
    let l : LoopbackOver κ := { failInit, failStart, failStop, threads }
    (run perform l steps).Echoes ∧ (run performAtOnce l steps).Echoes ∧
      (run performAtOnce l steps).driver.workOff.reports = [] := by
  intro l
  let start : Run κ := { driver := l }
  have hstart : start.ledger.Covers waiting isOpen start.reports start.driver :=
    .idle rfl rfl rfl rfl rfl
  have hperform : (run perform l steps).ledger.Covers waiting isOpen (run perform l steps).reports
      (run perform l steps).driver := by
    refine List.foldlRecOn steps
      (motive := fun run => run.ledger.Covers waiting isOpen run.reports run.driver)
      (Run.add perform) hstart fun run h step _ => ?_
    rw [Run.ledger_add]
    exact h.perform hchannel step
  have hatOnce : (run performAtOnce l steps).ledger.Covers waiting isOpen
      (run performAtOnce l steps).reports (run performAtOnce l steps).driver ∧
        (run performAtOnce l steps).reports = (run performAtOnce l steps).ledger.reports := by
    refine List.foldlRecOn steps
      (motive := fun run => run.ledger.Covers waiting isOpen run.reports run.driver ∧
        run.reports = run.ledger.reports)
      (Run.add performAtOnce) ⟨hstart, rfl⟩ fun run h step _ => ?_
    rw [Run.ledger_add]
    exact h.1.performAtOnce hchannel h.2 step
  refine ⟨.of_covers hchannel hperform, .of_covers hchannel hatOnce.1, ?_⟩
  have hmade := (hatOnce.1.workOff hchannel).2.1
  rw [← hatOnce.2] at hmade
  exact List.append_right_eq_self.mp hmade

/-- The system refuses the first thread, a device keeps its reporter when the driver gets another,
an empty string is echoed too, and the second device is ended by cleaning up. -/
theorem two_devices_echo :
    let l : Loopback := { threads := [false] }
    let steps : List Step := [.init ⟨0, 8⟩, .start {}, .start {}, .send [80], .init ⟨1, 8⟩, .work,
      .send [], .stop, .start {}, .send [81], .cleanup]
    Channel.Documented InstructionQueue.waiting InstructionQueue.isOpen ∧
      (run perform l steps).Echoes ∧
      (run perform l steps).reports = [(⟨0, 8⟩, .status 1), (⟨0, 8⟩, .message [80]),
        (⟨0, 8⟩, .message []), (⟨0, 8⟩, .status 2), (⟨1, 8⟩, .status 1), (⟨1, 8⟩, .message [81]),
        (⟨1, 8⟩, .status 2)] :=
  ⟨InstructionQueue.documented,
    (every_device_echoes InstructionQueue.documented none none none [false] _).1, by decide⟩

end LoopbackOver

end SerialBridge
