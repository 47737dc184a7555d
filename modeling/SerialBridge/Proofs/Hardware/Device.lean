import Mathlib.Data.UInt
import SerialBridge.Hardware.Loopback

/-!
# The thread of a loopback device

A device shares nothing with its driver but a channel, so what it reports has to be told from what
is in the channel. `Device.Holds` says that a device is alive, that its sender has not been given
up, and that certain byte strings wait for it and nothing else; `Device.owed` are the reports that
it then owes.

The statements are about any channels that do what is documented of them. A device that holds byte
strings and is left alone echoes them and goes on waiting (`Device.Holds.runOut`). There are two
ways to end it, and they end its loop at different places: told to shut down, it receives the
instruction behind all byte strings; released, it finds the channel disconnected after the last of
them. In both cases it has echoed all that it held, and its thread has come to an end
(`Device.Holds.runOut_shutdown`, `Device.Holds.runOut_release`).
-/

namespace SerialBridge

/-- The number of bytes in a list of byte strings. -/
def bytesIn (queue : List (List UInt8)) : Nat := (queue.map List.length).sum

theorem bytesIn_append (queue queue' : List (List UInt8)) :
    bytesIn (queue ++ queue') = bytesIn queue + bytesIn queue' := by
  simp [bytesIn]

namespace Course

variable {κ : Type}

@[simp] theorem nil_followedBy (d : Device κ) (c : Course κ) :
    ({ device := d } : Course κ).followedBy c = c := by
  simp [followedBy]

theorem followedBy_assoc (c c' c'' : Course κ) :
    (c.followedBy c').followedBy c'' = c.followedBy (c'.followedBy c'') := by
  simp [followedBy, UInt64.add_assoc]

end Course

namespace Device

variable {κ : Type} [Channel κ]

theorem run_succ (n : Nat) (d : Device κ) :
    d.run (n + 1) = d.step.followedBy (d.step.device.run n) := rfl

/-- A device that does nothing in one step does nothing in many. -/
theorem run_of_idle {d : Device κ} (h : d.step = { device := d }) (n : Nat) :
    d.run n = { device := d } := by
  induction n with
  | zero => rfl
  | succ n ih => rw [run_succ, h, Course.nil_followedBy, ih]

/-- A thread that has ended does nothing any more. -/
theorem run_of_ended {d : Device κ} (h : d.ended = true) (n : Nat) : d.run n = { device := d } :=
  run_of_idle (by rw [step, if_pos h]) n

/-- The first step reports the start. -/
theorem step_of_new {d : Device κ} (halive : d.ended = false) (hnew : d.announced = false) :
    d.step = { device := { d with announced := true }, reports := [.status statusEngineOn] } := by
  simp [step, halive, hnew]

/-- After that, a step is what comes of receiving. -/
theorem step_of_announced {d : Device κ} (halive : d.ended = false)
    (hannounced : d.announced = true) : d.step = d.receive := by
  simp [step, halive, hannounced]

theorem step_of_waits {d : Device κ} (halive : d.ended = false) (hannounced : d.announced = true)
    (h : Channel.receive d.channel = .waits) : d.step = { device := d } := by
  simp only [step_of_announced halive hannounced, receive, h]

theorem step_of_shutdown {d : Device κ} (halive : d.ended = false) (hannounced : d.announced = true)
    {rest : κ} (h : Channel.receive d.channel = .instruction .shutdown rest) :
    d.step = { device := { d with channel := rest, ended := true }
               reports := [.status statusEngineOff] } := by
  simp only [step_of_announced halive hannounced, receive, h]

theorem step_of_disconnected {d : Device κ} (halive : d.ended = false)
    (hannounced : d.announced = true) (h : Channel.receive d.channel = .disconnected) :
    d.step = { device := { d with ended := true }, reports := [.status statusEngineOff] } := by
  simp only [step_of_announced halive hannounced, receive, h]

section

omit [Channel κ]

/-- The reports that a device owes that holds these byte strings, in order. -/
def owed (d : Device κ) (queue : List (List UInt8)) : List Report :=
  (if d.announced then [] else [.status statusEngineOn]) ++ queue.map .message

theorem owed_of_announced {d : Device κ} (h : d.announced = true) (queue : List (List UInt8)) :
    d.owed queue = queue.map .message := by
  simp [owed, h]

theorem length_owed_le (d : Device κ) (queue : List (List UInt8)) :
    (d.owed queue).length ≤ queue.length + 1 := by
  rw [owed]
  split <;> simp

end

variable {waiting : κ → List Instruction} {isOpen : κ → Bool}
  (hchannel : Channel.Documented waiting isOpen) {d : Device κ} {queue : List (List UInt8)}

section

include hchannel

/-- Bytes that wait are echoed. -/
theorem step_of_bytes (halive : d.ended = false) (hannounced : d.announced = true)
    {bytes : List UInt8} {is : List Instruction} (h : waiting d.channel = .bytes bytes :: is) :
    ∃ rest, waiting rest = is ∧ isOpen rest = isOpen d.channel ∧
      d.step = { device := { d with channel := rest }
                 reports := [.message bytes]
                 echoed := UInt64.ofNat bytes.length } := by
  obtain ⟨rest, hreceive, hrest, hopen⟩ := hchannel.receive_of_cons _ _ _ h
  exact ⟨rest, hrest, hopen, by simp only [step_of_announced halive hannounced, receive, hreceive]⟩

/-- **The loop of the thread.** A device that has reported its start echoes all byte strings that
wait in front of other instructions. What it does then is told from those. -/
theorem run_queue (halive : d.ended = false) (hannounced : d.announced = true)
    {is : List Instruction} (h : waiting d.channel = queue.map .bytes ++ is) :
    ∃ rest, waiting rest = is ∧ isOpen rest = isOpen d.channel ∧
      ∀ n, d.run (queue.length + n) =
        ({ device := d
           reports := queue.map .message
           echoed := UInt64.ofNat (bytesIn queue) } : Course κ).followedBy
          (run n { d with channel := rest }) := by
  -- One byte string is one step, so the induction is on the queue, and the channel changes with it.
  induction queue generalizing d with
  | nil => exact ⟨d.channel, h, rfl, fun n => by simp [bytesIn]⟩
  | cons bytes queue ih =>
    obtain ⟨next, hnext, hnextOpen, hstep⟩ := step_of_bytes hchannel halive hannounced h
    obtain ⟨rest, hrest, hrestOpen, hrun⟩ := ih (d := { d with channel := next }) halive hannounced
      hnext
    refine ⟨rest, hrest, hrestOpen.trans hnextOpen, fun n => ?_⟩
    rw [List.length_cons, Nat.add_right_comm, run_succ, hstep, hrun, ← Course.followedBy_assoc]
    simp [Course.followedBy, bytesIn, UInt64.ofNat_add]

/-- **All that a device owes**, whether or not it has reported its start. -/
theorem run_owed (halive : d.ended = false) {is : List Instruction}
    (h : waiting d.channel = queue.map .bytes ++ is) :
    ∃ rest, waiting rest = is ∧ isOpen rest = isOpen d.channel ∧
      ∀ n, d.run ((d.owed queue).length + n) =
        ({ device := d
           reports := d.owed queue
           echoed := UInt64.ofNat (bytesIn queue) } : Course κ).followedBy
          (run n { d with announced := true, channel := rest }) := by
  cases hannounced : d.announced with
  | true =>
    obtain ⟨rest, hrest, hopen, hrun⟩ := run_queue hchannel halive hannounced h
    refine ⟨rest, hrest, hopen, fun n => ?_⟩
    rw [owed_of_announced hannounced, List.length_map, hrun]
    simp [hannounced]
  | false =>
    obtain ⟨rest, hrest, hopen, hrun⟩ :=
      run_queue hchannel (d := { d with announced := true }) halive rfl h
    refine ⟨rest, hrest, hopen, fun n => ?_⟩
    have howed : d.owed queue = .status statusEngineOn :: queue.map .message := by
      simp [owed, hannounced]
    rw [howed, List.length_cons, List.length_map, Nat.add_right_comm, run_succ,
      step_of_new halive hannounced, hrun]
    simp [Course.followedBy]

/-- A device that ends with the step after all that it owes has time for that step. -/
theorem runOut_of_last (halive : d.ended = false) {is : List Instruction}
    (h : waiting d.channel = queue.map .bytes ++ is)
    (hlast : ∀ rest, waiting rest = is → isOpen rest = isOpen d.channel →
      ∃ d' : Device κ, d'.ended = true ∧ d'.reporter = d.reporter ∧
        ({ d with announced := true, channel := rest } : Device κ).step
          = { device := d', reports := [.status statusEngineOff] }) :
    ∃ d' : Device κ, d'.ended = true ∧ d'.reporter = d.reporter ∧
      d.runOut = { device := d'
                   reports := d.owed queue ++ [.status statusEngineOff]
                   echoed := UInt64.ofNat (bytesIn queue) } := by
  obtain ⟨rest, hrest, hopen, hrun⟩ := run_owed hchannel halive h
  obtain ⟨d', hended, hreporter, hstep⟩ := hlast rest hrest hopen
  have hlength : queue.length ≤ Channel.length d.channel := by
    rw [hchannel.length_eq, h, List.length_append, List.length_map]
    exact Nat.le_add_right _ _
  obtain ⟨n, hn⟩ := Nat.exists_eq_add_of_le
    ((d.length_owed_le queue).trans (Nat.add_le_add_right hlength 1))
  refine ⟨d', hended, hreporter, ?_⟩
  rw [Device.runOut, show Channel.length d.channel + 2 = Channel.length d.channel + 1 + 1 from rfl,
    hn, Nat.add_assoc, hrun, run_succ, hstep, run_of_ended hended]
  simp [Course.followedBy]

end

/-! ### A device that is left alone, and one that is ended -/

/-- A device is alive and has its sender, and nothing but these byte strings waits for it. -/
structure Holds (waiting : κ → List Instruction) (isOpen : κ → Bool) (d : Device κ)
    (queue : List (List UInt8)) : Prop where
  /-- The byte strings wait in its channel. -/
  waiting : waiting d.channel = queue.map .bytes
  /-- The sender has not been given up. -/
  isOpen : isOpen d.channel = true
  /-- The thread has not come to an end. -/
  alive : d.ended = false

namespace Holds

include hchannel

/-- A new device holds nothing. -/
theorem new (reporter : Reporter) :
    Holds waiting isOpen { reporter, channel := (Channel.fresh : κ) } [] :=
  ⟨hchannel.waiting_fresh, hchannel.isOpen_fresh, rfl⟩

/-- A device that holds byte strings is told another. -/
theorem tell (h : d.Holds waiting isOpen queue) (bytes : List UInt8) :
    (d.tell (.bytes bytes)).Holds waiting isOpen (queue ++ [bytes]) ∧
      (d.tell (.bytes bytes)).announced = d.announced ∧
      (d.tell (.bytes bytes)).reporter = d.reporter := by
  have htell :
      d.tell (.bytes bytes) = { d with channel := Channel.send (.bytes bytes) d.channel } :=
    by simp [Device.tell, h.alive]
  rw [htell]
  refine ⟨⟨?_, ?_, h.alive⟩, rfl, rfl⟩
  · rw [hchannel.waiting_send _ _ h.isOpen, h.waiting, List.map_append, List.map_singleton]
  · rw [hchannel.isOpen_send, h.isOpen]

/-- **One step** of a device: the first of the reports that it owes, if there is one. -/
theorem step (h : d.Holds waiting isOpen queue) :
    ∃ queue', d.step.device.Holds waiting isOpen queue' ∧
      d.step.device.reporter = d.reporter ∧
      d.step.reports ++ d.step.device.owed queue' = d.owed queue ∧
      d.step.echoed + UInt64.ofNat (bytesIn queue') = UInt64.ofNat (bytesIn queue) := by
  cases hannounced : d.announced with
  | false =>
    rw [step_of_new h.alive hannounced]
    exact ⟨queue, ⟨h.waiting, h.isOpen, h.alive⟩, rfl, by simp [owed, hannounced], by simp⟩
  | true =>
    cases queue with
    | nil =>
      have hwaits := hchannel.receive_of_open _ h.waiting h.isOpen
      rw [step_of_waits h.alive hannounced hwaits]
      exact ⟨[], h, rfl, by simp [owed, hannounced], by simp⟩
    | cons bytes queue =>
      obtain ⟨rest, hrest, hopen, hstep⟩ := step_of_bytes hchannel h.alive hannounced h.waiting
      rw [hstep]
      refine ⟨queue, ⟨hrest, hopen.trans h.isOpen, h.alive⟩, rfl, ?_, ?_⟩
      · simp [owed, hannounced]
      · simp [bytesIn, UInt64.ofNat_add]

/-- **A device that is left alone** makes all the reports that it owes and waits for more. -/
theorem runOut (h : d.Holds waiting isOpen queue) :
    ∃ d' : Device κ, d'.Holds waiting isOpen [] ∧ d'.announced = true ∧ d'.reporter = d.reporter ∧
      d.runOut = { device := d'
                   reports := d.owed queue
                   echoed := UInt64.ofNat (bytesIn queue) } := by
  have hwaiting : waiting d.channel = queue.map .bytes ++ [] := by rw [h.waiting, List.append_nil]
  obtain ⟨rest, hrest, hopen, hrun⟩ := run_owed hchannel h.alive hwaiting
  have hlength : Channel.length d.channel = queue.length := by
    rw [hchannel.length_eq, h.waiting, List.length_map]
  -- More steps are made than there are reports, and the rest of them is spent waiting.
  obtain ⟨n, hn⟩ := Nat.exists_eq_add_of_le
    ((d.length_owed_le queue).trans (Nat.le_add_right (queue.length + 1) 1))
  have hidle := step_of_waits (d := { d with announced := true, channel := rest }) h.alive rfl
    (hchannel.receive_of_open rest hrest (hopen.trans h.isOpen))
  refine ⟨{ d with announced := true, channel := rest },
    ⟨hrest, hopen.trans h.isOpen, h.alive⟩, rfl, rfl, ?_⟩
  rw [Device.runOut, hlength, hn, hrun, run_of_idle hidle]
  simp [Course.followedBy]

/-- **A device that is told to shut down** makes all the reports that it owes, reports the end and
is at its end. -/
theorem runOut_shutdown (h : d.Holds waiting isOpen queue) :
    ∃ d' : Device κ, d'.ended = true ∧ d'.reporter = d.reporter ∧
      (d.tell .shutdown).runOut = { device := d'
                                    reports := d.owed queue ++ [.status statusEngineOff]
                                    echoed := UInt64.ofNat (bytesIn queue) } := by
  let told : Device κ := { d with channel := Channel.send .shutdown d.channel }
  have htold : d.tell .shutdown = told := by simp [Device.tell, told, h.alive]
  have hwaiting : waiting told.channel = queue.map .bytes ++ [.shutdown] := by
    rw [hchannel.waiting_send _ _ h.isOpen, h.waiting]
  rw [htold]
  refine runOut_of_last (d := told) hchannel h.alive hwaiting fun rest hrest _ => ?_
  -- The step after the last report receives the instruction.
  obtain ⟨last, hreceive, -, -⟩ := hchannel.receive_of_cons _ _ _ hrest
  have hlast := step_of_shutdown (d := { told with announced := true, channel := rest }) h.alive rfl
    hreceive
  exact ⟨{ told with announced := true, channel := last, ended := true }, rfl, rfl, hlast⟩

/-- **A device that is released** makes all the reports that it owes, reports the end and is at its
end. -/
theorem runOut_release (h : d.Holds waiting isOpen queue) :
    ∃ d' : Device κ, d'.ended = true ∧ d'.reporter = d.reporter ∧
      d.release.runOut = { device := d'
                           reports := d.owed queue ++ [.status statusEngineOff]
                           echoed := UInt64.ofNat (bytesIn queue) } := by
  have hwaiting : waiting d.release.channel = queue.map .bytes ++ [] := by
    rw [release, hchannel.waiting_disconnect, h.waiting, List.append_nil]
  refine runOut_of_last (d := d.release) hchannel h.alive hwaiting fun rest hrest hopen => ?_
  -- The step after the last report finds the channel disconnected.
  have hclosed : isOpen rest = false := hopen.trans (hchannel.isOpen_disconnect _)
  have hlast := step_of_disconnected (d := { d.release with announced := true, channel := rest })
    h.alive rfl (hchannel.receive_of_closed rest hrest hclosed)
  exact ⟨{ d.release with announced := true, channel := rest, ended := true }, rfl, rfl, hlast⟩

end Holds

end Device

end SerialBridge
