import SerialBridge.Proofs.Bridge.Phases
import SerialBridge.Proofs.Text.Cut

/-!
# Printed text

A text that is printed goes to the driver as bytes and, over the loopback driver, comes back as a
report. On the way it is stored in snapshots, which keep as much of it as they have room for.
`Bridge.printed_text_is_cut_cleanly` says what becomes of it: a snapshot, and hence every message
listener, has the longest prefix of whole characters for which there is room, and one replacement
after it if the cut goes through a character.

A text may be too long and come back as it was (`Snapshot.cut_text_may_come_back`).
-/

namespace SerialBridge

open Utf8 (encode fitting CutsInside IsLongestFitting)

/-! ### Stored text -/

namespace Snapshot

/-- The text that a snapshot has when a text was written over it. -/
theorem lossyText_overwrite_encode (snapshot : Snapshot) (text : String) :
    (snapshot.overwrite (encode text)).lossyText = Utf8.cut snapshot.capacity text := by
  rw [lossyText, bytes_overwrite, Utf8.decodeLossy_take_encode]

/-- The text is a lone replacement. It has three bytes, of which one is kept, and that is read as a
replacement. -/
theorem cut_text_may_come_back :
    let snapshot := blank 1 (by decide)
    (snapshot.overwrite (encode "\uFFFD")).lossyText = "\uFFFD" ∧
      ¬(encode "\uFFFD").length ≤ snapshot.capacity := by
  decide

end Snapshot

/-! ### Text that comes back -/

namespace Bridge

variable {σ : Type} {s : Surroundings Loopback σ} {r : Refusals} {config : ValidConfig}
  {b : Bridge Loopback σ}

/-- While the device runs, every message listener hears what is sent, as far as there is room for
it. -/
theorem InPhase.heard_send (h : b.InPhase r config .started) (hs : Hosts s r config)
    (bytes : List UInt8) :
    (b.send s bytes).2 = .ok () ∧
      (b.send s bytes).1.audience.heard = b.audience.heard
        ++ (b.audience.registry.entries .message).map
          (·, .message (Utf8.decodeLossy (bytes.take config.messageCapacity))) := by
  generalize hp : Phase.started = p at h
  cases h with
  | idle => cases hp
  | @serving session m own running echoed hconfig hsession hsettled hown hengine hdriver =>
    -- Of the two phases with a session, only one has a device that runs.
    obtain rfl : running = true := by
      cases running with
      | true => rfl
      | false => cases hp
    let echo : Effects Loopback :=
      { driver := r.driver (some own) true (echoed + .ofNat bytes.length)
        reports := [(own, .message bytes)] }
    let b' : Bridge Loopback σ := { b.note (.send bytes) with driver := some echo.driver }
    have hbegun : b'.Settled session m := hsettled.congr rfl rfl rfl
    have hecho : Hardware.send bytes (r.driver (some own) true echoed) = echo :=
      Loopback.send_driver_running bytes
    have habsorb : (b.note (.send bytes)).absorb s echo
        = b'.receive s session.mailbox (.message bytes) := by
      -- The driver still has the reporter of this session, so what it echoes comes to this mailbox.
      rw [← hown]
      rfl
    rw [send_of_enabled (isEnabled_of_session hsession) hdriver, hecho, habsorb,
      hbegun.receive_eq hs.calm hsession, ← hconfig]
    exact ⟨rfl, Audience.heard_hear hs.calm⟩

/-- **Printed text is cut cleanly.** Take any text and a snapshot of any capacity, whatever it held
before. Once the text was written over it, the text it has is the longest prefix of whole characters
for which there is room; one replacement follows if the cut goes through a character, and nothing
else. That is the text itself if there is room for it, or if the text is that prefix with a
replacement after it which the cut goes through, and in no other case.

Over the loopback driver, after any operations by which its device runs, printing the text succeeds,
and each message listener that is registered then hears what a snapshot of the configured capacity
has of it. -/
theorem printed_text_is_cut_cleanly (text : String) :
    (∀ snapshot : Snapshot,
      let room := snapshot.capacity
      let front := fitting room text.toList
      let stored := (snapshot.overwrite (encode text)).lossyText
      IsLongestFitting room text.toList front ∧
        (CutsInside room text.toList → stored = .ofList (front ++ ['\uFFFD'])) ∧
        (¬CutsInside room text.toList → stored = .ofList front) ∧
        (stored = text ↔ (encode text).length ≤ room ∨
          CutsInside room text.toList ∧ text.toList = front ++ ['\uFFFD'])) ∧
      ∀ {σ : Type} (s : Surroundings Loopback σ) (r : Refusals) (config : ValidConfig) (memory : σ)
        (operations : List Operation) (snapshot : Snapshot),
        Hosts s r config → (∀ op ∈ operations, op.Fits config) →
        Phase.disabled.run r config.link operations = .started →
        snapshot.capacity = config.messageCapacity →
        let b := (ofConfig config memory).performAll s operations
        (b.print s text).2 = .ok () ∧
          (b.print s text).1.audience.heard = b.audience.heard
            ++ (b.audience.registry.entries .message).map
              (·, .message (snapshot.overwrite (encode text)).lossyText) := by
  constructor
  · intro snapshot room front stored
    have hstored : stored = Utf8.cut room text := snapshot.lossyText_overwrite_encode text
    refine ⟨Utf8.isLongestFitting room text.toList, fun h => ?_, fun h => ?_, ?_⟩
    · rw [hstored, Utf8.cut, if_pos h]
      rfl
    · rw [hstored, Utf8.cut, if_neg h, List.append_nil]
    · rw [hstored, Utf8.length_encode]
      exact Utf8.cut_eq_iff
  · intro σ s r config memory operations snapshot hs hfits hstarted hcapacity b
    have hbegin : (ofConfig config memory).InPhase r config .disabled :=
      .idle rfl rfl rfl rfl (.inl rfl)
    have hphase : b.InPhase r config .started := hstarted ▸ hbegin.performAll hs hfits
    rw [print, snapshot.lossyText_overwrite_encode, hcapacity, ← Utf8.decodeLossy_take_encode]
    exact hphase.heard_send hs (encode text)

/-- The cut goes through the last character, and the listener hears a replacement for it. -/
theorem printed_euro_is_cut_cleanly :
    let config : ValidConfig := { messageCapacity := 3, valid := by decide }
    let s : Surroundings Loopback Unit :=
      { discover := fun _ => some {}, behaviour := fun _ _ => .finish none }
    let operations : List Operation := [.addListener .message "ear", .start {}]
    let b := (ofConfig config ()).performAll s operations
    CutsInside 3 "a€b".toList ∧
      ((Snapshot.blank 3 (by decide)).overwrite (encode "a€b")).lossyText = "a\uFFFD" ∧
      Phase.disabled.run {} config.link operations = .started ∧
      (b.print s "a€b").1.audience.heard = [("ear", .message "a\uFFFD")] := by
  intro config s operations b
  have hs : Hosts s {} config :=
    ⟨fun _ => rfl, fun _ => rfl, by decide, ⟨fun _ _ _ => ⟨_, rfl⟩, fun _ _ _ => rfl⟩⟩
  have hlink : '\x00' ∉ config.link.device.toList := by decide
  have hfits : ∀ op ∈ operations, op.Fits config :=
    List.forall_mem_cons.mpr ⟨trivial, List.forall_mem_singleton.mpr hlink⟩
  let blank := Snapshot.blank 3 (by decide)
  obtain ⟨hstored, hheard⟩ := printed_text_is_cut_cleanly "a€b"
  have hcut : CutsInside 3 "a€b".toList := by decide
  have htext : (blank.overwrite (encode "a€b")).lossyText = "a\uFFFD" :=
    ((hstored blank).2.1 hcut).trans (by decide)
  refine ⟨hcut, htext, rfl, ?_⟩
  rw [(hheard s {} config () operations blank hs hfits rfl rfl).2, htext]
  decide

end Bridge

end SerialBridge
