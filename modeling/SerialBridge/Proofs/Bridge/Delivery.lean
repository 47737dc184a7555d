import SerialBridge.Hardware.Loopback
import SerialBridge.Proofs.Bridge.Succession

/-!
# Delivery within a session

An `Arrival` is a signal with the bridge as it is when the signal is posted, and the `history` of a
bridge is all that is posted through reporters and controls in the course of operations.
`Bridge.every_report_is_delivered` says what becomes of it: each signal for the session calls every
listener that is then registered, once and in order, and moves the engine's flag; the calls of the
history are all the calls there are; and the counters of the session count what was posted to it.

The invariant is `Bridge.Told`: the session is settled, and journal, flag and counters agree with
the history so far. A signal either reaches the session, and then `Bridge.Settled.receive_eq` says
what it does, or it does nothing but fill a mailbox that nobody looks at.
-/

namespace SerialBridge

variable {δ σ : Type}

/-! ### Arrivals -/

/-- A signal, and the bridge at which it arrives. -/
structure Arrival (δ σ : Type) where
  /-- The bridge when the signal is posted. -/
  bridge : Bridge δ σ
  /-- The number of the mailbox that the signal is for. -/
  mailbox : Nat
  /-- The signal. -/
  signal : Signal

namespace Arrival

/-- Whether the signal is for the mailbox of the session. -/
def reaches (x : Arrival δ σ) : Bool := x.bridge.session.any (·.mailbox == x.mailbox)

/-- The note that listeners are told, if the signal reaches the session and says something. -/
def note? (x : Arrival δ σ) : Option Note :=
  if x.reaches then x.signal.note? x.bridge.config.messageCapacity else none

/-- The calls that the signal gives rise to, of the listeners that are registered at that moment. -/
def calls (x : Arrival δ σ) : List (String × Note) :=
  Audience.callsOf x.bridge.audience.registry x.note?

/-- The bridge once the signal has been posted and dispatched. -/
def after [Hardware δ] (s : Surroundings δ σ) (x : Arrival δ σ) : Bridge δ σ :=
  x.bridge.receive s x.mailbox x.signal

/-- The signal is **delivered**: it calls every listener that is registered at that moment, each of
them once and in order of registration, and the engine's flag follows it. -/
structure Delivered [Hardware δ] (s : Surroundings δ σ) (x : Arrival δ σ) : Prop where
  /-- No listener is registered twice. -/
  nodup : x.bridge.audience.registry.Nodup
  /-- The listeners are called. -/
  heard : (x.after s).audience.heard = x.bridge.audience.heard ++ x.calls
  /-- The flag follows the note. -/
  engineOn : (x.after s).engineOn = engineAfter x.note? x.bridge.engineOn

/-- The signals of a history that reached the session with this mailbox. -/
def signalsTo (number : Nat) (history : List (Arrival δ σ)) : List Signal :=
  (history.filter fun x => x.reaches && x.mailbox == number).map (·.signal)

end Arrival

/-- The counters of a mailbox are those of a mailbox to which the signals were posted, and no report
was superseded. -/
structure Mailbox.Counts (m : Mailbox) (signals : List Signal) : Prop where
  /-- Status reports are counted. -/
  statusReports : m.tally.statusReports = .ofNat (signals.countP fun sig => sig.kind = .status)
  /-- Message reports are counted. -/
  messageReports : m.tally.messageReports = .ofNat (signals.countP fun sig => sig.kind = .message)
  /-- Every report was taken before the next of its kind. -/
  superseded : m.tally.superseded = 0

/-- What is posted to an empty mailbox supersedes nothing. -/
theorem Mailbox.Counts.served {m : Mailbox} {signals : List Signal} (h : m.Counts signals)
    (hp : m.pending = ∅) (session : Session) (sig : Signal) :
    (m.served session sig).Counts (signals ++ [sig]) := by
  -- Each counter grows by one for a signal of its kind, and is as it was for any other.
  have hcount (p : Signal → Bool) :
      UInt64.ofNat ((signals ++ [sig]).countP p)
        = .ofNat (signals.countP p) + .ofNat (if p sig then 1 else 0) := by
    rw [List.countP_append, List.countP_singleton, UInt64.ofNat_add]
  refine ⟨?_, ?_, ?_⟩
  · rw [hcount, ← h.statusReports]
    cases sig <;> simp [Mailbox.served, take, record, Signal.kind]
  · rw [hcount, ← h.messageReports]
    cases sig <;> simp [Mailbox.served, take, record, Signal.kind]
  · rw [← h.superseded]
    cases sig <;> simp [Mailbox.served, take, record, PendingSet.record, hp, increment]

namespace Bridge

section Arrivals

variable [Hardware δ] (s : Surroundings δ σ)

/-- Posts one signal after the other, each to its mailbox. -/
def receiveAll (postings : List (Nat × Signal)) (b : Bridge δ σ) : Bridge δ σ :=
  postings.foldl (fun b p => b.receive s p.1 p.2) b

/-- The arrivals of signals that are posted one after the other. -/
def arrivals : List (Nat × Signal) → Bridge δ σ → List (Arrival δ σ)
  | [], _ => []
  | p :: postings, b => ⟨b, p.1, p.2⟩ :: arrivals postings (b.receive s p.1 p.2)

/-- What the driver posts in a call, with the bridge as it is when it begins. -/
def during (b : Bridge δ σ) (c : Contact) (e : Effects δ) : Bridge δ σ × List (Nat × Signal) :=
  ({ b.note c with driver := some e.driver }, e.reports.map fun r => (r.1.mailbox, r.2.signal))

/-- What a driver's call leaves behind is what it posts, one signal after the other. -/
theorem call_eq_receiveAll (b : Bridge δ σ) (c : Contact) (e : Effects δ) :
    (b.note c).absorb s e = (b.during c e).1.receiveAll s (b.during c e).2 := by
  rw [absorb, receiveAll, during, List.foldl_map]

/-- What is posted while a device is started. -/
def duringStart (link : Link) (b : Bridge δ σ) : Bridge δ σ × List (Nat × Signal) :=
  match b.enable s with
  | (b, .error _) => (b, [])
  | (b, .ok ()) =>
    match b.driver with
    | none => (b, [])
    | some d => b.during (.start link) (Hardware.start link d).toEffects

/-- What is posted while bytes are written. -/
def duringSend (bytes : List UInt8) (b : Bridge δ σ) : Bridge δ σ × List (Nat × Signal) :=
  match b.isEnabled, b.driver with
  | true, some d => b.during (.send bytes) (Hardware.send bytes d)
  | _, _ => (b, [])

/-- What is posted through reporters and controls in the course of an operation, with the bridge as
it is when it begins. While a session is opened or closed there is none that could be reached. -/
def postings (b : Bridge δ σ) : Operation → Bridge δ σ × List (Nat × Signal)
  | .start link => b.duringStart s link
  | .startConfigured => b.duringStart s b.config.link
  | .stop =>
    match b.isEnabled, b.driver with
    | true, some d => b.during .stop (Hardware.stop d).toEffects
    | _, _ => (b, [])
  | .send bytes => b.duringSend bytes
  | .print text => b.duringSend (Utf8.encode text)
  | .requestDisable control => (b, [(control.mailbox, .disable)])
  | .interrupt report => (b, (b.outlet.map fun r => (r.mailbox, report.signal)).toList)
  | _ => (b, [])

/-- The arrivals of an operation. -/
def arrivalsOf (b : Bridge δ σ) (op : Operation) : List (Arrival δ σ) :=
  (b.postings s op).1.arrivals s (b.postings s op).2

/-- The arrivals of operations that are carried out one after the other. -/
def history : Bridge δ σ → List Operation → List (Arrival δ σ)
  | _, [] => []
  | b, op :: operations => b.arrivalsOf s op ++ history (b.perform s op) operations

end Arrivals

/-! ### The invariant -/

/-- The reporter that was handed over in the latest set-up. -/
def latestReporter (b : Bridge δ σ) : Option Reporter :=
  (b.contacts.filterMap Contact.reporter?).getLast?

/-- Only a set-up hands over a reporter. -/
theorem latestReporter_note {c : Contact} (hc : c.reporter? = none) (b : Bridge δ σ) :
    (b.note c).latestReporter = b.latestReporter := by
  simp [latestReporter, note, hc]

/-- The bridge **serves** a session to which the signals were posted. -/
structure Serves (b : Bridge δ σ) (session : Session) (m : Mailbox) (signals : List Signal) : Prop
    extends b.Settled session m where
  /-- The counters agree with the signals. -/
  counts : m.Counts signals
  /-- The flag agrees with the signals. -/
  engineOn : b.engineOn = engineAfterAll b.config.messageCapacity signals false
  /-- The reporter of the session's mailbox was the latest to be handed over. -/
  reporter : b.latestReporter = some ⟨session.mailbox, b.config.messageCapacity⟩

variable [Hardware δ] {s : Surroundings δ σ}

/-- What is known of a bridge with this history. -/
structure Told (s : Surroundings δ σ) (b : Bridge δ σ) (history : List (Arrival δ σ)) : Prop where
  /-- Every signal was delivered. -/
  delivered : ∀ x ∈ history, x.Delivered s
  /-- No other call was made. -/
  heard : b.audience.heard = history.flatMap Arrival.calls
  /-- No listener is registered twice. -/
  nodup : b.audience.registry.Nodup
  /-- Listeners owe no reports. -/
  effects : b.audience.effects = []
  /-- A signal that reached a session was posted to a mailbox that there was. -/
  earlier : ∀ x ∈ history, x.reaches = true → x.mailbox < b.mailboxes.length
  /-- Without a session the engine does not run. -/
  idle : b.session = none → b.engineOn = false
  /-- A session has been served what was posted to it. -/
  serving : ∀ session, b.session = some session →
    ∃ m, b.Serves session m (Arrival.signalsTo session.mailbox history)

namespace Told

variable {b b' : Bridge δ σ} {history : List (Arrival δ σ)}

theorem ofConfig (s : Surroundings δ σ) (config : ValidConfig) (memory : σ) :
    Told s (.ofConfig config memory) [] :=
  ⟨nofun, rfl, Registry.nodup_empty, rfl, nofun, fun _ => rfl, nofun⟩

/-- A change that leaves the session alone, and with it whatever the thread works on. -/
theorem congr (h : Told s b history) (hheard : b'.audience.heard = b.audience.heard)
    (hnodup : b'.audience.registry.Nodup) (heffects : b'.audience.effects = b.audience.effects)
    (hsession : b'.session = b.session) (hengine : b'.engineOn = b.engineOn)
    (hconfig : b'.config = b.config) (hmailboxes : b'.mailboxes = b.mailboxes)
    (hreporter : b'.latestReporter = b.latestReporter) : Told s b' history where
  delivered := h.delivered
  heard := hheard.trans h.heard
  nodup := hnodup
  effects := heffects.trans h.effects
  earlier := hmailboxes ▸ h.earlier
  idle := fun hnone => hengine.trans (h.idle (hsession.symm.trans hnone))
  serving := fun session hsome => by
    obtain ⟨m, hm⟩ := h.serving session (hsession.symm.trans hsome)
    refine ⟨m, hm.toSettled.congr hconfig (by rw [hmailboxes]) heffects, hm.counts, ?_, ?_⟩
    · rw [hengine, hconfig]
      exact hm.engineOn
    · rw [hreporter, hconfig]
      exact hm.reporter

/-- A change while there is no session. -/
theorem congr_idle (h : Told s b history) (hidle : b.session = none) (hidle' : b'.session = none)
    (haudience : b'.audience = b.audience) (hengine : b'.engineOn = b.engineOn)
    (hmailboxes : b.mailboxes.length ≤ b'.mailboxes.length) : Told s b' history where
  delivered := h.delivered
  heard := haudience ▸ h.heard
  nodup := haudience ▸ h.nodup
  effects := haudience ▸ h.effects
  earlier := fun x hx hreaches => Nat.lt_of_lt_of_le (h.earlier x hx hreaches) hmailboxes
  idle := fun _ => hengine.trans (h.idle hidle)
  serving := fun session hsome => by rw [hidle'] at hsome; cases hsome

/-- The history grows by an arrival, if what the arrival did is as it should be. -/
theorem snoc (h : Told s b history) {number : Nat} {sig : Signal}
    (hreceive : b.receive s number sig = b')
    (hheard : b'.audience.heard = b.audience.heard ++ (⟨b, number, sig⟩ : Arrival δ σ).calls)
    (hengine : b'.engineOn = engineAfter (⟨b, number, sig⟩ : Arrival δ σ).note? b.engineOn)
    (hnodup : b'.audience.registry.Nodup) (heffects : b'.audience.effects = [])
    (hearlier : (⟨b, number, sig⟩ : Arrival δ σ).reaches = true → number < b.mailboxes.length)
    (hidle : b'.session = none → b'.engineOn = false)
    (hserving : ∀ session, b'.session = some session →
      ∃ m, b'.Serves session m
        (Arrival.signalsTo session.mailbox (history ++ [⟨b, number, sig⟩]))) :
    Told s b' (history ++ [⟨b, number, sig⟩]) where
  delivered := fun y hy => by
    rcases List.mem_append.mp hy with hy | hy
    · exact h.delivered y hy
    · obtain rfl := List.mem_singleton.mp hy
      exact ⟨h.nodup, by rwa [← hreceive] at hheard, by rwa [← hreceive] at hengine⟩
  heard := by rw [hheard, h.heard, List.flatMap_append, List.flatMap_singleton]
  nodup := hnodup
  effects := heffects
  earlier := fun y hy => by
    rw [← hreceive, (b.alike_receive s number sig).mailboxes]
    rcases List.mem_append.mp hy with hy | hy
    · exact h.earlier y hy
    · exact List.mem_singleton.mp hy ▸ hearlier
  idle := hidle
  serving := hserving

/-- **A signal arrives at the session.** -/
theorem receive_of_reaches (h : Told s b history) (hcalm : Calm s.behaviour s.nesting)
    {number : Nat} {sig : Signal} (hreaches : (⟨b, number, sig⟩ : Arrival δ σ).reaches = true) :
    Told s (b.receive s number sig) (history ++ [⟨b, number, sig⟩]) := by
  obtain ⟨session, hsession, hnumber⟩ := (Option.any_eq_true _ _).mp hreaches
  obtain rfl : session.mailbox = number := by simpa using hnumber
  obtain ⟨m, hm⟩ := h.serving session hsession
  have hnote : (⟨b, session.mailbox, sig⟩ : Arrival δ σ).note?
      = sig.note? b.config.messageCapacity := by rw [Arrival.note?, if_pos hreaches]
  have hsignals : Arrival.signalsTo session.mailbox (history ++ [⟨b, session.mailbox, sig⟩])
      = Arrival.signalsTo session.mailbox history ++ [sig] := by
    simp [Arrival.signalsTo, hreaches]
  -- The session was settled when the signal came, so it is dispatched by itself and the session is
  -- settled again.
  have hattended := hm.toSettled.attend hcalm sig
  have hreceive := hm.toSettled.receive_eq hcalm hsession sig
  rw [hreceive]
  refine h.snoc hreceive ?_ ?_ (Audience.nodup_hear h.nodup) hattended.effects
    (fun _ => hm.lt_length) nofun fun session' hsession' => ?_
  · rw [Arrival.calls, hnote]
    exact Audience.heard_hear hcalm
  · rw [hnote]
    rfl
  · obtain rfl := Option.some.inj hsession'
    change ∃ m', Serves _ _ m' (Arrival.signalsTo session.mailbox _)
    rw [hsignals]
    refine ⟨m.served session sig, hattended.congr rfl rfl rfl,
      hm.counts.served hm.pending session sig, ?_, hm.reporter⟩
    rw [engineAfterAll, List.foldl_append]
    exact congrArg (engineAfter _) hm.engineOn

/-- **A signal arrives elsewhere**: its session is over, or there never was one. -/
theorem receive_of_not_reaches (h : Told s b history) {number : Nat} {sig : Signal}
    (hreaches : ¬(⟨b, number, sig⟩ : Arrival δ σ).reaches = true) :
    Told s (b.receive s number sig) (history ++ [⟨b, number, sig⟩]) := by
  have hnote : (⟨b, number, sig⟩ : Arrival δ σ).note? = none := by
    rw [Arrival.note?, if_neg hreaches]
  have hreceive : b.receive s number sig
      = { b with mailboxes := postTo b.mailboxes number sig } :=
    receive_of_elsewhere (Bool.eq_false_iff.mpr hreaches) sig
  rw [hreceive]
  refine h.snoc hreceive ?_ ?_ h.nodup h.effects (absurd · hreaches) h.idle
    fun session hsession => ?_
  · rw [Arrival.calls, hnote]
    exact (List.append_nil _).symm
  · rw [hnote]
    rfl
  · -- The session, if there is one, has not noticed.
    obtain ⟨m, hm⟩ := h.serving session hsession
    have hne : number ≠ session.mailbox := by
      rintro rfl
      exact hreaches (by simp [Arrival.reaches, show b.session = some session from hsession])
    have hsignals : Arrival.signalsTo session.mailbox (history ++ [⟨b, number, sig⟩])
        = Arrival.signalsTo session.mailbox history := by
      simp [Arrival.signalsTo, hreaches]
    rw [hsignals]
    exact ⟨m, hm.toSettled.congr rfl (getElem?_postTo_of_ne hne) rfl, hm.counts, hm.engineOn,
      hm.reporter⟩

/-- A signal arrives at the session or elsewhere. -/
theorem receive (h : Told s b history) (hcalm : Calm s.behaviour s.nesting) (number : Nat)
    (sig : Signal) : Told s (b.receive s number sig) (history ++ [⟨b, number, sig⟩]) := by
  by_cases hreaches : (⟨b, number, sig⟩ : Arrival δ σ).reaches = true
  · exact h.receive_of_reaches hcalm hreaches
  · exact h.receive_of_not_reaches hreaches

/-- Signals arrive one after the other, and the later ones find the bridge as the earlier ones left
it. -/
theorem receiveAll (h : Told s b history) (hcalm : Calm s.behaviour s.nesting)
    (postings : List (Nat × Signal)) :
    Told s (b.receiveAll s postings) (history ++ b.arrivals s postings) := by
  induction postings generalizing b history with
  | nil => exact (List.append_nil history).symm ▸ h
  | cons p postings ih =>
    have hrest := ih (h.receive hcalm p.1 p.2)
    rw [List.append_assoc] at hrest
    exact hrest

/-- **A call of the driver**: what it posts arrives. -/
theorem call (h : Told s b history) (hcalm : Calm s.behaviour s.nesting) {c : Contact}
    (hc : c.reporter? = none) (e : Effects δ) :
    Told s ((b.note c).absorb s e) (history ++ (b.during c e).1.arrivals s (b.during c e).2) := by
  have hbegun : Told s (b.during c e).1 history :=
    h.congr rfl h.nodup rfl rfl rfl rfl rfl (latestReporter_note hc b)
  rw [call_eq_receiveAll]
  exact hbegun.receiveAll hcalm _

/-! ### Opening and closing -/

/-- Cleaning up, once there is no session: whatever the driver posts reaches nobody. -/
theorem cleanup (h : Told s b history) (hidle : b.session = none) :
    Told s (b.cleanup s) history := by
  have hidles : b.Idles (b.cleanup s) := idles_cleanup hidle
  exact h.congr_idle hidle hidles.closed hidles.audience hidles.engineOn hidles.length.ge

theorem discover (h : Told s b history) : Told s (b.discover s).1 history := by
  cases hd : b.driver with
  | some d => rw [Bridge.discover, hd]; exact h
  | none =>
    rw [discover_of_none hd]
    exact h.congr rfl h.nodup rfl rfl rfl rfl rfl (latestReporter_note rfl _)

/-- A session begins without a history: its mailbox is new, and the flag is down. -/
theorem openSession (h : Told s b history) (hidle : b.session = none) {number : Nat} {m : Mailbox}
    (hmailbox : b.mailboxes[number]? = some m) (hblank : m = b.nextMailbox)
    (hreporter : b.latestReporter = some (m.reporter number))
    (hnew : ∀ x ∈ history, x.reaches = true → x.mailbox < number) :
    Told s (b.openSession s number m).1 history := by
  rw [Bridge.openSession]
  split
  · exact h
  · have hspawned : Told s { b with spawns := b.spawns + 1 } history :=
      h.congr rfl h.nodup rfl rfl rfl rfl rfl rfl
    dsimp only
    split
    · exact hspawned.cleanup hidle
    · have hcapacity : m.capacity = b.config.messageCapacity :=
        hblank ▸ Snapshot.capacity_blank _ (messageCapacity_pos b)
      let session : Session := { mailbox := number, consumer := .ofMailbox m }
      let b' : Bridge δ σ := { b with spawns := b.spawns + 1, session := some session }
      have hsettled : b'.Settled session m :=
        .of_fresh hmailbox (by rw [hblank]; rfl) (by rw [hblank]; rfl) hcapacity h.effects
      -- Signals reached mailboxes that were made before this one.
      have hnone : Arrival.signalsTo number history = [] := by
        have hfilter : (history.filter fun x => x.reaches && x.mailbox == number) = [] :=
          List.filter_eq_nil_iff.mpr fun x hx hboth => by
            obtain ⟨hreaches, hnumber⟩ := Bool.and_eq_true_iff.mp hboth
            exact Nat.ne_of_lt (hnew x hx hreaches) (eq_of_beq hnumber)
        rw [Arrival.signalsTo, hfilter]
        rfl
      change Told s (b'.settle s) history
      rw [hsettled.settle_eq rfl]
      have hopen : b'.session ≠ none := Option.some_ne_none session
      refine ⟨h.delivered, h.heard, h.nodup, h.effects, h.earlier, (absurd · hopen),
        fun session' hs => ?_⟩
      obtain rfl := Option.some.inj hs
      refine ⟨m, hsettled, ?_, ?_, ?_⟩
      · rw [hnone, hblank]
        exact ⟨rfl, rfl, rfl⟩
      · rw [hnone]
        exact h.idle hidle
      · exact hreporter.trans (by rw [Mailbox.reporter, hcapacity])

/-- A driver that reports nothing while it is set up leaves the mailbox of the session empty. -/
theorem setUp (h : Told s b history)
    (hinit : ∀ (r : Reporter) (d : δ), (Hardware.init r d).reports = [])
    (hidle : b.session = none) {number : Nat} {m : Mailbox}
    (hmailbox : b.mailboxes[number]? = some m) (hblank : m = b.nextMailbox)
    (hnew : ∀ x ∈ history, x.reaches = true → x.mailbox < number) (d : δ) :
    Told s (b.setUp s number m d).1 history := by
  have habsorb (c : Contact) : (b.note c).absorb s (Hardware.init (m.reporter number) d).toEffects
      = { b.note c with driver := some (Hardware.init (m.reporter number) d).driver } := by
    rw [absorb, hinit]
    rfl
  have hcalled (c : Contact) : Told s
      { b.note c with driver := some (Hardware.init (m.reporter number) d).driver } history :=
    h.congr_idle hidle hidle rfl rfl (Nat.le_refl _)
  rw [Bridge.setUp, habsorb]
  split
  · exact hcalled _
  · refine (hcalled _).openSession hidle hmailbox hblank ?_ hnew
    simp [latestReporter, note, Contact.reporter?]

/-- **Enabling**: no listener is called, and nothing has been posted to the mailbox of the session
yet. -/
theorem enable (h : Told s b history)
    (hinit : ∀ (r : Reporter) (d : δ), (Hardware.init r d).reports = []) :
    Told s (b.enable s).1 history := by
  cases hb : b.isEnabled with
  | true =>
    rw [enable_of_enabled hb]
    exact h
  | false =>
    have hidle : b.session = none := isEnabled_eq_false_iff.mp hb
    have hadded : Told s b.addMailbox history :=
      h.congr_idle hidle hidle rfl rfl (by simp [addMailbox])
    have hfound := hadded.discover
    cases hdiscover : b.addMailbox.discover s with
    | mk b' driver =>
      rw [hdiscover] at hfound
      cases driver with
      | none => rw [enable_of_miss hb hdiscover]; exact hfound
      | some d =>
        obtain ⟨driver, discoveries, contacts, hb'⟩ := discover_fields s b.addMailbox
        obtain rfl : b' = _ := (congrArg Prod.fst hdiscover).symm.trans hb'
        rw [enable_of_hit hb hdiscover]
        refine hfound.setUp hinit hidle ?_ rfl h.earlier d
        exact List.getElem?_concat_length

/-- **Disabling**: no listener is called any more. -/
theorem disable (h : Told s b history) (hcalm : Calm s.behaviour s.nesting) :
    Told s (b.disable s).1 history := by
  cases hs : b.session with
  | none =>
    rw [disable_of_disabled hs]
    exact h
  | some session =>
    obtain ⟨m, hm⟩ := h.serving session hs
    rw [hm.toSettled.disable_eq hcalm hs]
    refine Told.cleanup ⟨h.delivered, h.heard, h.nodup, h.effects, ?_, fun _ => rfl, nofun⟩ rfl
    intro x hx hreaches
    rw [List.length_set]
    exact h.earlier x hx hreaches

/-! ### Operations -/

/-- What the driver posts while it starts arrives at the session that was opened for it. -/
theorem start (h : Told s b history) (hcalm : Calm s.behaviour s.nesting)
    (hinit : ∀ (r : Reporter) (d : δ), (Hardware.init r d).reports = []) (link : Link) :
    Told s (b.start s link).1
      (history ++ (b.duringStart s link).1.arrivals s (b.duringStart s link).2) := by
  have hopened := h.enable hinit
  rw [Bridge.start, duringStart]
  generalize b.enable s = opened at hopened ⊢
  obtain ⟨b', _ | _⟩ := opened
  · exact (List.append_nil history).symm ▸ hopened
  · cases hd : b'.driver with
    | none =>
      simp only [hd]
      exact (List.append_nil history).symm ▸ hopened
    | some d =>
      simp only [hd]
      exact hopened.call hcalm rfl _

/-- What the driver posts while bytes are written arrives. -/
theorem send (h : Told s b history) (hcalm : Calm s.behaviour s.nesting) (bytes : List UInt8) :
    Told s (b.send s bytes).1
      (history ++ (b.duringSend bytes).1.arrivals s (b.duringSend bytes).2) := by
  rw [Bridge.send, duringSend]
  cases hb : b.isEnabled with
  | false => exact (List.append_nil history).symm ▸ h
  | true =>
    cases hd : b.driver with
    | none => exact (List.append_nil history).symm ▸ h
    | some d => exact h.call hcalm rfl _

/-- **Stopping**: what the driver posts while it stops arrives before the session is closed. -/
theorem stop (h : Told s b history) (hcalm : Calm s.behaviour s.nesting) :
    Told s (b.stop s).1 (history ++ b.arrivalsOf s .stop) := by
  rw [arrivalsOf, postings]
  cases hb : b.isEnabled with
  | false =>
    rw [stop_of_disabled hb]
    exact (List.append_nil history).symm ▸ h
  | true =>
    cases hd : b.driver with
    | none =>
      rw [Bridge.stop, if_pos hb, hd]
      exact (List.append_nil history).symm ▸ h
    | some d =>
      have hcalled := h.call hcalm (c := .stop) rfl (Hardware.stop d).toEffects
      rcases stop_cases (s := s) hb hd with ⟨f, hstop⟩ | hstop
      · rw [hstop]
        exact hcalled
      · rw [hstop]
        exact hcalled.disable hcalm

/-- **One operation.** -/
theorem perform (h : Told s b history) (hcalm : Calm s.behaviour s.nesting)
    (hinit : ∀ (r : Reporter) (d : δ), (Hardware.init r d).reports = []) (operation : Operation) :
    Told s (b.perform s operation) (history ++ b.arrivalsOf s operation) := by
  -- Most operations post nothing, so that the history stays as it is.
  have hsilent {b' : Bridge δ σ} (h' : Told s b' history) : Told s b' (history ++ []) :=
    (List.append_nil history).symm ▸ h'
  cases operation with
  | isSupported => exact hsilent h.discover
  | enable => exact hsilent (h.enable hinit)
  | disable => exact hsilent (h.disable hcalm)
  | start link => exact h.start hcalm hinit link
  | startConfigured => exact h.start hcalm hinit b.config.link
  | stop => exact h.stop hcalm
  | send bytes => exact h.send hcalm bytes
  | print text => exact h.send hcalm (Utf8.encode text)
  | addListener kind id =>
    exact hsilent (h.congr rfl (h.nodup.add kind id) rfl rfl rfl rfl rfl rfl)
  | removeListener kind id =>
    exact hsilent (h.congr rfl (h.nodup.remove kind id) rfl rfl rfl rfl rfl rfl)
  | requestDisable control => exact h.receive hcalm control.mailbox .disable
  | interrupt report =>
    rw [Bridge.perform, arrivalsOf, postings, Bridge.interrupt]
    split
    · next r hr =>
      rw [hr]
      exact h.receive hcalm r.mailbox report.signal
    · next hr =>
      rw [hr]
      exact hsilent h

/-- **Any number of operations.** -/
theorem performAll (h : Told s b history) (hcalm : Calm s.behaviour s.nesting)
    (hinit : ∀ (r : Reporter) (d : δ), (Hardware.init r d).reports = [])
    (operations : List Operation) :
    Told s (b.performAll s operations) (history ++ b.history s operations) := by
  induction operations generalizing b history with
  | nil => exact (List.append_nil history).symm ▸ h
  | cons operation operations ih =>
    have hrest := ih (h.perform hcalm hinit operation)
    rw [List.append_assoc] at hrest
    exact hrest

end Told

/-- **Every report is delivered.** Take any driver that makes no report while it is set up, calm
listeners, and anything else that a bridge may find around it. After any operations:

* Every signal that was posted through a reporter or a control called each listener of its kind that
  was then registered, once and in order of registration, and moved the engine's flag, as its note
  says; a signal that did not reach the session, or that has no note, did neither.
* These were all the calls there were, in the order in which the signals were posted.
* If there is a session, its mailbox is that of the reporter that was handed over last, the flag is
  where the signals to that mailbox have left it, and the counters count them; none was superseded.
  -/
theorem every_report_is_delivered (hcalm : Calm s.behaviour s.nesting)
    (hinit : ∀ (r : Reporter) (d : δ), (Hardware.init r d).reports = []) (config : ValidConfig)
    (memory : σ) (operations : List Operation) :
    let b := (ofConfig config memory).performAll s operations
    let history := (ofConfig config memory).history s operations
    (∀ x ∈ history, x.Delivered s) ∧
      b.audience.heard = history.flatMap Arrival.calls ∧
      ∀ session, b.session = some session →
        let signals := Arrival.signalsTo session.mailbox history
        b.latestReporter = some ⟨session.mailbox, b.config.messageCapacity⟩ ∧
          b.engineOn = engineAfterAll b.config.messageCapacity signals false ∧
          ∃ tally, b.tally = some tally ∧
            tally.statusReports = .ofNat (signals.countP fun sig => sig.kind = .status) ∧
            tally.messageReports = .ofNat (signals.countP fun sig => sig.kind = .message) ∧
            tally.superseded = 0 := by
  intro b history
  have h : Told s b history := (Told.ofConfig s config memory).performAll hcalm hinit operations
  refine ⟨h.delivered, h.heard, fun session hsession => ?_⟩
  obtain ⟨m, hm⟩ := h.serving session hsession
  have htally : b.tally = some m.tally := by simp [tally, hsession, hm.mailbox]
  exact ⟨hm.reporter, hm.engineOn, m.tally, htally, hm.counts.statusReports,
    hm.counts.messageReports, hm.counts.superseded⟩

/-- The loopback driver makes no report while it is set up. -/
theorem reports_init_loopback (r : Reporter) (l : Loopback) : (Hardware.init r l).reports = [] := by
  change (l.init r).reports = []
  rw [LoopbackOver.init]
  split <;> rfl

/-- A loopback driver and two listeners, of which one is disconnected when it is called. -/
def echoingSurroundings : Surroundings Loopback Unit where
  discover _ := some {}
  behaviour id _ := .finish (if id = "gone" then some .listenerDisconnected else none)

theorem calm_echoing : Calm echoingSurroundings.behaviour echoingSurroundings.nesting :=
  ⟨fun _ _ _ => ⟨_, rfl⟩, fun _ _ _ => rfl⟩

/-- The disconnected listener hears the front of the first message only, the other one hears that
the engine started. All messages are counted. -/
theorem every_echo_is_delivered :
    let b := (ofConfig { messageCapacity := 2, valid := by decide } ()).performAll
      echoingSurroundings
      [.addListener .status "here", .addListener .message "gone", .start {}, .send [65, 255, 66],
        .send [67]]
    b.audience.heard = [("here", .status .started), ("gone", .message "A\uFFFD")] ∧
      b.tally.map (·.messageReports) = some 2 := by
  intro b
  obtain ⟨-, hheard, hserving⟩ := every_report_is_delivered (s := echoingSurroundings) calm_echoing
    reports_init_loopback { messageCapacity := 2, valid := by decide } ()
    [.addListener .status "here", .addListener .message "gone", .start {}, .send [65, 255, 66],
      .send [67]]
  obtain ⟨-, -, tally, htally, -, hmessages, -⟩ := hserving _ rfl
  exact ⟨hheard.trans rfl, by rw [htally, Option.map_some, hmessages]; rfl⟩

end Bridge

end SerialBridge
