import Mathlib.Order.Nat
import SerialBridge.Proofs.Bridge.DriverProtocol
import SerialBridge.Proofs.Bridge.Session

/-!
# Session follows session

The mailbox of a session is made for it when the bridge is enabled, and is its **current** mailbox
until the session is closed. All others are **stale** (`Bridge.Stale`): those of sessions that are
over, and those of attempts to enable the bridge that failed. Whatever is done to a bridge, the
bridge that comes of it `Succeeds` it, and what was stale stays stale (`Bridge.Stale.of_succeeds`).

Without a session the bridge is **idle**: whatever the driver does then, listeners hear nothing of
it and the engine's flag stays as it is (`Bridge.Idles`). The one way out is an attempt to open a
session that succeeds (`Bridge.Opening`).
-/

namespace SerialBridge.Bridge

variable {δ σ : Type}

/-- The number of the session's mailbox. -/
def current (b : Bridge δ σ) : Option Nat := b.session.map (·.mailbox)

/-- There is a mailbox of this number, and it is not the session's. -/
def Stale (b : Bridge δ σ) (number : Nat) : Prop :=
  number < b.mailboxes.length ∧ b.current ≠ some number

/-- Without a session there is no current mailbox. -/
theorem current_eq_none_iff {b : Bridge δ σ} : b.current = none ↔ b.session = none :=
  Option.map_eq_none_iff

/-- The reporters that were handed over in set-ups, and the control of the session, are for
mailboxes that the bridge has. -/
def Reaches (b : Bridge δ σ) : Prop :=
  ∀ n, n ∈ mailboxesGiven b.calls ∨ b.current = some n → n < b.mailboxes.length

/-- Only the calls, the current mailbox and the number of mailboxes matter. -/
theorem Reaches.congr {b b' : Bridge δ σ} (h : b.Reaches) (hcalls : b'.calls = b.calls)
    (hcurrent : ∀ n, b'.current = some n → b.current = some n)
    (hlength : b.mailboxes.length ≤ b'.mailboxes.length) : b'.Reaches := by
  intro n hn
  rw [hcalls] at hn
  exact Nat.lt_of_lt_of_le (h n (hn.imp_right (hcurrent n))) hlength

/-- A call that the bridge notes hands over a reporter for one of its mailboxes, or none. -/
theorem Reaches.note {b : Bridge δ σ} (h : b.Reaches) {contact : Contact}
    (hcall : contact.isCall = true)
    (hreporter : ∀ r, contact.reporter? = some r → r.mailbox < b.mailboxes.length) :
    (b.note contact).Reaches := by
  intro n hn
  rw [calls_note hcall, mailboxesGiven_append, List.mem_append, or_assoc, or_left_comm] at hn
  rcases hn with hn | hn
  · obtain ⟨r, hr, rfl⟩ := mem_mailboxesGiven_singleton.mp hn
    exact hreporter r hr
  · exact h n hn

/-- The test by which `receive` finds out that a signal is not for the session. -/
theorem any_eq_false_of_current_ne {b : Bridge δ σ} {number : Nat} (h : b.current ≠ some number) :
    b.session.any (·.mailbox == number) = false := by
  rw [Bool.eq_false_iff]
  intro hreaches
  obtain ⟨session, hsession, hmailbox⟩ := (Option.any_eq_true _ _).mp hreaches
  refine h ?_
  rw [current, hsession]
  exact congrArg some (eq_of_beq hmailbox)

variable [Hardware δ] {s : Surroundings δ σ} {b b' b'' : Bridge δ σ}

/-! ### The event thread stays with its mailbox -/

/-- A thread that runs is still that of its mailbox. -/
theorem mailbox_letThreadRun (s : Surroundings δ σ) (enabled : Bool) (limit : Nat)
    (session : Session) (b : Bridge δ σ) :
    (b.letThreadRun s enabled limit session).2.mailbox = session.mailbox := by
  rw [letThreadRun]
  split <;> rfl

/-- While the thread runs, the bridge has the session that it had. -/
theorem session_letThreadRun (s : Surroundings δ σ) (enabled : Bool) (limit : Nat)
    (session : Session) (b : Bridge δ σ) :
    (b.letThreadRun s enabled limit session).1.session = b.session := by
  rw [letThreadRun]
  split <;> rfl

/-- Dispatching what has arrived does not change which mailbox is current. -/
theorem current_settle (s : Surroundings δ σ) (b : Bridge δ σ) :
    (b.settle s).current = b.current := by
  rw [settle]
  split
  · rfl
  · next session hsession =>
    rw [current, current, hsession]
    exact congrArg some (mailbox_letThreadRun s true _ session b)

/-- Neither does a signal, for whichever mailbox it is. -/
theorem current_receive (s : Surroundings δ σ) (number : Nat) (sig : Signal) (b : Bridge δ σ) :
    (b.receive s number sig).current = b.current := by
  rw [receive]
  split
  · exact current_settle s _
  · rfl

/-- Neither do the reports of a call. The induction is on them, since each is received by itself. -/
theorem current_absorb (s : Surroundings δ σ) (e : Effects δ) (b : Bridge δ σ) :
    (b.absorb s e).current = b.current := by
  rw [absorb, show b.current = { b with driver := some e.driver }.current from rfl]
  generalize { b with driver := some e.driver } = b'
  induction e.reports generalizing b' with
  | nil => rfl
  | cons r reports ih => exact (ih _).trans (current_receive s _ _ b')

/-! ### Without a session -/

/-- Since the first bridge, which had no session, nothing happened that listeners or the event
thread could notice. -/
structure Idles (b b' : Bridge δ σ) : Prop where
  /-- There is no session. -/
  closed : b'.session = none
  /-- Listeners were not called. -/
  audience : b'.audience = b.audience
  /-- The engine's flag stayed as it was. -/
  engineOn : b'.engineOn = b.engineOn
  /-- There are as many mailboxes. -/
  length : b'.mailboxes.length = b.mailboxes.length
  /-- What is handed out is for these only. -/
  reaches : b.Reaches → b'.Reaches

omit [Hardware δ] in
/-- A bridge that idles for a while and for another idles throughout. -/
theorem Idles.trans (h : b.Idles b') (h' : b'.Idles b'') : b.Idles b'' where
  closed := h'.closed
  audience := h'.audience.trans h.audience
  engineOn := h'.engineOn.trans h.engineOn
  length := h'.length.trans h.length
  reaches := h'.reaches ∘ h.reaches

/-- What a driver reports without a session piles up where nobody looks. -/
theorem idles_absorb (hb : b.session = none) (e : Effects δ) : b.Idles (b.absorb s e) := by
  rw [absorb_of_disabled hb]
  have hlength := length_reportAll b.mailboxes e.reports
  exact ⟨hb, rfl, rfl, hlength, fun h => h.congr rfl (fun _ hn => hn) hlength.ge⟩

/-- **A call of the driver** without a session. -/
theorem idles_call (hb : b.session = none) {contact : Contact} (hcall : contact.isCall = true)
    (hreporter : ∀ r, contact.reporter? = some r → r.mailbox < b.mailboxes.length)
    (e : Effects δ) : b.Idles ((b.note contact).absorb s e) := by
  have hnoted : b.Idles (b.note contact) := ⟨hb, rfl, rfl, rfl, fun h => h.note hcall hreporter⟩
  exact hnoted.trans (idles_absorb hnoted.closed e)

/-- Cleaning up is a call of the driver, or nothing. -/
theorem idles_cleanup (hb : b.session = none) : b.Idles (b.cleanup s) := by
  rw [cleanup]
  split
  · exact ⟨hb, rfl, rfl, rfl, id⟩
  · next d hd => exact idles_call hb rfl (fun _ h => by cases h) (Hardware.cleanup d)

omit [Hardware δ] in
/-- Discovery makes no call. -/
theorem idles_discover (hb : b.session = none) : b.Idles (b.discover s).1 := by
  have hcalls := calls_discover s b
  obtain ⟨driver, discoveries, contacts, hfields⟩ := discover_fields s b
  rw [hfields] at hcalls ⊢
  exact ⟨hb, rfl, rfl, rfl, fun h => h.congr hcalls (fun _ hn => hn) le_rfl⟩

/-- How an attempt ends to open a session on the mailbox of this number. -/
inductive Opening (number : Nat) (b : Bridge δ σ) : Bridge δ σ × Outcome → Prop where
  /-- It fails, and leaves the bridge idle. -/
  | failed {b' : Bridge δ σ} {e : Failure} (idles : b.Idles b') : Opening number b (b', .error e)
  /-- It succeeds. -/
  | opened {b' : Bridge δ σ} (current_eq : b'.current = some number) (driver : b'.driver ≠ none)
    (length : b'.mailboxes.length = b.mailboxes.length) (reaches : b.Reaches → b'.Reaches) :
    Opening number b (b', .ok ())

omit [Hardware δ] in
/-- An attempt that is made after idling may as well be said to begin before it. -/
theorem Idles.opening {answered : Bridge δ σ × Outcome} {number : Nat} (h : b.Idles b')
    (h' : b'.Opening number answered) : b.Opening number answered := by
  cases h' with
  | failed idles => exact .failed (h.trans idles)
  | opened hcurrent hdriver hlength hreaches =>
    exact .opened hcurrent hdriver (hlength.trans h.length) (hreaches ∘ h.reaches)

/-- With the driver set up, the attempt fails only if no event thread can be made. -/
theorem opening_openSession (hb : b.session = none) (hdriver : b.driver ≠ none) {number : Nat}
    (hnumber : number < b.mailboxes.length) (mailbox : Mailbox) :
    b.Opening number (b.openSession s number mailbox) := by
  rw [openSession]
  split
  · exact .failed ⟨hb, rfl, rfl, rfl, id⟩
  · have hspawned : b.Idles { b with spawns := b.spawns + 1 } := ⟨hb, rfl, rfl, rfl, id⟩
    dsimp only
    split
    · exact .failed (hspawned.trans (idles_cleanup hb))
    · let opened : Bridge δ σ :=
        { b with
          spawns := b.spawns + 1
          session := some { mailbox := number, consumer := .ofMailbox mailbox } }
      -- The new thread dispatches what the driver has reported so far, and that is all it does.
      have halike := alike_settle s opened
      have hcurrent : (opened.settle s).current = some number := current_settle s opened
      refine .opened hcurrent (halike.driver.symm ▸ hdriver) halike.mailboxes fun h n hn => ?_
      rw [halike.mailboxes]
      rcases hn with hn | hn
      · rw [halike.toSameDealings.calls] at hn
        exact h n (.inl hn)
      · obtain rfl := Option.some.inj (hcurrent.symm.trans hn)
        exact hnumber

/-- The bridge once the driver was called to set itself up. -/
def callInit (s : Surroundings δ σ) (number : Nat) (mailbox : Mailbox) (d : δ) (b : Bridge δ σ) :
    Bridge δ σ :=
  let reply := Hardware.init (mailbox.reporter number) d
  (b.note (.init (mailbox.reporter number) reply.result)).absorb s reply.toEffects

section SetUp

variable {number : Nat} {mailbox : Mailbox} {d : δ}

/-- A driver that refuses ends the attempt. -/
theorem setUp_of_error {e : Failure}
    (h : outcome .initializationFailed (Hardware.init (mailbox.reporter number) d).result
      = .error e) :
    b.setUp s number mailbox d = (b.callInit s number mailbox d, .error e) := by
  rw [setUp, h]
  rfl

/-- A driver that is set up is followed by the event thread. -/
theorem setUp_of_ok
    (h : outcome .initializationFailed (Hardware.init (mailbox.reporter number) d).result
      = .ok ()) :
    b.setUp s number mailbox d
      = (b.callInit s number mailbox d).openSession s number mailbox := by
  rw [setUp, h]
  rfl

/-- The call leaves the bridge with the driver that it was made to. -/
theorem driver_callInit : (b.callInit s number mailbox d).driver ≠ none := by
  rw [callInit, (alike_absorb s _ _).driver]
  exact Option.some_ne_none _

/-- The reporter that is handed over in the attempt is for the mailbox that was made for it. -/
theorem opening_setUp (hb : b.session = none) (hnumber : number < b.mailboxes.length) :
    b.Opening number (b.setUp s number mailbox d) := by
  have hreporter (result : CallResult) (r : Reporter)
      (hr : (Contact.init (mailbox.reporter number) result).reporter? = some r) :
      r.mailbox < b.mailboxes.length := by
    obtain rfl := Option.some.inj hr
    exact hnumber
  have hcalled : b.Idles (b.callInit s number mailbox d) := idles_call hb rfl (hreporter _) _
  cases h : outcome .initializationFailed (Hardware.init (mailbox.reporter number) d).result with
  | error e =>
    rw [setUp_of_error h]
    exact .failed hcalled
  | ok _ =>
    rw [setUp_of_ok h]
    exact hcalled.opening
      (opening_openSession hcalled.closed driver_callInit (hcalled.length ▸ hnumber) mailbox)

end SetUp

/-- **Enabling** a bridge without a session makes a mailbox, and opens a session on it or leaves the
bridge idle. -/
theorem opening_enable (hb : b.session = none) :
    b.addMailbox.Opening b.mailboxes.length (b.enable s) := by
  have hdisabled : b.isEnabled = false := isEnabled_eq_false_iff.mpr hb
  have hadded : b.addMailbox.session = none := hb
  have hfound : b.addMailbox.Idles (b.addMailbox.discover s).1 := idles_discover hadded
  cases hdiscover : b.addMailbox.discover s with
  | mk b' driver =>
    rw [hdiscover] at hfound
    cases driver with
    | none =>
      rw [enable_of_miss hdisabled hdiscover]
      exact .failed hfound
    | some d =>
      have hnumber : b.mailboxes.length < b'.mailboxes.length := by
        rw [hfound.length]
        simp [addMailbox]
      rw [enable_of_hit hdisabled hdiscover]
      exact hfound.opening (opening_setUp hfound.closed hnumber)

omit [Hardware δ] in
/-- A bridge with a current mailbox has a session. -/
theorem session_ne_none_of_current {number : Nat} (h : b.current = some number) :
    b.session ≠ none := by
  intro hb
  rw [current_eq_none_iff.mpr hb] at h
  cases h

/-- A bridge that answers that it is enabled has a session. -/
theorem session_enable_ne_none (h : (b.enable s).2 = .ok ()) : (b.enable s).1.session ≠ none := by
  cases hb : b.session with
  | some session =>
    rw [enable_of_enabled (isEnabled_of_session hb), hb]
    nofun
  | none =>
    have hopening := opening_enable (s := s) hb
    generalize b.enable s = answered at hopening h ⊢
    cases hopening with
    | failed => cases h
    | opened hcurrent => exact session_ne_none_of_current hcurrent

/-- **Disabling** leaves the bridge without a session. -/
theorem disable_closes (s : Surroundings δ σ) (b : Bridge δ σ) :
    (b.disable s).1.session = none ∧
      (b.disable s).1.mailboxes.length = b.mailboxes.length ∧
      (b.Reaches → (b.disable s).1.Reaches) := by
  rw [disable]
  split
  · next hb => exact ⟨hb, rfl, id⟩
  · next session hsession =>
    let closed : Bridge δ σ := { b with session := none }
    let posted := closed.receive s session.mailbox .disable
    let ran := (posted.letThreadRun s false 1 session).1
    -- The session is over before the request is posted, so that neither the request nor the run of
    -- the thread brings it back.
    have hposted : posted.session = none := by
      change (closed.receive s session.mailbox .disable).session = none
      rw [receive_of_elsewhere rfl]
    have hran : ran.session = none := (session_letThreadRun s false 1 session posted).trans hposted
    have hdealings : closed.SameDealings ran :=
      ((alike_receive s closed session.mailbox .disable).trans
        (alike_letThreadRun s posted false 1 session)).toSameDealings
    have hcleaned := idles_cleanup (s := s) (b := { ran with engineOn := false }) hran
    refine ⟨hcleaned.closed, hcleaned.length.trans hdealings.mailboxes, fun h => ?_⟩
    have hran' : { ran with engineOn := false }.Reaches :=
      h.congr hdealings.calls (fun _ hn => absurd hran (session_ne_none_of_current hn))
        hdealings.mailboxes.ge
    exact hcleaned.reaches hran'

/-! ### A stale mailbox stays stale -/

/-- The second bridge has come from the first: it has all its mailboxes, and of these none is
current that was not. -/
structure Succeeds (b b' : Bridge δ σ) : Prop where
  /-- The mailboxes are still there. -/
  length : b.mailboxes.length ≤ b'.mailboxes.length
  /-- A session that is new has a mailbox that is new. -/
  current : ∀ number < b.mailboxes.length, b'.current = some number → b.current = some number
  /-- What is handed out is for mailboxes of the bridge. -/
  reaches : b.Reaches → b'.Reaches

namespace Succeeds

omit [Hardware δ] in
/-- Every bridge has come from itself. -/
theorem refl (b : Bridge δ σ) : b.Succeeds b := ⟨le_rfl, fun _ _ h => h, id⟩

omit [Hardware δ] in
/-- What has come from a bridge that has come from another has come from that. -/
theorem trans (h : b.Succeeds b') (h' : b'.Succeeds b'') : b.Succeeds b'' where
  length := Nat.le_trans h.length h'.length
  current := fun number hnumber hcurrent =>
    h.current number hnumber (h'.current number (Nat.lt_of_lt_of_le hnumber h.length) hcurrent)
  reaches := h'.reaches ∘ h.reaches

omit [Hardware δ] in
/-- Nothing happened to the session. -/
theorem of_same (hdealings : b.SameDealings b') (hcurrent : b'.current = b.current) :
    b.Succeeds b' where
  length := hdealings.mailboxes.ge
  current := fun _ _ h => hcurrent.symm.trans h
  reaches := fun h =>
    h.congr hdealings.calls (fun _ hn => hcurrent.symm.trans hn) hdealings.mailboxes.ge

omit [Hardware δ] in
/-- The session was closed, if there was one. -/
theorem of_closed (hlength : b.mailboxes.length ≤ b'.mailboxes.length) (hb' : b'.session = none)
    (hreaches : b.Reaches → b'.Reaches) : b.Succeeds b' :=
  ⟨hlength, fun _ _ h => absurd hb' (session_ne_none_of_current h), hreaches⟩

omit [Hardware δ] in
/-- **Discovery.** -/
theorem discover (s : Surroundings δ σ) (b : Bridge δ σ) : b.Succeeds (b.discover s).1 := by
  have hcalls := calls_discover s b
  obtain ⟨driver, discoveries, contacts, hfields⟩ := discover_fields s b
  rw [hfields] at hcalls ⊢
  exact ⟨le_rfl, fun _ _ h => h, fun h => h.congr hcalls (fun _ hn => hn) le_rfl⟩

/-- **A call of the driver** that hands over nothing. -/
theorem call (s : Surroundings δ σ) {contact : Contact} (hcall : contact.isCall = true)
    (hreporter : contact.reporter? = none) (e : Effects δ) (b : Bridge δ σ) :
    b.Succeeds ((b.note contact).absorb s e) := by
  have halike := alike_absorb s (b.note contact) e
  have hcurrent : ((b.note contact).absorb s e).current = b.current :=
    current_absorb s e (b.note contact)
  refine ⟨halike.mailboxes.ge, fun _ _ hn => hcurrent.symm.trans hn, fun h => ?_⟩
  have hnoted : (b.note contact).Reaches := h.note hcall fun r hr => by
    rw [hreporter] at hr
    cases hr
  exact hnoted.congr halike.toSameDealings.calls (fun _ hn => hcurrent.symm.trans hn)
    halike.mailboxes.ge

/-- **A signal**, for whichever mailbox. -/
theorem receive (s : Surroundings δ σ) (number : Nat) (sig : Signal) (b : Bridge δ σ) :
    b.Succeeds (b.receive s number sig) :=
  .of_same (alike_receive s b number sig).toSameDealings (current_receive s number sig b)

/-- **Disabling.** -/
theorem disable (s : Surroundings δ σ) (b : Bridge δ σ) : b.Succeeds (b.disable s).1 := by
  obtain ⟨hclosed, hlength, hreaches⟩ := disable_closes s b
  exact .of_closed hlength.ge hclosed hreaches

/-- **Enabling.** -/
theorem enable (s : Surroundings δ σ) (b : Bridge δ σ) : b.Succeeds (b.enable s).1 := by
  cases hb : b.session with
  | some session =>
    rw [enable_of_enabled (isEnabled_of_session hb)]
    exact .refl b
  | none =>
    have hlonger : b.mailboxes.length < b.addMailbox.mailboxes.length := by simp [addMailbox]
    have hadded (h : b.Reaches) : b.addMailbox.Reaches := h.congr rfl (fun _ hn => hn) hlonger.le
    have hopening := opening_enable (s := s) hb
    generalize b.enable s = answered at hopening ⊢
    cases hopening with
    | failed idles =>
      exact .of_closed (idles.length ▸ hlonger.le) idles.closed (idles.reaches ∘ hadded)
    | opened hcurrent _ hlength hreaches =>
      -- The session that was opened has the mailbox that was made last, and that one is new.
      refine ⟨hlength ▸ hlonger.le, fun number hnumber hnew => ?_, hreaches ∘ hadded⟩
      obtain rfl : b.mailboxes.length = number := Option.some.inj (hcurrent.symm.trans hnew)
      exact absurd hnumber (Nat.lt_irrefl _)

/-- **Starting**: enabling, and a call of the driver if that succeeds. -/
theorem start (s : Surroundings δ σ) (link : Link) (b : Bridge δ σ) :
    b.Succeeds (b.start s link).1 := by
  have henable := enable s b
  rw [Bridge.start]
  generalize b.enable s = answered at henable ⊢
  obtain ⟨b', _ | _⟩ := answered
  · exact henable
  · dsimp only
    split
    · exact henable
    · exact henable.trans (call s rfl rfl _ b')

/-- **Stopping**: a call of the driver, and disabling unless the driver breaks off. -/
theorem stop (s : Surroundings δ σ) (b : Bridge δ σ) : b.Succeeds (b.stop s).1 := by
  cases hb : b.isEnabled with
  | false =>
    rw [stop_of_disabled hb]
    exact .refl b
  | true =>
    cases hd : b.driver with
    | none =>
      rw [Bridge.stop, if_pos hb, hd]
      exact .refl b
    | some d =>
      have hcalled : b.Succeeds ((b.note .stop).absorb s (Hardware.stop d).toEffects) :=
        call s rfl rfl _ b
      rcases stop_cases (s := s) hb hd with ⟨f, hstop⟩ | hstop
      · rw [hstop]
        exact hcalled
      · rw [hstop]
        exact hcalled.trans (disable s _)

/-- **Writing.** -/
theorem send (s : Surroundings δ σ) (bytes : List UInt8) (b : Bridge δ σ) :
    b.Succeeds (b.send s bytes).1 := by
  rw [Bridge.send]
  split
  · split
    · exact .refl b
    · exact call s rfl rfl _ b
  · exact .refl b

/-- **One operation.** -/
theorem perform (s : Surroundings δ σ) (b : Bridge δ σ) (operation : Operation) :
    b.Succeeds (b.perform s operation) := by
  cases operation with
  | isSupported => exact discover s b
  | enable => exact enable s b
  | disable => exact disable s b
  | start link => exact start s link b
  | startConfigured => exact start s b.config.link b
  | stop => exact stop s b
  | send bytes => exact send s bytes b
  | print text => exact send s (Utf8.encode text) b
  | addListener kind id => exact .of_same ⟨rfl, rfl, rfl, rfl, rfl⟩ rfl
  | removeListener kind id => exact .of_same ⟨rfl, rfl, rfl, rfl, rfl⟩ rfl
  | requestDisable control => exact receive s control.mailbox .disable b
  | interrupt report =>
    rw [Bridge.perform, interrupt]
    split
    · exact receive s _ _ b
    · exact .refl b

end Succeeds

omit [Hardware δ] in
/-- **Stale stays stale.** A session that comes later has a mailbox of its own. -/
theorem Stale.of_succeeds {number : Nat} (h : b.Stale number) (h' : b.Succeeds b') :
    b'.Stale number :=
  ⟨Nat.lt_of_lt_of_le h.1 h'.length, fun hcurrent => h.2 (h'.current number h.1 hcurrent)⟩

/-! ### Silence -/

/-- A start that leaves the bridge without a session has failed to enable it. -/
theorem audience_start_of_disabled (hb : b.session = none) {link : Link}
    (hb' : (b.start s link).1.session = none) : (b.start s link).1.audience = b.audience := by
  have hopening := opening_enable (s := s) hb
  rw [start] at hb' ⊢
  generalize b.enable s = answered at hopening hb' ⊢
  cases hopening with
  | failed idles => exact idles.audience
  | @opened b' hcurrent hdriver hlength =>
    cases hd : b'.driver with
    | none => exact absurd hd hdriver
    | some d =>
      simp only [hd] at hb'
      -- Once enabled, the bridge stays so, whatever the driver answers.
      have hstill := (current_absorb s (Hardware.start link d).toEffects
        (b'.note (.start link))).trans hcurrent
      exact absurd hb' (session_ne_none_of_current hstill)

/-- **Silence.** As long as an operation does not enable the bridge, its listeners hear nothing. -/
theorem journal_perform_of_disabled (hb : b.session = none) {operation : Operation}
    (hb' : (b.perform s operation).session = none) :
    (b.perform s operation).audience.journal = b.audience.journal := by
  have hdisabled : b.isEnabled = false := isEnabled_eq_false_iff.mpr hb
  have hposted (number : Nat) (sig : Signal) :
      (b.receive s number sig).audience.journal = b.audience.journal := by
    rw [receive_of_elsewhere (by simp [hb])]
  have hsent (bytes : List UInt8) : (b.send s bytes).1 = b := by
    rw [send_of_disabled hdisabled]
  -- Only enabling and starting could open a session; all other operations do nothing without one.
  cases operation with
  | isSupported => exact congrArg Audience.journal (idles_discover hb).audience
  | enable =>
    have hopening := opening_enable (s := s) hb
    change (b.enable s).1.session = none at hb'
    change (b.enable s).1.audience.journal = _
    generalize b.enable s = answered at hopening hb' ⊢
    cases hopening with
    | failed idles => exact congrArg Audience.journal idles.audience
    | opened hcurrent => exact absurd hb' (session_ne_none_of_current hcurrent)
  | disable =>
    change (b.disable s).1.audience.journal = _
    rw [disable_of_disabled hb]
  | start link => exact congrArg Audience.journal (audience_start_of_disabled hb hb')
  | startConfigured => exact congrArg Audience.journal (audience_start_of_disabled hb hb')
  | stop =>
    change (b.stop s).1.audience.journal = _
    rw [stop_of_disabled hdisabled]
  | send bytes => exact congrArg (·.audience.journal) (hsent bytes)
  | print text => exact congrArg (·.audience.journal) (hsent (Utf8.encode text))
  | addListener kind id => rfl
  | removeListener kind id => rfl
  | requestDisable control => exact hposted control.mailbox .disable
  | interrupt report =>
    rw [perform, interrupt]
    split
    · exact hposted _ _
    · rfl

end SerialBridge.Bridge
