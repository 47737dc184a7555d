import SerialBridge.Hardware.Loopback
import SerialBridge.Proofs.Bridge.Hushed

/-!
# Sessions are isolated

A handle is a reporter that was handed over when a driver was set up, or the control of a session.
It is of use until its session is closed. `Bridge.sessions_are_isolated` compares two runs. In the
first, signals are posted through old handles at any time, and the driver may use the reporters that
it got earlier. In the second there are no such signals, and the driver is `Hushed`. The runs cannot
be told apart by what listeners are told, by what operations answer, by the engine's flag or by what
the event thread does (`Bridge.LooksLike`).

Between operations the bridges of such runs are **twins** (`Bridge.Twins`): one mirrors the other,
and of all mailboxes that of the session is watched. One lemma for each operation says that they
stay twins and give the same answer.

A bridge without a session is **shut** (`Bridge.Shut`). All handles on it are cut off for good, and
listeners hear nothing until there is a session again.
-/

namespace SerialBridge

variable {δ σ : Type}

namespace Bridge

variable [Hardware δ] {s : Surroundings δ σ} {b : Bridge δ σ} {c : Bridge (Hushed δ) σ}
  {watched latest : Option Nat}

/-- The second bridge is the **twin** of the first: between operations the session's mailbox is
watched, and the driver got its latest reporter for it. -/
def Twins (b : Bridge δ σ) (c : Bridge (Hushed δ) σ) : Prop :=
  ∃ latest, Mirrors b.current latest b c ∧
    ∀ number, b.current = some number → latest = some number ∧ b.driver ≠ none

/-- The bridges are twins and have the same answer to give. -/
def TwinAnswers (answered : Bridge δ σ × Outcome) (answered' : Bridge (Hushed δ) σ × Outcome) :
    Prop :=
  Twins answered.1 answered'.1 ∧ answered'.2 = answered.2

omit [Hardware δ] in
/-- Without a session the bridges are twins whatever the driver got last. -/
theorem Mirrors.twins_of_closed (h : Mirrors watched latest b c) (hb : b.session = none) :
    Twins b c := by
  have hcurrent : b.current = none := current_eq_none_iff.mpr hb
  refine ⟨latest, hcurrent ▸ h.unwatch hb, fun number hnumber => ?_⟩
  rw [hcurrent] at hnumber
  cases hnumber

theorem Mirrors.openSession {number : Nat} (h : Mirrors (some number) (some number) b c)
    (hb : b.session = none) (hdriver : b.driver ≠ none) (mailbox : Mailbox) :
    TwinAnswers (b.openSession s number mailbox) (c.openSession s.hushed number mailbox) := by
  have hconfig := h.config_eq
  have hspawns : c.spawns = b.spawns := by
    cases h
    rfl
  have hspawned : Mirrors (some number) (some number) { b with spawns := b.spawns + 1 }
      { c with spawns := b.spawns + 1 } := by
    cases h with
    | of hlength hagrees hown => exact .of hlength hagrees hown
  have hfailure : s.hushed.spawnFailure = s.spawnFailure := rfl
  by_cases hname : '\x00' ∈ b.config.eventThreadName.toList
  · have hname' : '\x00' ∈ c.config.eventThreadName.toList := hconfig ▸ hname
    rw [Bridge.openSession, Bridge.openSession, if_pos hname, if_pos hname']
    exact ⟨h.twins_of_closed hb, rfl⟩
  · have hname' : '\x00' ∉ c.config.eventThreadName.toList := hconfig ▸ hname
    rw [Bridge.openSession, Bridge.openSession, if_neg hname, if_neg hname', hspawns, hfailure]
    dsimp only
    cases s.spawnFailure b.spawns with
    | some reason =>
      obtain ⟨latest', hclosed⟩ := hspawned.cleanup (s := s) hb
      have hidles := idles_cleanup (s := s) (b := { b with spawns := b.spawns + 1 }) hb
      exact ⟨hclosed.twins_of_closed hidles.closed, rfl⟩
    | none =>
      -- The new session has the mailbox that is watched already.
      let session : Session := { mailbox := number, consumer := .ofMailbox mailbox }
      let b' : Bridge δ σ := { b with spawns := b.spawns + 1, session := some session }
      let c' : Bridge (Hushed δ) σ := { c with spawns := b.spawns + 1, session := some session }
      have hopened : Mirrors (some number) (some number) b' c' := by
        cases h with
        | of hlength hagrees _ =>
          exact .of hlength hagrees fun session' hsession' =>
            Option.some.inj hsession' ▸ ⟨rfl, rfl⟩
      have hcurrent : (b'.settle s).current = some number := current_settle s b'
      have hdriver' : (b'.settle s).driver ≠ none := (alike_settle s b').driver.symm ▸ hdriver
      refine ⟨⟨some number, hcurrent ▸ hopened.settle, fun n hn => ⟨?_, hdriver'⟩⟩, rfl⟩
      exact hcurrent.symm.trans hn

theorem Mirrors.setUp {number : Nat} (h : Mirrors (some number) latest b c) (hb : b.session = none)
    (mailbox : Mailbox) (d : δ) (latest' : Option Nat) :
    TwinAnswers (b.setUp s number mailbox d) (c.setUp s.hushed number mailbox ⟨d, latest'⟩) := by
  have hcalled : Mirrors (some number) (some number) (b.callInit s number mailbox d)
      (c.callInit s.hushed number mailbox ⟨d, latest'⟩) :=
    (h.note _).absorb (absurd hb) _ rfl rfl
  have hclosed : (b.callInit s number mailbox d).session = none :=
    (idles_absorb (b := b.note _) hb _).closed
  have hresult : (Hardware.init (mailbox.reporter number) (⟨d, latest'⟩ : Hushed δ)).result
      = (Hardware.init (mailbox.reporter number) d).result := rfl
  cases houtcome : outcome .initializationFailed
      (Hardware.init (mailbox.reporter number) d).result with
  | error e =>
    rw [setUp_of_error houtcome, setUp_of_error (hresult ▸ houtcome)]
    exact ⟨hcalled.twins_of_closed hclosed, rfl⟩
  | ok _ =>
    rw [setUp_of_ok houtcome, setUp_of_ok (hresult ▸ houtcome)]
    exact hcalled.openSession hclosed driver_callInit mailbox

namespace Twins

/-- **A signal that arrives at both bridges.** -/
theorem receive (h : Twins b c) (number : Nat) (sig : Signal) :
    Twins (b.receive s number sig) (c.receive s.hushed number sig) := by
  obtain ⟨latest, hmirrors, hserving⟩ := h
  have hcurrent := current_receive s number sig b
  refine ⟨latest, hcurrent.symm ▸ hmirrors.receive number sig, fun n hn => ?_⟩
  rw [(alike_receive s b number sig).driver]
  exact hserving n (hcurrent.symm.trans hn)

omit [Hardware δ] in
/-- With a session there is a driver. -/
theorem driver_ne_none (h : Twins b c) (hb : b.session ≠ none) : b.driver ≠ none := by
  obtain ⟨latest, -, hserving⟩ := h
  obtain ⟨session, hsession⟩ := Option.ne_none_iff_exists'.mp hb
  exact (hserving session.mailbox (congrArg (Option.map _) hsession)).2

/-- **A signal that arrives at a stale mailbox** of the first bridge only. -/
theorem receive_stale (h : Twins b c) {number : Nat} (hstale : b.current ≠ some number)
    (sig : Signal) : Twins (b.receive s number sig) c := by
  obtain ⟨latest, hmirrors, hserving⟩ := h
  have hcurrent := current_receive s number sig b
  refine ⟨latest, hcurrent.symm ▸ hmirrors.receive_unwatched hstale sig, fun n hn => ?_⟩
  rw [(alike_receive s b number sig).driver]
  exact hserving n (hcurrent.symm.trans hn)

/-- **A call of the driver**, while there is a session. -/
theorem call (h : Twins b c) (hb : b.session ≠ none) :
    ∃ d latest, b.driver = some d ∧ c.driver = some ⟨d, latest⟩ ∧ ∀ contact (e : Effects δ),
      Twins ((b.note contact).absorb s e) ((c.note contact).absorb s.hushed (e.hushed latest)) := by
  obtain ⟨latest, hmirrors, hserving⟩ := h
  obtain ⟨session, hsession⟩ := Option.ne_none_iff_exists'.mp hb
  have hcurrent : b.current = some session.mailbox := congrArg (Option.map _) hsession
  obtain ⟨rfl, hdriver⟩ := hserving session.mailbox hcurrent
  obtain ⟨d, hd⟩ := Option.ne_none_iff_exists'.mp hdriver
  have hd' : c.driver = some ⟨d, some session.mailbox⟩ := by
    rw [hmirrors.driver_eq, hd]
    rfl
  refine ⟨d, some session.mailbox, hd, hd', fun contact e => ?_⟩
  rw [hcurrent] at hmirrors
  have hstill : ((b.note contact).absorb s e).current = some session.mailbox :=
    (current_absorb s e (b.note contact)).trans hcurrent
  refine ⟨some session.mailbox, ?_, fun n hn => ⟨hstill.symm.trans hn, ?_⟩⟩
  · rw [hstill]
    exact (hmirrors.note contact).absorb (fun _ => rfl) e rfl rfl
  · rw [(alike_absorb s (b.note contact) e).driver]
    nofun

omit [Hardware δ] in
theorem isEnabled_eq (h : Twins b c) : c.isEnabled = b.isEnabled := by
  obtain ⟨latest, hmirrors, -⟩ := h
  exact congrArg Option.isSome hmirrors.session_eq

/-- **Enabling.** -/
theorem enable (h : Twins b c) : TwinAnswers (b.enable s) (c.enable s.hushed) := by
  have hsame := h.isEnabled_eq
  cases hb : b.isEnabled with
  | true =>
    rw [enable_of_enabled hb, enable_of_enabled (hsame.trans hb)]
    exact ⟨h, rfl⟩
  | false =>
    have hb' : c.isEnabled = false := hsame.trans hb
    have hclosed : b.session = none := isEnabled_eq_false_iff.mp hb
    obtain ⟨latest, hmirrors, -⟩ := h
    have hlength : c.mailboxes.length = b.mailboxes.length := by
      cases hmirrors
      assumption
    have hnext : c.nextMailbox = b.nextMailbox := by
      cases hmirrors
      rfl
    -- The mailbox that is made is watched from now on.
    have hadded := hmirrors.addMailbox hclosed
    obtain ⟨latest', hfound, hdriver, -⟩ := hadded.discover (s := s) (absurd hclosed)
    cases hdiscover : b.addMailbox.discover s with
    | mk b' driver =>
      cases hdiscover' : c.addMailbox.discover s.hushed with
      | mk c' driver' =>
        rw [hdiscover, hdiscover'] at hfound hdriver
        have hidles : b.addMailbox.Idles (b.addMailbox.discover s).1 := idles_discover hclosed
        rw [hdiscover] at hidles
        cases driver with
        | none =>
          obtain rfl : driver' = none := hdriver
          rw [enable_of_miss hb hdiscover, enable_of_miss hb' hdiscover']
          exact ⟨hfound.twins_of_closed hidles.closed, rfl⟩
        | some d =>
          obtain rfl : driver' = some ⟨d, latest'⟩ := hdriver
          rw [enable_of_hit hb hdiscover, enable_of_hit hb' hdiscover', hlength, hnext]
          exact hfound.setUp hidles.closed b.nextMailbox d latest'

/-- **Disabling.** -/
theorem disable (h : Twins b c) : TwinAnswers (b.disable s) (c.disable s.hushed) := by
  obtain ⟨latest, hmirrors, hserving⟩ := id h
  have hsame := hmirrors.session_eq
  rw [Bridge.disable, Bridge.disable, hsame]
  cases hsession : b.session with
  | none => exact ⟨h, rfl⟩
  | some session =>
    have hcurrent : b.current = some session.mailbox := congrArg (Option.map _) hsession
    have hclosed : Mirrors (some session.mailbox) latest { b with session := none }
        { c with session := none } := by
      rw [hcurrent] at hmirrors
      cases hmirrors with
      | of hlength hagrees _ =>
        exact .of hlength hagrees fun session' hsession' => by cases hsession'
    obtain rfl : latest = some session.mailbox := (hserving _ hcurrent).1
    -- Until the thread has ended, its mailbox is watched, although there is no session any more.
    have hposted := hclosed.receive (s := s) session.mailbox .disable
    obtain ⟨hran, hleft⟩ := hposted.letThreadRun (s := s) false 1
    have hnone : (({ b with session := none }.receive s session.mailbox .disable).letThreadRun s
        false 1 session).1.session = none := by
      rw [session_letThreadRun, receive_of_elsewhere rfl]
    dsimp only
    generalize { b with session := none }.receive s session.mailbox .disable = posted at *
    generalize { c with session := none }.receive s.hushed session.mailbox .disable = posted' at *
    generalize posted.letThreadRun s false 1 session = answer at *
    generalize posted'.letThreadRun s.hushed false 1 session = answer' at *
    obtain ⟨b', session'⟩ := answer
    obtain ⟨c', session''⟩ := answer'
    obtain rfl : session'' = session' := hleft
    have hreset : Mirrors (some session.mailbox) (some session.mailbox)
        { b' with engineOn := false } { c' with engineOn := false } := by
      cases hran with
      | of hlength hagrees hown => exact .of hlength hagrees hown
    obtain ⟨latest', hcleaned⟩ := hreset.cleanup (s := s) hnone
    have hidles := idles_cleanup (s := s) (b := { b' with engineOn := false }) hnone
    exact ⟨hcleaned.twins_of_closed hidles.closed, rfl⟩

/-- **Starting.** -/
theorem start (h : Twins b c) (link : Link) :
    TwinAnswers (b.start s link) (c.start s.hushed link) := by
  obtain ⟨htwins, hanswer⟩ := h.enable (s := s)
  have hopen := session_enable_ne_none (s := s) (b := b)
  rw [Bridge.start, Bridge.start]
  generalize b.enable s = answered at htwins hanswer hopen ⊢
  generalize c.enable s.hushed = answered' at htwins hanswer ⊢
  obtain ⟨b', answer⟩ := answered
  obtain ⟨c', answer'⟩ := answered'
  obtain rfl : answer' = answer := hanswer
  replace htwins : Twins b' c' := htwins
  cases answer' with
  | error e => exact ⟨htwins, rfl⟩
  | ok _ =>
    obtain ⟨d, latest, hd, hd', hcalled⟩ := htwins.call (hopen rfl)
    simp only [hd, hd']
    exact ⟨hcalled _ _, rfl⟩

/-- **Writing.** -/
theorem send (h : Twins b c) (bytes : List UInt8) :
    TwinAnswers (b.send s bytes) (c.send s.hushed bytes) := by
  have hsame := h.isEnabled_eq
  cases hb : b.isEnabled with
  | false =>
    rw [send_of_disabled hb, send_of_disabled (hsame.trans hb)]
    exact ⟨h, rfl⟩
  | true =>
    obtain ⟨d, latest, hd, hd', hcalled⟩ := h.call (isEnabled_iff.mp hb)
    rw [send_of_enabled hb hd, send_of_enabled (hsame.trans hb) hd']
    exact ⟨hcalled _ _, rfl⟩

/-- **Stopping.** -/
theorem stop (h : Twins b c) : TwinAnswers (b.stop s) (c.stop s.hushed) := by
  have hsame := h.isEnabled_eq
  cases hb : b.isEnabled with
  | false =>
    rw [stop_of_disabled hb, stop_of_disabled (hsame.trans hb)]
    exact ⟨h, rfl⟩
  | true =>
    obtain ⟨d, latest, hd, hd', hcalled⟩ := h.call (s := s) (isEnabled_iff.mp hb)
    have hstopped := hcalled .stop (Hardware.stop d).toEffects
    obtain ⟨hclosed, hanswer⟩ := hstopped.disable (s := s)
    have hb' : c.isEnabled = true := hsame.trans hb
    have hresult : (Hardware.stop (⟨d, latest⟩ : Hushed δ)).result = (Hardware.stop d).result := rfl
    by_cases hfault : ∃ f, (Hardware.stop d).result = .fault f
    · obtain ⟨f, hfault⟩ := hfault
      rw [stop_of_fault hb hd hfault, stop_of_fault hb' hd' (hresult.trans hfault)]
      exact ⟨hstopped, rfl⟩
    · have hanswers := not_exists.mp hfault
      rw [stop_of_answered hb hd hanswers, stop_of_answered hb' hd' (hresult ▸ hanswers), hresult]
      exact ⟨hclosed, congrArg (closingAnswer _) hanswer⟩

omit [Hardware δ] in
theorem isSupported (h : Twins b c) :
    Twins (b.isSupported s).1 (c.isSupported s.hushed).1 ∧
      (c.isSupported s.hushed).2 = (b.isSupported s).2 := by
  have hopen := h.driver_ne_none
  obtain ⟨latest, hmirrors, hserving⟩ := h
  obtain ⟨latest', hfound, hdriver, hkept⟩ := hmirrors.discover (s := s) hopen
  obtain ⟨driver, discoveries, contacts, hfields⟩ := discover_fields s b
  have hcurrent : (b.discover s).1.current = b.current := by rw [hfields]; rfl
  refine ⟨⟨latest', hcurrent.symm ▸ hfound, fun n hn => ?_⟩, ?_⟩
  · obtain ⟨hlatest, hd⟩ := hserving n (hcurrent.symm.trans hn)
    obtain ⟨d, hsome⟩ := Option.ne_none_iff_exists'.mp hd
    have hsame : b.discover s = (b, some d) := by rw [discover, hsome]
    refine ⟨(hkept hd).trans hlatest, ?_⟩
    change (b.discover s).1.driver ≠ none
    rw [hsame]
    exact hd
  · change (c.discover s.hushed).2.isSome = (b.discover s).2.isSome
    rw [hdriver, Option.isSome_map]

/-- **One operation.** -/
theorem perform (h : Twins b c) (operation : Operation) :
    Twins (b.perform s operation) (c.perform s.hushed operation) ∧
      c.answer s.hushed operation = b.answer s operation := by
  have hanswers {answered : Bridge δ σ × Outcome} {answered' : Bridge (Hushed δ) σ × Outcome}
      (hboth : TwinAnswers answered answered') :
      Twins answered.1 answered'.1 ∧ Answer.outcome answered'.2 = .outcome answered.2 :=
    ⟨hboth.1, congrArg Answer.outcome hboth.2⟩
  cases operation with
  | isSupported =>
    obtain ⟨htwins, hanswer⟩ := h.isSupported (s := s)
    exact ⟨htwins, congrArg Answer.flag hanswer⟩
  | enable => exact hanswers h.enable
  | disable => exact hanswers h.disable
  | start link => exact hanswers (h.start link)
  | startConfigured =>
    have hconfig : c.config = b.config := h.elim fun _ hlatest => hlatest.1.config_eq
    have hstarted := h.start (s := s) b.config.link
    have hconfigured : c.startConfigured s.hushed = c.start s.hushed b.config.link := by
      rw [startConfigured, hconfig]
    exact hanswers (hconfigured ▸ hstarted)
  | stop => exact hanswers h.stop
  | send bytes => exact hanswers (h.send bytes)
  | print text => exact hanswers (h.send (Utf8.encode text))
  | addListener kind id =>
    obtain ⟨latest, hmirrors, hserving⟩ := h
    cases hmirrors with
    | of hlength hagrees hown => exact ⟨⟨latest, .of hlength hagrees hown, hserving⟩, rfl⟩
  | removeListener kind id =>
    obtain ⟨latest, hmirrors, hserving⟩ := h
    cases hmirrors with
    | of hlength hagrees hown => exact ⟨⟨latest, .of hlength hagrees hown, hserving⟩, rfl⟩
  | requestDisable control => exact ⟨h.receive control.mailbox .disable, rfl⟩
  | interrupt report =>
    -- If the reporter is not the latest, the first bridge alone gets the report.
    refine ⟨?_, rfl⟩
    obtain ⟨latest, hmirrors, hserving⟩ := id h
    have houtlet : c.outlet = b.outlet.filter fun r => latest == some r.mailbox := by
      cases hmirrors
      exact outlet_hushed latest _ b
    rw [Bridge.perform, Bridge.perform, interrupt, interrupt, houtlet]
    cases b.outlet with
    | none => exact h
    | some r =>
      by_cases hr : latest = some r.mailbox
      · have hkept : (some r).filter (fun r => latest == some r.mailbox) = some r := by
          simp [Option.filter, hr]
        rw [hkept]
        exact h.receive r.mailbox report.signal
      · have hdropped : (some r).filter (fun r => latest == some r.mailbox) = none := by
          simp [Option.filter, hr]
        rw [hdropped]
        exact h.receive_stale (fun hcurrent => hr (hserving _ hcurrent).1) report.signal

end Twins

/-! ### What can be seen -/

/-- The bridges **look alike** from outside. They have the same session, with the same in its
mailbox; the same was done to listeners and by them; and the same dealings were had with discovery
and the driver. -/
structure LooksLike {δ δ' : Type} (b : Bridge δ σ) (c : Bridge δ' σ) : Prop where
  /-- The same listeners are registered, remember the same and were called in the same way. -/
  audience : c.audience = b.audience
  /-- The engine's flag is the same. -/
  engineOn : c.engineOn = b.engineOn
  /-- The session is the same, and its event thread has done the same. -/
  session : c.session = b.session
  /-- The session's mailbox is the same. -/
  mailbox : ∀ session, b.session = some session →
    c.mailboxes[session.mailbox]? = b.mailboxes[session.mailbox]?
  /-- The session's counters are the same. -/
  tally : c.tally = b.tally
  /-- The dealings were the same. -/
  contacts : c.contacts = b.contacts

omit [Hardware δ] in
theorem tally_congr {δ' : Type} {c : Bridge δ' σ} (hsession : c.session = b.session)
    (hmailbox : ∀ session, b.session = some session →
      c.mailboxes[session.mailbox]? = b.mailboxes[session.mailbox]?) : c.tally = b.tally := by
  rw [Bridge.tally, Bridge.tally, hsession]
  cases hb : b.session with
  | none => rfl
  | some session =>
    change (c.mailboxes[session.mailbox]?).bind _ = (b.mailboxes[session.mailbox]?).bind _
    rw [hmailbox session hb]

omit [Hardware δ] in
theorem Twins.looksLike (h : Twins b c) : b.LooksLike c := by
  obtain ⟨latest, hmirrors, -⟩ := h
  cases hmirrors with
  | @of mailboxes _ hagrees _ =>
    have hmailbox (session : Session) (hsession : b.session = some session) :
        mailboxes[session.mailbox]? = b.mailboxes[session.mailbox]? :=
      hagrees _ (congrArg (Option.map _) hsession)
    exact ⟨rfl, rfl, rfl, hmailbox, tally_congr rfl hmailbox, rfl⟩

/-- **Nothing can be seen** of a signal that arrives at a stale mailbox. -/
theorem Stale.looksLike {number : Nat} (h : b.Stale number) (sig : Signal) :
    b.LooksLike (b.receive s number sig) := by
  rw [receive_of_elsewhere (any_eq_false_of_current_ne h.2)]
  have hmailbox (session : Session) (hsession : b.session = some session) :
      (postTo b.mailboxes number sig)[session.mailbox]? = b.mailboxes[session.mailbox]? := by
    refine getElem?_postTo_of_ne fun hsame => h.2 ?_
    rw [current, hsession, hsame]
    rfl
  exact ⟨rfl, rfl, rfl, hmailbox, tally_congr rfl hmailbox, rfl⟩

end Bridge

/-! ### Runs -/

/-- Something that happens to a bridge. -/
inductive Occurrence where
  /-- An operation is carried out. -/
  | operation (operation : Operation)
  /-- The bridge is released. -/
  | release
  /-- A signal is posted through a handle that somebody has kept. -/
  | stray (number : Nat) (signal : Signal)

/-- Whether it is anything but a stray signal. -/
def Occurrence.isProper : Occurrence → Bool
  | .stray _ _ => false
  | _ => true

namespace Bridge

section Occurrences

variable [Hardware δ]

/-- The bridge after something has happened. -/
def occur (s : Surroundings δ σ) (b : Bridge δ σ) : Occurrence → Bridge δ σ
  | .operation operation => b.perform s operation
  | .release => b.release s
  | .stray number sig => b.receive s number sig

/-- The bridge after one thing after the other has happened. -/
def occurAll (s : Surroundings δ σ) (b : Bridge δ σ) (occurrences : List Occurrence) :
    Bridge δ σ :=
  occurrences.foldl (occur s) b

/-- What the operations answer, in order. -/
def answersTo (s : Surroundings δ σ) : Bridge δ σ → List Occurrence → List Answer
  | _, [] => []
  | b, .operation operation :: rest =>
    b.answer s operation :: answersTo s (b.perform s operation) rest
  | b, .release :: rest => answersTo s (b.release s) rest
  | b, .stray number sig :: rest => answersTo s (b.receive s number sig) rest

/-- Stray signals are posted to mailboxes that are stale at the time. -/
def StraysAreStale (s : Surroundings δ σ) : Bridge δ σ → List Occurrence → Prop
  | _, [] => True
  | b, .operation operation :: rest => StraysAreStale s (b.perform s operation) rest
  | b, .release :: rest => StraysAreStale s (b.release s) rest
  | b, .stray number sig :: rest => b.Stale number ∧ StraysAreStale s (b.receive s number sig) rest

/-- The mailbox of this number is **cut off**: whatever happens from now on, it is stale, and
nothing can be seen of a signal that arrives at it. -/
structure CutOff (s : Surroundings δ σ) (b : Bridge δ σ) (number : Nat) : Prop where
  /-- It is never current again. -/
  stale : ∀ later, (b.occurAll s later).Stale number
  /-- Signals make no difference. -/
  looksLike : ∀ later sig,
    (b.occurAll s later).LooksLike ((b.occurAll s later).receive s number sig)

/-- The bridge is **shut**: it has no session, and until there is one again, listeners are not
called. Whatever was handed out before is of no use any more. -/
structure Shut (s : Surroundings δ σ) (b : Bridge δ σ) : Prop where
  /-- There is no session. -/
  closed : b.session = none
  /-- All mailboxes are cut off. -/
  cutOff : ∀ number < b.mailboxes.length, b.CutOff s number
  /-- Listeners are not called as long as there is no session. -/
  silent : ∀ later, (∀ start, start <+: later → (b.occurAll s start).session = none) →
    (b.occurAll s later).audience.journal = b.audience.journal

end Occurrences

variable [Hardware δ] {s : Surroundings δ σ} {b : Bridge δ σ} {c : Bridge (Hushed δ) σ}

theorem Succeeds.occur (s : Surroundings δ σ) (b : Bridge δ σ) (x : Occurrence) :
    b.Succeeds (b.occur s x) := by
  cases x with
  | operation operation => exact .perform s b operation
  | release => exact .disable s b
  | stray number sig => exact .receive s number sig b

theorem Succeeds.occurAll (s : Surroundings δ σ) (b : Bridge δ σ) (occurrences : List Occurrence) :
    b.Succeeds (b.occurAll s occurrences) := by
  induction occurrences generalizing b with
  | nil => exact .refl b
  | cons x rest ih => exact (Succeeds.occur s b x).trans (ih (b.occur s x))

theorem Stale.cutOff {number : Nat} (h : b.Stale number) : b.CutOff s number := by
  have hstale (later : List Occurrence) : (b.occurAll s later).Stale number :=
    h.of_succeeds (.occurAll s b later)
  exact ⟨hstale, fun later sig => (hstale later).looksLike sig⟩

theorem journal_occur_of_disabled (hb : b.session = none) {x : Occurrence}
    (hb' : (b.occur s x).session = none) :
    (b.occur s x).audience.journal = b.audience.journal := by
  cases x with
  | operation operation => exact journal_perform_of_disabled hb hb'
  | release =>
    change (b.disable s).1.audience.journal = _
    rw [disable_of_disabled hb]
  | stray number sig =>
    change (b.receive s number sig).audience.journal = _
    rw [receive_of_elsewhere (by simp [hb])]

/-- **A bridge without a session is shut.** -/
theorem shut_of_closed (hb : b.session = none) : b.Shut s := by
  refine ⟨hb, fun number hnumber => ?_, fun later => ?_⟩
  · have hcurrent : b.current ≠ some number := by
      rw [current_eq_none_iff.mpr hb]
      nofun
    exact Stale.cutOff ⟨hnumber, hcurrent⟩
  · induction later generalizing b with
    | nil => exact fun _ => rfl
    | cons x rest ih =>
      intro hclosed
      have hnext : (b.occur s x).session = none := hclosed [x] (List.prefix_append [x] rest)
      have hrest := ih hnext fun start hstart =>
        hclosed (x :: start) (List.cons_prefix_cons.mpr ⟨rfl, hstart⟩)
      exact hrest.trans (journal_occur_of_disabled hb hnext)

/-- **Two runs.** The second leaves out the stray signals. -/
theorem Twins.occurAll {occurrences : List Occurrence} (h : Twins b c)
    (hstale : b.StraysAreStale s occurrences) :
    Twins (b.occurAll s occurrences)
        (c.occurAll s.hushed (occurrences.filter Occurrence.isProper)) ∧
      c.answersTo s.hushed (occurrences.filter Occurrence.isProper)
        = b.answersTo s occurrences := by
  induction occurrences generalizing b c with
  | nil => exact ⟨h, rfl⟩
  | cons x rest ih =>
    cases x with
    | operation operation =>
      obtain ⟨hnext, hanswer⟩ := h.perform (s := s) operation
      obtain ⟨hrest, hanswers⟩ := ih hnext hstale
      exact ⟨hrest, congrArg₂ List.cons hanswer hanswers⟩
    | release => exact ih h.disable.1 hstale
    | stray number sig => exact ih (h.receive_stale hstale.1.2 sig) hstale.2

omit [Hardware δ] in
/-- Two new bridges are twins. -/
theorem twins_ofConfig (config : ValidConfig) (memory : σ) :
    Twins (ofConfig config memory : Bridge δ σ) (ofConfig config memory : Bridge (Hushed δ) σ) :=
  ⟨none, .of rfl nofun nofun, nofun⟩

/-- A stop closes the session, unless the driver breaks off. -/
theorem session_stop (hdriver : b.session ≠ none → b.driver ≠ none)
    (hanswers : ∀ f, (b.stop s).2 ≠ .error (.fault f)) : (b.stop s).1.session = none := by
  cases hb : b.isEnabled with
  | false =>
    rw [stop_of_disabled hb]
    exact isEnabled_eq_false_iff.mp hb
  | true =>
    obtain ⟨d, hd⟩ := Option.ne_none_iff_exists'.mp (hdriver (isEnabled_iff.mp hb))
    rcases stop_cases (s := s) hb hd with ⟨f, hstop⟩ | hstop
    · exact absurd (congrArg Prod.snd hstop) (hanswers f)
    · rw [hstop]
      exact (disable_closes s _).1

/-- An attempt to enable the bridge that fails leaves it without a session, and so does a start that
begins with it. -/
theorem session_enable_of_failed (h : (b.enable s).2 ≠ .ok ()) :
    (b.enable s).1.session = none ∧ ∀ link, (b.start s link).1 = (b.enable s).1 := by
  have hb : b.session = none := by
    cases hb : b.session with
    | none => rfl
    | some session =>
      rw [enable_of_enabled (isEnabled_of_session hb)] at h
      exact absurd rfl h
  have hopening := opening_enable (s := s) hb
  simp only [start]
  generalize b.enable s = answered at h hopening ⊢
  cases hopening with
  | failed idles => exact ⟨idles.closed, fun _ => rfl⟩
  | opened => exact absurd rfl h

/-- **Sessions are isolated.** Take any driver, anything that discovery may find, any failure to
make the event thread and any listeners, and a run of a bridge in which stray signals are posted to
stale mailboxes. Compare it with the run without the stray signals, in which the driver is kept from
using reporters that it got earlier:

* The bridges look alike, and the operations have answered the same.
* What the bridge has handed out is for mailboxes that it has. Of these the session's is current,
  and the others are cut off.
* When the bridge is disabled, released, or stopped by a driver that does not break off, and when an
  attempt to enable it fails, it is shut, whatever the driver reports while it cleans up. -/
theorem sessions_are_isolated (s : Surroundings δ σ) (config : ValidConfig) (memory : σ)
    {occurrences : List Occurrence}
    (hstale : (ofConfig config memory : Bridge δ σ).StraysAreStale s occurrences) :
    let proper := occurrences.filter Occurrence.isProper
    let b := (ofConfig config memory : Bridge δ σ).occurAll s occurrences
    let c := (ofConfig config memory : Bridge (Hushed δ) σ).occurAll s.hushed proper
    (b.LooksLike c ∧
        (ofConfig config memory : Bridge (Hushed δ) σ).answersTo s.hushed proper
          = (ofConfig config memory : Bridge δ σ).answersTo s occurrences) ∧
      (b.Reaches ∧ ∀ number < b.mailboxes.length, b.current = some number ∨ b.CutOff s number) ∧
      (b.disable s).1.Shut s ∧ (b.release s).Shut s ∧
      ((∀ f, (b.stop s).2 ≠ .error (.fault f)) → (b.stop s).1.Shut s) ∧
      ((b.enable s).2 ≠ .ok () → (b.enable s).1.Shut s ∧ ∀ link, (b.start s link).1.Shut s) := by
  intro proper b c
  have hnew : (ofConfig config memory : Bridge δ σ).Reaches := by
    intro n hn
    rcases hn with hn | hn <;> cases hn
  obtain ⟨htwins, hanswers⟩ := (twins_ofConfig config memory).occurAll hstale
  have hreaches : b.Reaches := (Succeeds.occurAll s _ occurrences).reaches hnew
  refine ⟨⟨htwins.looksLike, hanswers⟩, ⟨hreaches, fun number hnumber => ?_⟩,
    shut_of_closed (disable_closes s b).1, shut_of_closed (disable_closes s b).1,
    fun hstop => shut_of_closed (session_stop htwins.driver_ne_none hstop), fun henable => ?_⟩
  · by_cases hcurrent : b.current = some number
    · exact .inl hcurrent
    · exact .inr (Stale.cutOff ⟨hnumber, hcurrent⟩)
  · obtain ⟨hclosed, hstart⟩ := session_enable_of_failed henable
    exact ⟨shut_of_closed hclosed, fun link => hstart link ▸ shut_of_closed hclosed⟩

/-- A loopback driver and listeners that do nothing. -/
def idleSurroundings : Surroundings Loopback Unit where
  discover _ := some {}
  behaviour _ _ := .finish none

/-- A bridge is started and disabled, and the device's last report comes too late. Handles of that
session are used before and after the bridge is enabled again. -/
def lateSignals : List Occurrence :=
  [.operation (.addListener .status "here"), .operation (.start {}), .operation .disable,
    .stray 0 (.status statusEngineOn), .operation .enable, .stray 0 .disable,
    .stray 0 (.status statusEngineOn)]

/-- Listeners heard of the start and of nothing since, and the new session is untouched. A stop that
is refused shuts the bridge all the same. -/
theorem late_signals_change_nothing :
    let b : Bridge Loopback Unit :=
      (ofConfig { messageCapacity := 4, valid := by decide } ()).occurAll idleSurroundings
        lateSignals
    b.audience.heard = [("here", .status .started)] ∧ b.engineOn = false ∧
      b.session = some { mailbox := 1, consumer := .ofMailbox (.blank 4 (by decide)) } ∧
      (b.stop idleSurroundings).1.Shut idleSurroundings := by
  have hstale : (ofConfig { messageCapacity := 4, valid := by decide } () :
      Bridge Loopback Unit).StraysAreStale idleSurroundings lateSignals :=
    ⟨⟨Nat.zero_lt_one, nofun⟩, ⟨Nat.zero_lt_two, nofun⟩, ⟨Nat.zero_lt_two, nofun⟩, trivial⟩
  obtain ⟨⟨halike, -⟩, -, -, -, hstop, -⟩ := sessions_are_isolated idleSurroundings _ () hstale
  have hshut := hstop fun f hfault => by cases hfault
  exact ⟨congrArg Audience.heard halike.audience.symm, halike.engineOn.symm, halike.session.symm,
    hshut⟩

end Bridge

end SerialBridge
