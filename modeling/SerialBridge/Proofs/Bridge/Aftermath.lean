import SerialBridge.Proofs.Bridge.Bookkeeping

/-!
# What errors leave behind

An operation has several steps, and each of them may fail after others have had their effects.
`Bridge.errors_leave_defined_states` says what a bridge is like then, whatever happened to it before
and whatever the driver does.

* If it cannot be enabled, it is **off** (`Bridge.Off`), and nothing has changed that its owner
  could notice: from then on it cannot be told from a bridge that was not to be enabled
  (`Bridge.Untouched`).
* If the driver refuses to start, the bridge is as enabling has left it, but for what the driver
  itself did when it was called (`Bridge.Unstarted`). That may be noticed: reports that are made in
  a refused start are taken in like any others.
* Once it has been disabled or stopped, it is off, whatever the answer is.

That a failed attempt cannot be noticed is shown by way of a hushed driver: the bridge, and the one
for which no attempt was made, have the same twin, since they differ in nothing but mailboxes that
nobody watches.
-/

namespace SerialBridge.Bridge

variable {δ σ : Type}

/-! ### Bridges that cannot be told apart -/

/-- Bridges that look like the same one look alike. -/
theorem LooksLike.of_common {δ₁ δ₂ δ₃ : Type} {b : Bridge δ₁ σ} {b' : Bridge δ₂ σ}
    {c : Bridge δ₃ σ} (h : b.LooksLike c) (h' : b'.LooksLike c) : b.LooksLike b' where
  audience := h'.audience.symm.trans h.audience
  engineOn := h'.engineOn.symm.trans h.engineOn
  session := h'.session.symm.trans h.session
  mailbox := fun session hsession => by
    have hsession' : b'.session = some session := h'.session.symm.trans (h.session.trans hsession)
    exact (h'.mailbox session hsession').symm.trans (h.mailbox session hsession)
  tally := h'.tally.symm.trans h.tally
  contacts := h'.contacts.symm.trans h.contacts

variable [Hardware δ] {s : Surroundings δ σ} {b b' : Bridge δ σ} {c : Bridge (Hushed δ) σ}

/-- **Two runs.** Here both bridges get the stray signals. -/
theorem Twins.occurAll_both (h : Twins b c) (occurrences : List Occurrence) :
    Twins (b.occurAll s occurrences) (c.occurAll s.hushed occurrences) ∧
      c.answersTo s.hushed occurrences = b.answersTo s occurrences := by
  induction occurrences generalizing b c with
  | nil => exact ⟨h, rfl⟩
  | cons x rest ih =>
    cases x with
    | operation operation =>
      obtain ⟨hnext, hanswer⟩ := h.perform (s := s) operation
      obtain ⟨hrest, hanswers⟩ := ih hnext
      exact ⟨hrest, congrArg₂ List.cons hanswer hanswers⟩
    | release => exact ih h.disable.1
    | stray number sig => exact ih (h.receive number sig)

/-- The bridges cannot be told apart: whatever happens to both, they answer the same and look
alike. -/
def Indistinguishable (s : Surroundings δ σ) (b b' : Bridge δ σ) : Prop :=
  ∀ later : List Occurrence, b'.answersTo s later = b.answersTo s later ∧
    (b.occurAll s later).LooksLike (b'.occurAll s later)

theorem Twins.indistinguishable (h : Twins b c) (h' : Twins b' c) :
    b.Indistinguishable s b' := by
  intro later
  obtain ⟨htwins, hanswers⟩ := h.occurAll_both (s := s) later
  obtain ⟨htwins', hanswers'⟩ := h'.occurAll_both (s := s) later
  exact ⟨hanswers'.symm.trans hanswers, .of_common htwins.looksLike htwins'.looksLike⟩

/-- Without a session, mailboxes make no difference. -/
theorem indistinguishable_of_closed (hb : b.session = none) {mailboxes : List Mailbox}
    (hlength : mailboxes.length = b.mailboxes.length) :
    b.Indistinguishable s { b with mailboxes } := by
  have hnone (session : Session) (hsession : b.session = some session) :
      none = some session.mailbox ∧ none = some session.mailbox := by
    rw [hb] at hsession
    cases hsession
  have hsame : Mirrors none none b (b.hushed none b.mailboxes) := .of rfl nofun hnone
  have hother : Mirrors none none { b with mailboxes } (b.hushed none b.mailboxes) :=
    .of hlength.symm nofun hnone
  exact (hsame.twins_of_closed hb).indistinguishable (hother.twins_of_closed hb)

/-! ### What is left behind -/

/-- The bridge is **off**. It has no session, and its driver is owed nothing. -/
structure Off (s : Surroundings δ σ) (b : Bridge δ σ) : Prop where
  /-- It is disabled. -/
  disabled : b.isEnabled = false
  /-- The engine's flag is off. -/
  engineOn : b.engineOn = false
  /-- There are no counters. -/
  tally : b.tally = none
  /-- There is no control. -/
  control : b.control = none
  /-- Every successful set-up of the driver has its clean-up. -/
  discharged : Discharged b.calls
  /-- No event thread runs, and what was handed out is of no use any more. -/
  shut : b.Shut s

theorem Kept.off {config : ValidConfig} (h : b.Kept config) (hb : b.session = none) : b.Off s where
  disabled := isEnabled_eq_false_iff.mpr hb
  engineOn := (h.closed hb).1
  tally := by rw [tally, hb]; rfl
  control := by rw [control, hb]; rfl
  discharged := (h.closed hb).2
  shut := shut_of_closed hb

omit [Hardware δ] in
/-- The bridge as it would be without the attempt to enable it that has led to the other one. It
has made a mailbox that it does not use, and knows the driver that was found, as it is now. For
discovery, for the making of event threads and in the list of dealings, it is the same time. -/
def unattempted (b b' : Bridge δ σ) : Bridge δ σ :=
  { b.addMailbox with
    driver := b'.driver
    discoveries := b'.discoveries
    spawns := b'.spawns
    contacts := b'.contacts }

/-- An attempt to enable the bridge has failed with this answer, and left the bridge as the second
one. -/
structure Untouched (s : Surroundings δ σ) (b : Bridge δ σ) (e : Failure) (b' : Bridge δ σ) : Prop
    extends b'.Off s where
  /-- The bridge was disabled before. -/
  wasDisabled : b.isEnabled = false
  /-- The answer tells what the driver was called for. -/
  attempt : ∃ new, b'.calls = b.calls ++ new ∧ EnablingCalls new (.error e)
  /-- The configuration has not changed. -/
  sameConfig : b'.config = b.config
  /-- Listeners are registered as before, and have not been called. -/
  sameAudience : b'.audience = b.audience
  /-- The engine's flag has not changed. -/
  sameEngine : b'.engineOn = b.engineOn
  /-- It cannot be noticed that there was an attempt. -/
  indistinguishable : (b.unattempted b').Indistinguishable s b'

/-- The driver has refused to start with this code, and left the bridge as the second one. -/
structure Unstarted (s : Surroundings δ σ) (link : Link) (code : Int32) (b b' : Bridge δ σ) :
    Prop where
  /-- The bridge is enabled. -/
  enabled : b'.isEnabled = true
  /-- Its session has the same mailbox. -/
  current : b'.current = b.current
  /-- Nothing has happened since but a call of the driver, whose reports are taken in as ever. -/
  called : ∃ d, b.driver = some d ∧ (Hardware.start link d).result = .refused ⟨code⟩ ∧
    b' = (b.note (.start link)).absorb s (Hardware.start link d).toEffects ∧
    -- If the driver reports nothing, nothing has changed but the driver itself.
    ((Hardware.start link d).reports = [] → b' = { b with
      driver := some (Hardware.start link d).driver
      contacts := b.contacts ++ [.start link] })

/-! ### Errors -/

omit [Hardware δ] in
/-- If only the driver and the dealings have changed, and mailboxes that are not used, the bridge is
the one for which no attempt was made. -/
theorem eq_unattempted (hconfig : b'.config = b.config) (haudience : b'.audience = b.audience)
    (hengine : b'.engineOn = b.engineOn) (hsession : b'.session = b.session) :
    b' = { b.unattempted b' with mailboxes := b'.mailboxes } := by
  obtain ⟨config, audience, _, engineOn, session, _, _, _, _⟩ := b'
  obtain rfl : config = b.config := hconfig
  obtain rfl : audience = b.audience := haudience
  obtain rfl : engineOn = b.engineOn := hengine
  obtain rfl : session = b.session := hsession
  rfl

/-- A failed attempt to enable a bridge whose books are kept. -/
theorem Kept.untouched {config : ValidConfig} (h : b.Kept config)
    (hname : '\x00' ∉ config.eventThreadName.toList) {e : Failure}
    (he : b.enable s = (b', .error e)) : b.Untouched s e b' := by
  have hafter := h.enable hname s
  obtain ⟨hb', -⟩ := session_enable_of_failed (s := s) (b := b) (by rw [he]; nofun)
  have hb : b.session = none := by
    by_contra hb
    rw [enable_of_enabled (isEnabled_iff.mpr hb)] at he
    cases he
  have hdisabled : b.isEnabled = false := isEnabled_eq_false_iff.mpr hb
  have hopening := opening_enable (s := s) hb
  obtain ⟨hconfig, new, hnew, hattempt⟩ :=
    attempts_enable (s := s) (h.config_eq.symm ▸ hname) hdisabled
  rw [he] at hafter hb' hopening hconfig hnew hattempt
  cases hopening with
  | failed idles =>
    have hclosed : (b.unattempted b').session = none := hb
    have hother : (b.unattempted b').Indistinguishable s
        { b.unattempted b' with mailboxes := b'.mailboxes } :=
      indistinguishable_of_closed hclosed idles.length
    rw [← eq_unattempted hconfig idles.audience idles.engineOn (hb'.trans hb.symm)] at hother
    exact ⟨hafter.off hb', hdisabled, ⟨new, hnew, hattempt⟩, hconfig, idles.audience,
      idles.engineOn, hother⟩

/-- Once the bridge has been enabled, a start is a call of the driver. -/
theorem start_of_enable {d : δ} (henable : b.enable s = (b', .ok ())) (hd : b'.driver = some d)
    (link : Link) :
    b.start s link = ((b'.note (.start link)).absorb s (Hardware.start link d).toEffects,
      outcome (.startFailed link.device) (Hardware.start link d).result) := by
  rw [start, henable]
  simp only [hd]

/-- Only a refusal becomes an error. -/
theorem outcome_eq_error_iff {refusal : Int32 → BridgeError} {result : CallResult}
    {cause : BridgeError} :
    outcome refusal result = .error (.error cause) ↔
      ∃ code, result = .refused ⟨code⟩ ∧ refusal code = cause := by
  cases result with
  | success => simp [outcome]
  | refused error =>
    obtain ⟨code⟩ := error
    simp [outcome]
  | fault f => simp [outcome]

/-- A driver that refuses to start leaves the bridge to its session. -/
theorem unstarted_of_refused {link : Link} {code : Int32} {d : δ} (hb : b.session ≠ none)
    (hd : b.driver = some d) (hrefused : (Hardware.start link d).result = .refused ⟨code⟩) :
    b.Unstarted s link code
      ((b.note (.start link)).absorb s (Hardware.start link d).toEffects) where
  enabled := (alike_absorb s (b.note (.start link)) _).enabled.trans (isEnabled_iff.mpr hb)
  current := current_absorb s _ (b.note (.start link))
  called := by
    refine ⟨d, hd, hrefused, rfl, fun hreports => ?_⟩
    rw [absorb, hreports]
    rfl

/-- A start that the driver refuses. -/
theorem Kept.unstarted {config : ValidConfig} (h : b.Kept config)
    (hname : '\x00' ∉ config.eventThreadName.toList) {link : Link} {device : String} {code : Int32}
    (hfailed : (b.start s link).2 = .error (.error (.startFailed device code))) :
    device = link.device ∧ ∃ b', b.enable s = (b', .ok ()) ∧
      b'.Unstarted s link code (b.start s link).1 := by
  have hafter := h.enable hname s
  have hopen := session_enable_ne_none (s := s) (b := b)
  cases henable : b.enable s with
  | mk b' answer =>
    rw [henable] at hafter hopen
    cases answer with
    | error e =>
      -- No attempt to enable a bridge answers that a start failed.
      obtain ⟨new, -, hattempt⟩ := (h.untouched hname henable).attempt
      rw [Bridge.start, henable] at hfailed
      obtain rfl : e = .error (.startFailed device code) := Except.error.inj hfailed
      cases hattempt
    | ok _ =>
      have hsession : b'.session ≠ none := hopen rfl
      obtain ⟨d, hd⟩ := Option.ne_none_iff_exists'.mp (hafter.opened hsession).1
      rw [start_of_enable henable hd] at hfailed ⊢
      obtain ⟨code', hrefused, herror⟩ := outcome_eq_error_iff.mp hfailed
      obtain ⟨rfl, rfl⟩ := BridgeError.startFailed.inj herror
      exact ⟨rfl, b', rfl, unstarted_of_refused hsession hd hrefused⟩

/-- **Errors leave a defined state.** Take any driver, anything that discovery may find, any failure
to make the event thread, any listeners, and a bridge under a name that a thread can have, to which
anything may have happened.

* If an attempt to enable it fails, it is off, has not changed otherwise, and cannot be told from a
  bridge for which no attempt was made.
* If a start fails because the driver refuses, enabling has succeeded, and nothing has happened
  since but the call of the driver.
* When it has been disabled it is off, and so it is when a stop has answered, whatever the answer. A
  stop does not answer if the driver breaks off. -/
theorem errors_leave_defined_states (s : Surroundings δ σ) {config : ValidConfig} (memory : σ)
    (hname : '\x00' ∉ config.eventThreadName.toList) (occurrences : List Occurrence) :
    let b := (ofConfig config memory : Bridge δ σ).occurAll s occurrences
    (∀ e b', b.enable s = (b', .error e) → b.Untouched s e b') ∧
      (∀ link device code, (b.start s link).2 = .error (.error (.startFailed device code)) →
        device = link.device ∧ ∃ b', b.enable s = (b', .ok ()) ∧
          b'.Unstarted s link code (b.start s link).1) ∧
      (b.disable s).1.Off s ∧
      ((∀ f, (b.stop s).2 ≠ .error (.fault f)) → (b.stop s).1.Off s) := by
  intro b
  have hkept : b.Kept config := (Kept.ofConfig config memory).occurAll hname s occurrences
  refine ⟨fun e b' he => hkept.untouched hname he, fun link device code h =>
    hkept.unstarted hname h, (hkept.disable s).off (disable_closes s b).1, fun hanswers => ?_⟩
  exact (hkept.stop s).off (session_stop (fun hb => (hkept.opened hb).1) hanswers)

/-- A configuration with the usual name for the event thread. -/
def plainConfig : ValidConfig := { messageCapacity := 8, valid := by decide }

/-- A bridge out of luck, after some operations. -/
def unluckyAfter (operations : List Operation) : Bridge Scripted.Driver Unit :=
  (ofConfig plainConfig ()).occurAll unluckySurroundings (operations.map .operation)

/-- The event thread cannot be made at first, then the driver refuses to start, and at last the
bridge is stopped. -/
theorem unlucky_errors_leave_defined_states :
    (unluckyAfter [.isSupported]).Untouched unluckySurroundings (.error (.eventThreadSpawn "busy"))
        ((unluckyAfter [.isSupported]).enable unluckySurroundings).1 ∧
      (∃ b', (unluckyAfter [.isSupported, .enable]).enable unluckySurroundings = (b', .ok ()) ∧
        b'.Unstarted unluckySurroundings {} 5
          ((unluckyAfter [.isSupported, .enable]).start unluckySurroundings {}).1) ∧
      ((unluckyAfter [.isSupported, .enable, .start {}]).stop unluckySurroundings).1.Off
        unluckySurroundings := by
  have hname : '\x00' ∉ plainConfig.eventThreadName.toList := by decide
  have hleft (operations : List Operation) :=
    errors_leave_defined_states unluckySurroundings () hname (operations.map .operation)
  have hspawn : (unluckyAfter [.isSupported]).enable unluckySurroundings
      = (((unluckyAfter [.isSupported]).enable unluckySurroundings).1,
        .error (.error (.eventThreadSpawn "busy"))) := rfl
  refine ⟨(hleft [.isSupported]).1 _ _ hspawn, ?_, ?_⟩
  · exact ((hleft [.isSupported, .enable]).2.1 {} _ 5 rfl).2
  · exact (hleft [.isSupported, .enable, .start {}]).2.2.2 fun f hfault => by cases hfault

/-! ### A refused start may be noticed -/

/-- A driver that reports that the engine is on before it refuses to start. -/
structure HastyDriver where
  /-- The reporter it was given. -/
  reporter : Option Reporter := none

instance : Hardware HastyDriver where
  init r _ := { driver := ⟨some r⟩ }
  start _ d :=
    { driver := d
      reports := d.reporter.toList.map (·, .status statusEngineOn)
      result := .refused ⟨5⟩ }
  stop d := { driver := d }
  send _ d := { driver := d }
  cleanup _ := { driver := {} }
  outlet := HastyDriver.reporter

/-- A bridge over a hasty driver, with one listener. -/
def overHasty : Bridge HastyDriver Unit := (ofConfig plainConfig ()).addListener .status "here"

/-- Listeners that do nothing, and a hasty driver. -/
def hastySurroundings : Surroundings HastyDriver Unit where
  discover _ := some {}
  behaviour _ _ := .finish none

/-- A bridge over a driver that refuses to start once. -/
def overReluctant : Bridge Scripted.Driver Unit := ofConfig plainConfig ()

/-- Listeners that do nothing, and a driver that refuses to start once. -/
def reluctantSurroundings : Surroundings Scripted.Driver Unit where
  discover _ := some { startCodes := [5] }
  behaviour _ _ := .finish none

/-- A start that the driver refuses does not always leave the bridge as enabling alone would.
Reports that the driver makes in it are taken in: the engine's flag is on, a listener was called and
the report was counted. And the driver itself need not be as it was, so that the next start may
succeed where it would have failed. -/
theorem refused_start_may_be_noticed :
    (overHasty.start hastySurroundings {}).2 = .error (.error (.startFailed "/dev/ttyS0" 5)) ∧
      (overHasty.start hastySurroundings {}).1.engineOn = true ∧
      (overHasty.enable hastySurroundings).1.engineOn = false ∧
      (overHasty.start hastySurroundings {}).1.audience.heard = [("here", .status .started)] ∧
      (overHasty.enable hastySurroundings).1.audience.heard = [] ∧
      (overHasty.start hastySurroundings {}).1.tally = some { statusReports := 1, drains := 1 } ∧
      (overHasty.enable hastySurroundings).1.tally = some {} ∧
      (overReluctant.start reluctantSurroundings {}).2
        = .error (.error (.startFailed "/dev/ttyS0" 5)) ∧
      ((overReluctant.start reluctantSurroundings {}).1.start reluctantSurroundings {}).2 = .ok () ∧
      ((overReluctant.enable reluctantSurroundings).1.start reluctantSurroundings {}).2
        = .error (.error (.startFailed "/dev/ttyS0" 5)) :=
  ⟨rfl, rfl, rfl, rfl, rfl, rfl, rfl, rfl, rfl, rfl⟩

end SerialBridge.Bridge
