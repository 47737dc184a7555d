import SerialBridge.Proofs.Bridge.Isolation

/-!
# Every set-up has its clean-up

A driver may break off when it is told to stop, and the bridge then stays enabled and may go on to
use it. Its calls do not keep to the protocol any more, but the books are kept all the same: the
calls are `Discharged` while the bridge has no session, and while it has one, the driver is
`InService` and owed exactly one clean-up.

What an attempt to enable the bridge calls and what it answers go together
(`Bridge.EnablingCalls`). With that, one lemma for each operation shows that the books stay kept
(`Bridge.Kept`), whatever the driver does.
-/

namespace SerialBridge

/-! ### The books -/

/-- The calls in which a driver is set up in vain, or set up, used and cleaned up. -/
inductive Engagement : List Contact → Prop where
  /-- The set-up does not succeed. -/
  | refused (r : Reporter) {result : CallResult} (h : result ≠ .success) :
    Engagement [.init r result]
  /-- The set-up succeeds, and has its clean-up. -/
  | ended (r : Reporter) {use : List Contact} (h : ∀ c ∈ use, c.isUse = true ∨ c = .stop) :
    Engagement (.init r .success :: use ++ [.cleanup])

/-- Every successful set-up in the calls has a clean-up of its own, with nothing but use and stops
in between. -/
def Discharged (calls : List Contact) : Prop :=
  ∃ engagements : List (List Contact),
    (∀ e ∈ engagements, Engagement e) ∧ calls = engagements.flatten

/-- The last successful set-up in the calls has no clean-up yet, and all others have theirs. -/
def InService (calls : List Contact) : Prop :=
  ∃ earlier r use, Discharged earlier ∧ (∀ c ∈ use, c.isUse = true ∨ c = .stop) ∧
    calls = earlier ++ .init r .success :: use

/-- Before any call nothing is owed. -/
theorem Discharged.nil : Discharged [] := ⟨[], nofun, rfl⟩

namespace Discharged

variable {calls : List Contact}

/-- A further engagement that comes to its end leaves nothing owed. -/
theorem append (h : Discharged calls) {engagement : List Contact} (he : Engagement engagement) :
    Discharged (calls ++ engagement) := by
  obtain ⟨engagements, hengagements, rfl⟩ := h
  refine ⟨engagements ++ [engagement], fun e hmem => ?_, by simp⟩
  rcases List.mem_append.mp hmem with hmem | hmem
  · exact hengagements e hmem
  · obtain rfl := List.mem_singleton.mp hmem
    exact he

/-- A set-up that succeeds puts the driver in service. -/
theorem granted (h : Discharged calls) (r : Reporter) :
    InService (calls ++ [.init r .success]) :=
  ⟨calls, r, [], h, nofun, rfl⟩

end Discharged

namespace InService

variable {calls : List Contact}

/-- It stays in service while it is used, and also when it is told to stop. -/
theorem use (h : InService calls) {c : Contact} (hc : c.isUse = true ∨ c = .stop) :
    InService (calls ++ [c]) := by
  obtain ⟨earlier, r, use, hearlier, huse, rfl⟩ := h
  refine ⟨earlier, r, use ++ [c], hearlier, fun d hd => ?_, by simp⟩
  rcases List.mem_append.mp hd with hd | hd
  · exact huse d hd
  · obtain rfl := List.mem_singleton.mp hd
    exact hc

/-- The clean-up ends the service, and nothing is owed. -/
theorem cleanup (h : InService calls) : Discharged (calls ++ [.cleanup]) := by
  obtain ⟨earlier, r, use, hearlier, huse, rfl⟩ := h
  rw [List.append_assoc]
  exact hearlier.append (.ended r huse)

end InService

variable {δ σ : Type}

namespace Bridge

/-- The calls that an attempt to enable a bridge makes, and what the attempt answers. -/
inductive EnablingCalls : List Contact → Outcome → Prop where
  /-- There is no driver. -/
  | unavailable : EnablingCalls [] (.error (.error .interfaceUnavailable))
  /-- The driver refuses. -/
  | refused (r : Reporter) (error : DriverError) :
    EnablingCalls [.init r (.refused error)] (.error (.error (.initializationFailed error.code)))
  /-- The driver breaks off. -/
  | brokeOff (r : Reporter) (f : Fault) : EnablingCalls [.init r (.fault f)] (.error (.fault f))
  /-- The event thread cannot be made, and the driver is cleaned up again. -/
  | unspawned (r : Reporter) (reason : String) :
    EnablingCalls [.init r .success, .cleanup] (.error (.error (.eventThreadSpawn reason)))
  /-- The bridge is enabled. -/
  | enabled (r : Reporter) : EnablingCalls [.init r .success] (.ok ())

/-- An attempt that fails leaves nothing owed: the set-up did not succeed, or has its clean-up
already. -/
theorem EnablingCalls.discharged {calls new : List Contact} {e : Failure}
    (h : EnablingCalls new (.error e)) (hcalls : Discharged calls) :
    Discharged (calls ++ new) := by
  cases h with
  | unavailable => exact (List.append_nil calls).symm ▸ hcalls
  | refused r error => exact hcalls.append (.refused r nofun)
  | brokeOff r f => exact hcalls.append (.refused r nofun)
  | unspawned r reason => exact hcalls.append (@Engagement.ended r [] nofun)

variable [Hardware δ] {s : Surroundings δ σ} {b b' : Bridge δ σ}

/-- A call is noted behind the others. What the driver reports in it adds none. -/
theorem calls_call {c : Contact} (hc : c.isCall = true) (e : Effects δ) :
    ((b.note c).absorb s e).calls = b.calls ++ [c] :=
  (alike_absorb s (b.note c) e).toSameDealings.calls.trans (calls_note hc b)

/-- No call changes the configuration. -/
theorem config_call (c : Contact) (e : Effects δ) : ((b.note c).absorb s e).config = b.config :=
  (alike_absorb s (b.note c) e).config

/-- What is known of an attempt to enable a bridge. -/
structure Attempts (b : Bridge δ σ) (answered : Bridge δ σ × Outcome) : Prop where
  /-- The configuration stays as it is. -/
  config : answered.1.config = b.config
  /-- The calls and the answer go together. -/
  calls : ∃ new, answered.1.calls = b.calls ++ new ∧ EnablingCalls new answered.2

/-- With a driver, cleaning up is a call. -/
theorem cleanup_of_driver {d : δ} (hd : b.driver = some d) :
    b.cleanup s = (b.note .cleanup).absorb s (Hardware.cleanup d) := by
  rw [cleanup, hd]

/-- Once the driver has been set up, the event thread is made, or the driver is cleaned up again. -/
theorem attempts_openSession (hname : '\x00' ∉ b'.config.eventThreadName.toList)
    (hdriver : b'.driver ≠ none) (hconfig : b'.config = b.config) {r : Reporter}
    (hcalls : b'.calls = b.calls ++ [.init r .success]) (number : Nat) (mailbox : Mailbox) :
    b.Attempts (b'.openSession s number mailbox) := by
  obtain ⟨d, hd⟩ := Option.ne_none_iff_exists'.mp hdriver
  rw [openSession, if_neg hname]
  -- Here the two ways part: without a thread the driver is called once more, with one it is not.
  cases s.spawnFailure b'.spawns with
  | some reason =>
    let spawned : Bridge δ σ := { b' with spawns := b'.spawns + 1 }
    have hclean : spawned.cleanup s = (spawned.note .cleanup).absorb s (Hardware.cleanup d) :=
      cleanup_of_driver hd
    have hcalled : (spawned.cleanup s).calls = b.calls ++ [.init r .success, .cleanup] := by
      rw [hclean, calls_call rfl, show spawned.calls = b'.calls from rfl, hcalls,
        List.append_assoc]
      rfl
    have hkept : (spawned.cleanup s).config = b.config := by
      rw [hclean, config_call]
      exact hconfig
    exact ⟨hkept, _, hcalled, .unspawned r reason⟩
  | none =>
    let opened : Bridge δ σ := { b' with
      spawns := b'.spawns + 1
      session := some { mailbox := number, consumer := .ofMailbox mailbox } }
    have hsettled := alike_settle s opened
    exact ⟨hsettled.config.trans hconfig, _, hsettled.toSameDealings.calls.trans hcalls, .enabled r⟩

/-- **Setting up**: the call is made in any case, and what follows depends on its result. -/
theorem attempts_setUp (hname : '\x00' ∉ b.config.eventThreadName.toList) (number : Nat)
    (mailbox : Mailbox) (d : δ) : b.Attempts (b.setUp s number mailbox d) := by
  have hconfig : (b.callInit s number mailbox d).config = b.config := config_call _ _
  have hcalls : (b.callInit s number mailbox d).calls
      = b.calls ++ [.init (mailbox.reporter number)
        (Hardware.init (mailbox.reporter number) d).result] := calls_call rfl _
  cases hresult : (Hardware.init (mailbox.reporter number) d).result with
  | success =>
    rw [hresult] at hcalls
    rw [setUp_of_ok (by rw [hresult]; rfl)]
    exact attempts_openSession (hconfig ▸ hname) driver_callInit hconfig hcalls number mailbox
  | refused error =>
    rw [hresult] at hcalls
    rw [setUp_of_error (e := .error (.initializationFailed error.code)) (by rw [hresult]; rfl)]
    exact ⟨hconfig, _, hcalls, .refused _ error⟩
  | fault f =>
    rw [hresult] at hcalls
    rw [setUp_of_error (e := .fault f) (by rw [hresult]; rfl)]
    exact ⟨hconfig, _, hcalls, .brokeOff _ f⟩

/-- **Enabling** a bridge without a session. -/
theorem attempts_enable (hname : '\x00' ∉ b.config.eventThreadName.toList)
    (hb : b.isEnabled = false) : b.Attempts (b.enable s) := by
  have hcalls := calls_discover s b.addMailbox
  obtain ⟨driver, discoveries, contacts, hfields⟩ := discover_fields s b.addMailbox
  have hconfig : (b.addMailbox.discover s).1.config = b.config := by
    rw [hfields]
    rfl
  cases hdiscover : b.addMailbox.discover s with
  | mk b' found =>
    rw [hdiscover] at hcalls hconfig
    replace hcalls : b'.calls = b.calls := hcalls
    replace hconfig : b'.config = b.config := hconfig
    cases found with
    | none =>
      rw [enable_of_miss hb hdiscover]
      exact ⟨hconfig, [], hcalls.trans (List.append_nil _).symm, .unavailable⟩
    | some d =>
      rw [enable_of_hit hb hdiscover]
      obtain ⟨hsame, new, hnew, hattempt⟩ :=
        attempts_setUp (s := s) (hconfig ▸ hname) b.mailboxes.length b.nextMailbox d
      exact ⟨hsame.trans hconfig, new, hnew.trans (hcalls ▸ rfl), hattempt⟩

/-- **Disabling** a bridge with a session: when the thread has ended, the engine's flag is put back,
and what is left is the clean-up. -/
theorem exists_disable {session : Session} (hsession : b.session = some session) :
    ∃ ended, { b with session := none }.Alike ended ∧ ended.engineOn = false ∧
      (b.disable s).1 = ended.cleanup s := by
  have hasked := alike_receive s { b with session := none } session.mailbox .disable
  have hran := hasked.trans (alike_letThreadRun s _ false 1 session)
  rw [disable, hsession]
  dsimp only
  generalize letThreadRun s false 1 session _ = answer at hran ⊢
  obtain ⟨ran, session'⟩ := answer
  have hreset : ran.Alike { ran with engineOn := false } := ⟨⟨rfl, rfl, rfl, rfl, rfl⟩, rfl⟩
  exact ⟨{ ran with engineOn := false }, hran.trans hreset, rfl, rfl⟩

/-! ### The books are kept -/

/-- The books of a bridge are **kept**. -/
structure Kept (config : ValidConfig) (b : Bridge δ σ) : Prop where
  /-- The configuration has not changed. -/
  config_eq : b.config = config
  /-- Without a session the engine's flag is off, and no clean-up is owed. -/
  closed : b.session = none → b.engineOn = false ∧ Discharged b.calls
  /-- With a session there is a driver in service. -/
  opened : b.session ≠ none → b.driver ≠ none ∧ InService b.calls

namespace Kept

variable {config : ValidConfig}

omit [Hardware δ] in
/-- The books of a new bridge are empty. -/
theorem ofConfig (config : ValidConfig) (memory : σ) :
    Kept config (.ofConfig config memory : Bridge δ σ) :=
  ⟨rfl, fun _ => ⟨rfl, .nil⟩, absurd rfl⟩

omit [Hardware δ] in
/-- Without a session, what there is to show is that nothing is owed. -/
theorem of_closed (hconfig : b.config = config) (hb : b.session = none)
    (hengine : b.engineOn = false) (hcalls : Discharged b.calls) : b.Kept config :=
  ⟨hconfig, fun _ => ⟨hengine, hcalls⟩, absurd hb⟩

omit [Hardware δ] in
/-- With a session, what there is to show is that its driver is in service. -/
theorem of_opened (hconfig : b.config = config) (hb : b.session ≠ none) (hdriver : b.driver ≠ none)
    (hcalls : InService b.calls) : b.Kept config :=
  ⟨hconfig, fun hclosed => absurd hclosed hb, fun _ => ⟨hdriver, hcalls⟩⟩

omit [Hardware δ] in
/-- What the event thread does during a session is no matter of the books. -/
theorem alike (h : b.Kept config) (hb : b.session ≠ none) (halike : b.Alike b') :
    b'.Kept config := by
  obtain ⟨hdriver, hcalls⟩ := h.opened hb
  have hb' : b'.session ≠ none := isEnabled_iff.mp (halike.enabled.trans (isEnabled_iff.mpr hb))
  exact of_opened (halike.config.trans h.config_eq) hb' (halike.driver.symm ▸ hdriver)
    (halike.toSameDealings.calls.symm ▸ hcalls)

/-- **A signal.** Without a session nobody takes it. -/
theorem receive (h : b.Kept config) (s : Surroundings δ σ) (number : Nat) (sig : Signal) :
    (b.receive s number sig).Kept config := by
  by_cases hb : b.session = none
  · rw [receive_of_elsewhere (by simp [hb])]
    exact ⟨h.config_eq, h.closed, h.opened⟩
  · exact h.alike hb (alike_receive s b number sig)

omit [Hardware δ] in
/-- **Discovery** finds something to do only without a driver, and then there is no session. -/
theorem discover (h : b.Kept config) (s : Surroundings δ σ) : (b.discover s).1.Kept config := by
  cases hd : b.driver with
  | some d =>
    rw [Bridge.discover, hd]
    exact h
  | none =>
    have hb : b.session = none := by
      by_contra hb
      exact (h.opened hb).1 hd
    obtain ⟨hengine, hcalls⟩ := h.closed hb
    have hfound : b.Idles (b.discover s).1 := idles_discover hb
    obtain ⟨driver, discoveries, contacts, hfields⟩ := discover_fields s b
    have hconfig : (b.discover s).1.config = b.config := by rw [hfields]
    exact of_closed (hconfig.trans h.config_eq) hfound.closed (hfound.engineOn.trans hengine)
      ((calls_discover s b).symm ▸ hcalls)

/-- **A call of the driver** during a session. -/
theorem call (h : b.Kept config) (hb : b.session ≠ none) (s : Surroundings δ σ) {c : Contact}
    (hc : c.isUse = true ∨ c = .stop) (e : Effects δ) : ((b.note c).absorb s e).Kept config := by
  have halike := alike_absorb s (b.note c) e
  have hcall : c.isCall = true := by
    rcases hc with hc | rfl
    · cases c with
      | discovery found => cases hc
      | _ => rfl
    · rfl
  have hopen : ((b.note c).absorb s e).session ≠ none :=
    isEnabled_iff.mp (halike.enabled.trans (isEnabled_iff.mpr hb))
  refine of_opened ((config_call c e).trans h.config_eq) hopen ?_ ?_
  · rw [halike.driver]
    exact Option.some_ne_none e.driver
  · rw [calls_call hcall]
    exact (h.opened hb).2.use hc

/-- **Enabling.** -/
theorem enable (h : b.Kept config) (hname : '\x00' ∉ config.eventThreadName.toList)
    (s : Surroundings δ σ) : (b.enable s).1.Kept config := by
  cases hb : b.session with
  | some session =>
    rw [enable_of_enabled (isEnabled_of_session hb)]
    exact h
  | none =>
    obtain ⟨hengine, hcalls⟩ := h.closed hb
    have hopening := opening_enable (s := s) hb
    obtain ⟨hconfig, new, hnew, hattempt⟩ :=
      attempts_enable (s := s) (h.config_eq.symm ▸ hname) (isEnabled_eq_false_iff.mpr hb)
    generalize b.enable s = answered at hopening hconfig hnew hattempt ⊢
    cases hopening with
    | failed idles =>
      refine of_closed (hconfig.trans h.config_eq) idles.closed (idles.engineOn.trans hengine) ?_
      exact hnew.symm ▸ hattempt.discharged hcalls
    | opened hcurrent hdriver =>
      refine of_opened (hconfig.trans h.config_eq) (session_ne_none_of_current hcurrent) hdriver ?_
      -- Of the ways to answer an attempt, this is the only one that says that it succeeded.
      cases hattempt with
      | enabled r => exact hnew.symm ▸ hcalls.granted r

/-- **Disabling.** -/
theorem disable (h : b.Kept config) (s : Surroundings δ σ) : (b.disable s).1.Kept config := by
  cases hsession : b.session with
  | none =>
    rw [disable_of_disabled hsession]
    exact h
  | some session =>
    obtain ⟨hdriver, hcalls⟩ := h.opened (hsession ▸ Option.some_ne_none session)
    obtain ⟨ended, halike, hengine, hclean⟩ := exists_disable (s := s) hsession
    obtain ⟨d, hd⟩ := Option.ne_none_iff_exists'.mp hdriver
    -- The thread has ended and the session is over when the driver is called for the last time.
    have hclosed : ended.session = none := isEnabled_eq_false_iff.mp halike.enabled
    have hcleaned := idles_cleanup (s := s) hclosed
    have hcalled : ended.cleanup s = (ended.note .cleanup).absorb s (Hardware.cleanup d) :=
      cleanup_of_driver (halike.driver.trans hd)
    rw [hclean]
    refine of_closed ?_ hcleaned.closed (hcleaned.engineOn.trans hengine) ?_
    · rw [hcalled, config_call]
      exact halike.config.trans h.config_eq
    · rw [hcalled, calls_call rfl, halike.toSameDealings.calls]
      exact hcalls.cleanup

/-- **Starting.** -/
theorem start (h : b.Kept config) (hname : '\x00' ∉ config.eventThreadName.toList)
    (s : Surroundings δ σ) (link : Link) : (b.start s link).1.Kept config := by
  have henabled := h.enable hname s
  -- The driver is told to start only where enabling has led to a session.
  have hopen := session_enable_ne_none (s := s) (b := b)
  rw [Bridge.start]
  generalize b.enable s = answered at henabled hopen ⊢
  obtain ⟨b', _ | _⟩ := answered
  · exact henabled
  · dsimp only
    split
    · exact henabled
    · exact call henabled (hopen rfl) s (.inl rfl) _

/-- **Stopping.** -/
theorem stop (h : b.Kept config) (s : Surroundings δ σ) : (b.stop s).1.Kept config := by
  cases hb : b.isEnabled with
  | false =>
    rw [stop_of_disabled hb]
    exact h
  | true =>
    have hopen : b.session ≠ none := isEnabled_iff.mp hb
    obtain ⟨d, hd⟩ := Option.ne_none_iff_exists'.mp (h.opened hopen).1
    have hstopped := h.call hopen s (.inr rfl) (Hardware.stop d).toEffects
    rcases stop_cases (s := s) hb hd with ⟨f, hstop⟩ | hstop
    · rw [hstop]
      exact hstopped
    · rw [hstop]
      exact hstopped.disable s

/-- **Writing.** -/
theorem send (h : b.Kept config) (s : Surroundings δ σ) (bytes : List UInt8) :
    (b.send s bytes).1.Kept config := by
  cases hb : b.isEnabled with
  | false =>
    rw [send_of_disabled hb]
    exact h
  | true =>
    have hopen : b.session ≠ none := isEnabled_iff.mp hb
    obtain ⟨d, hd⟩ := Option.ne_none_iff_exists'.mp (h.opened hopen).1
    rw [send_of_enabled hb hd]
    exact h.call hopen s (.inl rfl) _

/-- **One operation.** -/
theorem perform (h : b.Kept config) (hname : '\x00' ∉ config.eventThreadName.toList)
    (s : Surroundings δ σ) (operation : Operation) : (b.perform s operation).Kept config := by
  cases operation with
  | isSupported => exact h.discover s
  | enable => exact h.enable hname s
  | disable => exact h.disable s
  | start link => exact h.start hname s link
  | startConfigured => exact h.start hname s _
  | stop => exact h.stop s
  | send bytes => exact h.send s bytes
  | print text => exact h.send s _
  | addListener kind id => exact ⟨h.config_eq, h.closed, h.opened⟩
  | removeListener kind id => exact ⟨h.config_eq, h.closed, h.opened⟩
  | requestDisable control => exact h.receive s control.mailbox .disable
  | interrupt report =>
    rw [Bridge.perform, interrupt]
    split
    · exact h.receive s _ _
    · exact h

/-- **Whatever happens next**, be it an operation, a release or a signal from an old handle. -/
theorem occur (h : b.Kept config) (hname : '\x00' ∉ config.eventThreadName.toList)
    (s : Surroundings δ σ) (x : Occurrence) : (b.occur s x).Kept config := by
  cases x with
  | operation operation => exact h.perform hname s operation
  | release => exact h.disable s
  | stray number sig => exact h.receive s number sig

/-- **Whatever happens**, the books are kept. -/
theorem occurAll (h : b.Kept config) (hname : '\x00' ∉ config.eventThreadName.toList)
    (s : Surroundings δ σ) (occurrences : List Occurrence) :
    (b.occurAll s occurrences).Kept config := by
  induction occurrences generalizing b with
  | nil => exact h
  | cons x rest ih => exact ih (h.occur hname s x)

end Kept

end Bridge

end SerialBridge
