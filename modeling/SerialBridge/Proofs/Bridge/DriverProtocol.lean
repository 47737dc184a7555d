import SerialBridge.Hardware.Scripted
import SerialBridge.Proofs.Bridge.CallProtocol
import SerialBridge.Proofs.Bridge.Operation

/-!
# A bridge keeps to the protocol

Whatever is done to a bridge, in whatever order and with whatever success, its driver sees calls in
the order that `CallsInOrder` describes, and there is only one driver: the first that discovery
found. `Bridge.calls_follow_protocol` says so.

The invariant is `Bridge.At`: the calls so far lead to a given stage. The stage is not a matter of
the bridge alone, since an operation passes through stages at which the bridge has no session yet or
no session any more; **between** operations it is read off the session (`Bridge.Orderly`). Two
lemmas carry the rest, one for discovery (`Bridge.At.discover`) and one for a call of the driver
(`Bridge.At.call`); an operation is made of such steps.
-/

namespace SerialBridge

namespace Contact

variable {δ : Type} [Hardware δ]

/-- The driver after a call. -/
def apply (d : δ) : Contact → δ
  | .discovery _ => d
  | .init r _ => (Hardware.init r d).driver
  | .start link => (Hardware.start link d).driver
  | .stop => (Hardware.stop d).driver
  | .cleanup => (Hardware.cleanup d).driver
  | .send bytes => (Hardware.send bytes d).driver

/-- The result that stands in a set-up is the driver's answer. -/
def Answered (d : δ) : Contact → Prop
  | .init r result => result = (Hardware.init r d).result
  | _ => True

/-- Every result that stands in the calls is the driver's answer, if the calls are made on the
driver one after the other. -/
def AllAnswered (d : δ) : List Contact → Prop
  | [] => True
  | c :: calls => c.Answered d ∧ AllAnswered (apply d c) calls

/-- The call that was made last is answered by the driver as the earlier ones left it. -/
theorem AllAnswered.snoc {d : δ} {calls : List Contact} {c : Contact} (h : AllAnswered d calls)
    (hc : c.Answered (calls.foldl apply d)) : AllAnswered d (calls ++ [c]) := by
  induction calls generalizing d with
  | nil => exact ⟨hc, trivial⟩
  | cons b calls ih => exact ⟨h.1, ih h.2 hc⟩

end Contact

/-- The numbers of the mailboxes whose reporters were handed over in set-ups. -/
def mailboxesGiven (calls : List Contact) : List Nat :=
  (calls.filterMap Contact.reporter?).map Reporter.mailbox

theorem mailboxesGiven_append (xs ys : List Contact) :
    mailboxesGiven (xs ++ ys) = mailboxesGiven xs ++ mailboxesGiven ys := by
  rw [mailboxesGiven, List.filterMap_append, List.map_append]
  rfl

theorem mem_mailboxesGiven_singleton {c : Contact} {n : Nat} :
    n ∈ mailboxesGiven [c] ↔ ∃ r, c.reporter? = some r ∧ r.mailbox = n := by
  simp [mailboxesGiven, List.mem_filterMap]

theorem nodup_mailboxesGiven_singleton (c : Contact) : (mailboxesGiven [c]).Nodup := by
  cases hr : c.reporter? with
  | none => simp [mailboxesGiven, List.filterMap_cons_none hr]
  | some r => simp [mailboxesGiven, List.filterMap_cons_some hr]

namespace Bridge

variable {δ σ : Type}

/-- The calls that a bridge made on drivers, in order. -/
def calls (b : Bridge δ σ) : List Contact := b.contacts.filter Contact.isCall

/-- A call is noted after those before it. -/
theorem calls_note {c : Contact} (hc : c.isCall = true) (b : Bridge δ σ) :
    (b.note c).calls = b.calls ++ [c] := by
  rw [calls, note, List.filter_append, List.filter_cons_of_pos hc]
  rfl

/-- As long as discovery finds nothing, no call is made. -/
theorem calls_eq_nil {b : Bridge δ σ} {misses : Nat}
    (h : b.contacts = List.replicate misses (.discovery false)) : b.calls = [] := by
  rw [calls, h, List.filter_eq_nil_iff]
  intro c hc
  obtain ⟨-, rfl⟩ := List.mem_replicate.mp hc
  exact Bool.false_ne_true

theorem SameDealings.calls {b b' : Bridge δ σ} (h : b.SameDealings b') : b'.calls = b.calls := by
  rw [Bridge.calls, h.contacts]
  rfl

/-- Discovery runs only while there is no driver. -/
theorem discover_of_none {s : Surroundings δ σ} {b : Bridge δ σ} (hd : b.driver = none) :
    b.discover s =
      ({ b with
          driver := s.discover b.discoveries
          discoveries := b.discoveries + 1 }.note (.discovery (s.discover b.discoveries).isSome),
        s.discover b.discoveries) := by
  rw [discover, hd]

/-- Discovery is no call of a driver. -/
theorem calls_discover (s : Surroundings δ σ) (b : Bridge δ σ) :
    (b.discover s).1.calls = b.calls := by
  cases hd : b.driver with
  | some d => rw [discover, hd]
  | none =>
    rw [discover_of_none hd]
    exact (List.filter_append _ _).trans (List.append_nil _)

variable [Hardware δ]

/-- All calls were made on **one driver**, the first that discovery found, and on nothing else. -/
inductive OneDriver (s : Surroundings δ σ) (b : Bridge δ σ) : Prop where
  /-- Discovery has found nothing so far, and no call was made. -/
  | none (missed : ∀ i < b.discoveries, s.discover i = .none) (driver : b.driver = .none)
    (contacts : b.contacts = List.replicate b.discoveries (.discovery false))
  /-- Discovery found a driver after some misses and has not run since. The driver is now as the
  calls have left the one that was found. -/
  | one (misses : Nat) (found : δ) (missed : ∀ i < misses, s.discover i = .none)
    (hit : s.discover misses = some found)
    (contacts : b.contacts
      = List.replicate misses (.discovery false) ++ .discovery true :: b.calls)
    (driver : b.driver = some (b.calls.foldl Contact.apply found))
    (answered : Contact.AllAnswered found b.calls)

/-- While there is no driver, discovery runs, and it counts as a miss or brings the driver. -/
theorem OneDriver.discover {s : Surroundings δ σ} {b : Bridge δ σ} (h : b.OneDriver s)
    (hd : b.driver = .none) : (b.discover s).1.OneDriver s := by
  cases h with
  | one _ _ _ _ _ driver _ => rw [hd] at driver; cases driver
  | none missed _ contacts =>
    have hcalls : (b.discover s).1.calls = [] := (calls_discover s b).trans (calls_eq_nil contacts)
    cases hfound : s.discover b.discoveries with
    | none =>
      rw [discover_of_none hd, hfound]
      refine .none (fun i hi => ?_) rfl ?_
      -- The attempts before this one missed, and now this one did.
      · rcases Nat.lt_succ_iff_lt_or_eq.mp hi with hi | rfl
        · exact missed i hi
        · exact hfound
      · change b.contacts ++ [.discovery false] = List.replicate (b.discoveries + 1) _
        rw [contacts, List.replicate_succ']
    | some found =>
      refine .one b.discoveries found missed hfound ?_ ?_ ?_
      · rw [hcalls, discover_of_none hd, hfound, ← contacts]
        rfl
      · rw [hcalls, discover_of_none hd, hfound]
        rfl
      · rw [hcalls]
        trivial

/-- A call of the driver, whatever is reported during it. -/
theorem OneDriver.call {s : Surroundings δ σ} {b : Bridge δ σ} (h : b.OneDriver s) {d : δ}
    (hd : b.driver = some d) {c : Contact} (hc : c.isCall = true) (hanswered : c.Answered d)
    {e : Effects δ} (he : e.driver = c.apply d) :
    { b.note c with driver := some e.driver }.OneDriver s := by
  have hcalls := calls_note hc b
  cases h with
  | none _ driver _ => rw [hd] at driver; cases driver
  | one misses found missed hit contacts driver answered =>
    obtain rfl : d = b.calls.foldl Contact.apply found := Option.some.inj (hd.symm.trans driver)
    refine .one misses found missed hit ?_ ?_ ?_
    · change b.contacts ++ [c] = _ ++ _ :: (b.note c).calls
      rw [hcalls, contacts, List.append_assoc, List.cons_append]
    · change some e.driver = some ((b.note c).calls.foldl Contact.apply found)
      rw [hcalls, he, List.foldl_append]
      rfl
    · change Contact.AllAnswered found (b.note c).calls
      rw [hcalls]
      exact answered.snoc hanswered

/-- The calls of a bridge have led to a stage. -/
structure At (s : Surroundings δ σ) (p : Stage) (b : Bridge δ σ) : Prop where
  /-- A thread can have the configured name. -/
  named : '\x00' ∉ b.config.eventThreadName.toList
  /-- All calls were made on one driver. -/
  oneDriver : b.OneDriver s
  /-- They lead to the stage. -/
  leads : Stage.Leads .idle b.calls p
  /-- No mailbox was given twice. -/
  given : (mailboxesGiven b.calls).Nodup
  /-- The mailboxes that were given exist. -/
  known : ∀ n ∈ mailboxesGiven b.calls, n < b.mailboxes.length

/-- To have had the same dealings is to have had them with the same driver. -/
theorem SameDealings.oneDriver {s : Surroundings δ σ} {b b' : Bridge δ σ} (h : b.SameDealings b')
    (hb : b.OneDriver s) : b'.OneDriver s := by
  cases hb with
  | none missed driver contacts =>
    refine .none (by rwa [h.discoveries]) (h.driver.trans driver) ?_
    rw [h.contacts, h.discoveries, contacts]
  | one misses found missed hit contacts driver answered =>
    refine .one misses found missed hit ?_ ?_ (by rwa [h.calls])
    · rw [h.contacts, h.calls]
      exact contacts
    · rw [h.driver, h.calls]
      exact driver

/-- To have had the same dealings is to be at the same stage. -/
theorem SameDealings.at {s : Surroundings δ σ} {p : Stage} {b b' : Bridge δ σ}
    (h : b.SameDealings b') (hb : b.At s p) : b'.At s p where
  named := by rw [h.config]; exact hb.named
  oneDriver := h.oneDriver hb.oneDriver
  leads := by rw [h.calls]; exact hb.leads
  given := by rw [h.calls]; exact hb.given
  known := by rw [h.calls, h.mailboxes]; exact hb.known

namespace At

variable {s : Surroundings δ σ} {p q : Stage} {b : Bridge δ σ}

/-- A bridge whose calls have led anywhere has a driver. -/
theorem exists_driver (h : b.At s p) (hp : p ≠ .idle) : ∃ d, b.driver = some d := by
  cases h.oneDriver with
  | none _ _ contacts =>
    have hleads := h.leads
    rw [calls_eq_nil contacts] at hleads
    cases hleads
    exact absurd rfl hp
  | one _ _ _ _ _ driver _ => exact ⟨_, driver⟩

/-- **Discovery** leaves the stage, and answers with the driver. -/
theorem discover (h : b.At s p) :
    (b.discover s).1.At s p ∧ (b.discover s).1.driver = (b.discover s).2 ∧
      (b.discover s).1.mailboxes = b.mailboxes ∧ (b.discover s).1.session = b.session := by
  cases hd : b.driver with
  | some d =>
    rw [Bridge.discover, hd]
    exact ⟨h, hd, rfl, rfl⟩
  | none =>
    have hcalls := calls_discover s b
    refine ⟨⟨?_, h.oneDriver.discover hd, ?_, ?_, ?_⟩, ?_⟩
    · rw [discover_of_none hd]
      exact h.named
    · rw [hcalls]
      exact h.leads
    · rw [hcalls]
      exact h.given
    · rw [hcalls, discover_of_none hd]
      exact h.known
    · rw [discover_of_none hd]
      exact ⟨rfl, rfl, rfl⟩

/-- **A call** that the protocol allows leads on to the next stage. A set-up brings its result, and
the reporter of a mailbox that was not given before. -/
theorem call (h : b.At s p) {d : δ} (hd : b.driver = some d) {c : Contact} (hc : c.isCall = true)
    (hnext : p.Next c q) (hanswered : c.Answered d)
    (hreporter : ∀ r, c.reporter? = some r →
      r.mailbox ∉ mailboxesGiven b.calls ∧ r.mailbox < b.mailboxes.length)
    {e : Effects δ} (he : e.driver = c.apply d) :
    ((b.note c).absorb s e).At s q ∧ ((b.note c).absorb s e).isEnabled = b.isEnabled := by
  have halike := alike_absorb s (b.note c) e
  refine ⟨halike.toSameDealings.at ⟨h.named, ?_, ?_, ?_, ?_⟩, halike.enabled⟩
  · exact h.oneDriver.call hd hc hanswered he
  · change Stage.Leads .idle (b.note c).calls q
    rw [calls_note hc]
    exact h.leads.snoc hnext
  · change (mailboxesGiven (b.note c).calls).Nodup
    rw [calls_note hc, mailboxesGiven_append, List.nodup_append]
    -- The mailbox of a set-up is new, and any other call gives none.
    refine ⟨h.given, nodup_mailboxesGiven_singleton c, fun n hn n' hn' heq => ?_⟩
    obtain ⟨r, hr, rfl⟩ := mem_mailboxesGiven_singleton.mp hn'
    exact (hreporter r hr).1 (heq ▸ hn)
  · change ∀ n ∈ mailboxesGiven (b.note c).calls, n < b.mailboxes.length
    rw [calls_note hc, mailboxesGiven_append]
    intro n hn
    rcases List.mem_append.mp hn with hn | hn
    · exact h.known n hn
    · obtain ⟨r, hr, rfl⟩ := mem_mailboxesGiven_singleton.mp hn
      exact (hreporter r hr).2

/-- Cleaning up ends the period that is under way. -/
theorem cleanup (h : b.At s p) (hp : p ≠ .idle) :
    (b.cleanup s).At s .idle ∧ (b.cleanup s).isEnabled = b.isEnabled := by
  obtain ⟨d, hd⟩ := h.exists_driver hp
  rw [Bridge.cleanup, hd]
  exact h.call hd rfl (.cleaned hp) trivial nofun rfl

/-- Disabling a bridge with a session closes it and cleans up. -/
theorem disable (h : b.At s p) (hp : p ≠ .idle) {session : Session}
    (hs : b.session = some session) :
    (b.disable s).1.At s .idle ∧ (b.disable s).1.isEnabled = false := by
  -- The request and the last cycle of the thread come before the clean-up and change no dealings.
  have hclosed : b.SameDealings { b with session := none } := ⟨rfl, rfl, rfl, rfl, rfl⟩
  have hasked := alike_receive s { b with session := none } session.mailbox .disable
  have hjoined := hasked.trans (alike_letThreadRun s _ false 1 session)
  rw [Bridge.disable, hs]
  dsimp only
  generalize (Bridge.letThreadRun s false 1 session _) = joined at hjoined ⊢
  obtain ⟨b', session'⟩ := joined
  have hoff : b'.Alike { b' with engineOn := false } := ⟨⟨rfl, rfl, rfl, rfl, rfl⟩, rfl⟩
  have hover := hjoined.trans hoff
  obtain ⟨hclean, henabled⟩ := (hover.toSameDealings.at (hclosed.at h)).cleanup hp
  exact ⟨hclean, henabled.trans hover.enabled⟩

end At

/-! ### Operations -/

/-- The stage between operations is read off the session. -/
def stage (b : Bridge δ σ) : Stage := if b.isEnabled then .serving else .idle

/-- Between operations, the calls have led to the stage of the session. -/
def Orderly (s : Surroundings δ σ) (b : Bridge δ σ) : Prop := b.At s b.stage

section Operations

variable {s : Surroundings δ σ} {b : Bridge δ σ}

theorem At.orderly_of_enabled (h : b.At s .serving) (hb : b.isEnabled = true) : b.Orderly s := by
  rw [Orderly, stage, hb]
  exact h

theorem At.orderly_of_disabled (h : b.At s .idle) (hb : b.isEnabled = false) : b.Orderly s := by
  rw [Orderly, stage, hb]
  exact h

theorem Orderly.at_serving (h : b.Orderly s) (hb : b.isEnabled = true) : b.At s .serving := by
  rw [Orderly, stage, hb] at h
  exact h

theorem Orderly.at_idle (h : b.Orderly s) (hb : b.isEnabled = false) : b.At s .idle := by
  rw [Orderly, stage, hb] at h
  exact h

/-- What the event thread does is not seen by the driver. -/
theorem Alike.orderly {b' : Bridge δ σ} (h : b.Alike b') (hb : b.Orderly s) : b'.Orderly s := by
  rw [Orderly, stage, h.enabled]
  exact h.toSameDealings.at hb

/-- What is expected of an operation that opens a session: if it says so, there is one. -/
def Opens (s : Surroundings δ σ) (answer : Bridge δ σ × Outcome) : Prop :=
  answer.1.Orderly s ∧ (answer.2 = .ok () → answer.1.isEnabled = true)

/-- Making the event thread: if that fails, the driver is cleaned up again. -/
theorem At.openSession (h : b.At s .serving) (hb : b.isEnabled = false) (number : Nat)
    (mailbox : Mailbox) : Opens s (b.openSession s number mailbox) := by
  have hspawned : b.SameDealings { b with spawns := b.spawns + 1 } := ⟨rfl, rfl, rfl, rfl, rfl⟩
  rw [Bridge.openSession, if_neg h.named]
  cases s.spawnFailure b.spawns with
  | some reason =>
    obtain ⟨hclean, henabled⟩ := (hspawned.at h).cleanup Stage.serving_ne_idle
    exact ⟨hclean.orderly_of_disabled (henabled.trans hb), nofun⟩
  | none =>
    let b' : Bridge δ σ := { b with
      spawns := b.spawns + 1
      session := some { mailbox := number, consumer := .ofMailbox mailbox } }
    have hopened : b.SameDealings b' := ⟨rfl, rfl, rfl, rfl, rfl⟩
    have hsettled := alike_settle s b'
    have henabled : (b'.settle s).isEnabled = true := hsettled.enabled
    exact ⟨(hsettled.toSameDealings.at (hopened.at h)).orderly_of_enabled henabled,
      fun _ => henabled⟩

/-- Sets the driver up with the reporter of a mailbox and opens a session on it. -/
def setUp (s : Surroundings δ σ) (number : Nat) (mailbox : Mailbox) (d : δ) (b : Bridge δ σ) :
    Bridge δ σ × Outcome :=
  let reporter := mailbox.reporter number
  let reply := Hardware.init reporter d
  let b := (b.note (.init reporter reply.result)).absorb s reply.toEffects
  match outcome .initializationFailed reply.result with
  | .error e => (b, .error e)
  | .ok () => b.openSession s number mailbox

omit [Hardware δ] in
/-- A configuration that is valid leaves room for a byte. -/
theorem messageCapacity_pos (b : Bridge δ σ) : 0 < b.config.messageCapacity :=
  b.config.valid.capacity_pos

/-- The mailbox that the next session will have. -/
def nextMailbox (b : Bridge δ σ) : Mailbox :=
  .blank b.config.messageCapacity (messageCapacity_pos b)

/-- Makes the mailbox of the next session. -/
def addMailbox (b : Bridge δ σ) : Bridge δ σ :=
  { b with mailboxes := b.mailboxes ++ [b.nextMailbox] }

/-- A mailbox that is made is not given to anybody yet. -/
theorem At.addMailbox {p : Stage} (h : b.At s p) : b.addMailbox.At s p where
  named := h.named
  oneDriver := by
    cases h.oneDriver with
    | none missed driver contacts => exact .none missed driver contacts
    | one misses found missed hit contacts driver answered =>
      exact .one misses found missed hit contacts driver answered
  leads := h.leads
  given := h.given
  known := fun n hn => by
    rw [Bridge.addMailbox, List.length_append]
    exact Nat.lt_add_right _ (h.known n hn)

/-- Without a driver there is nothing to enable, and the mailbox was made in vain. -/
theorem enable_of_miss {b' : Bridge δ σ} (hb : b.isEnabled = false)
    (hmiss : b.addMailbox.discover s = (b', none)) :
    b.enable s = (b', .error (.error .interfaceUnavailable)) := by
  rw [addMailbox, nextMailbox] at hmiss
  rw [enable, if_neg (by simp [hb])]
  simp only [hmiss]

/-- With a driver, enabling is setting it up with the new mailbox. -/
theorem enable_of_hit {b' : Bridge δ σ} {d : δ} (hb : b.isEnabled = false)
    (hhit : b.addMailbox.discover s = (b', some d)) :
    b.enable s = b'.setUp s b.mailboxes.length b.nextMailbox d := by
  rw [addMailbox, nextMailbox] at hhit
  rw [enable, if_neg (by simp [hb])]
  simp only [hhit]
  rfl

/-- Setting the driver up begins a period. If it is refused, the period is over with it. -/
theorem At.setUp (h : b.At s .idle) (hb : b.isEnabled = false) {d : δ} (hd : b.driver = some d)
    {number : Nat} (hnew : number ∉ mailboxesGiven b.calls) (hnumber : number < b.mailboxes.length)
    (mailbox : Mailbox) : Opens s (b.setUp s number mailbox d) := by
  have hreporter : ∀ r, some (mailbox.reporter number) = some r →
      r.mailbox ∉ mailboxesGiven b.calls ∧ r.mailbox < b.mailboxes.length := by
    intro r hr
    obtain rfl := Option.some.inj hr
    exact ⟨hnew, hnumber⟩
  -- Whether the set-up is granted decides where the call leads; apart from that it is one call.
  have hcall (q : Stage) (hnext : Stage.Next .idle
      (.init (mailbox.reporter number) (Hardware.init (mailbox.reporter number) d).result) q) :=
    h.call hd (e := (Hardware.init (mailbox.reporter number) d).toEffects) rfl hnext rfl hreporter
      rfl
  rw [Bridge.setUp]
  cases hresult : (Hardware.init (mailbox.reporter number) d).result with
  | success =>
    rw [hresult] at hcall
    obtain ⟨hcalled, hsame⟩ := hcall .serving .granted
    exact hcalled.openSession (hsame.trans hb) number mailbox
  | refused error =>
    rw [hresult] at hcall
    obtain ⟨hcalled, hsame⟩ := hcall .idle (.refused nofun)
    exact ⟨hcalled.orderly_of_disabled (hsame.trans hb), nofun⟩
  | fault cause =>
    rw [hresult] at hcall
    obtain ⟨hcalled, hsame⟩ := hcall .idle (.refused nofun)
    exact ⟨hcalled.orderly_of_disabled (hsame.trans hb), nofun⟩

/-- Enabling: the mailbox that it makes is a new one. -/
theorem Orderly.enable (h : b.Orderly s) : Opens s (b.enable s) := by
  cases hb : b.isEnabled with
  | true =>
    rw [Bridge.enable, if_pos hb]
    exact ⟨h, fun _ => hb⟩
  | false =>
    have hidle := h.at_idle hb
    -- Every mailbox given so far existed before this one was made.
    have hnew : b.mailboxes.length ∉ mailboxesGiven b.calls :=
      fun hmem => Nat.lt_irrefl _ (hidle.known _ hmem)
    have hnumber : b.mailboxes.length < b.addMailbox.mailboxes.length := by simp [addMailbox]
    have hcalls := calls_discover s b.addMailbox
    obtain ⟨hfound, hdriver, hmailboxes, hsession⟩ := hidle.addMailbox.discover
    cases hdiscover : b.addMailbox.discover s with
    | mk b' driver =>
      rw [hdiscover] at hcalls hfound hdriver hmailboxes hsession
      have hb' : b'.isEnabled = false := (congrArg Option.isSome hsession).trans hb
      cases driver with
      | none =>
        rw [enable_of_miss hb hdiscover]
        exact ⟨hfound.orderly_of_disabled hb', nofun⟩
      | some d =>
        rw [enable_of_hit hb hdiscover]
        refine hfound.setUp hb' hdriver ?_ ?_ b.nextMailbox
        · rw [hcalls]
          exact hnew
        · rw [hmailboxes]
          exact hnumber

/-- Disabling. -/
theorem Orderly.disable (h : b.Orderly s) :
    (b.disable s).1.At s .idle ∧ (b.disable s).1.isEnabled = false := by
  cases hs : b.session with
  | none =>
    have hb : b.isEnabled = false := by rw [isEnabled, hs]; rfl
    rw [Bridge.disable, hs]
    exact ⟨h.at_idle hb, hb⟩
  | some session =>
    have hb : b.isEnabled = true := by rw [isEnabled, hs]; rfl
    exact (h.at_serving hb).disable Stage.serving_ne_idle hs

/-- Starting, also if the driver refuses. -/
theorem Orderly.start (h : b.Orderly s) (link : Link) : (b.start s link).1.Orderly s := by
  obtain ⟨henable, henabled⟩ := h.enable
  rw [Bridge.start]
  cases hopen : b.enable s with
  | mk b' outcome =>
    rw [hopen] at henable henabled
    cases outcome with
    | error e => exact henable
    | ok _ =>
      cases hd : b'.driver with
      | none => simpa only [hd] using henable
      | some d =>
        simp only [hd]
        have hb := henabled rfl
        obtain ⟨hcalled, hsame⟩ :=
          (henable.at_serving hb).call hd (c := .start link) rfl (.used rfl) trivial nofun rfl
        exact hcalled.orderly_of_enabled (hsame.trans hb)

/-- Stopping: whatever the driver answers, the bridge is disabled at once. -/
theorem Orderly.stop (h : b.Orderly s) (hstop : ∀ (d : δ) f, (Hardware.stop d).result ≠ .fault f) :
    (b.stop s).1.Orderly s := by
  cases hb : b.isEnabled with
  | false =>
    rw [Bridge.stop, if_neg (by simp [hb])]
    exact h
  | true =>
    rw [Bridge.stop, if_pos hb]
    cases hd : b.driver with
    | none => exact h
    | some d =>
      obtain ⟨hcalled, hsame⟩ := (h.at_serving hb).call hd (c := .stop) rfl .stopped trivial nofun
        (e := (Hardware.stop d).toEffects) rfl
      obtain ⟨session, hsession⟩ := Option.isSome_iff_exists.mp (hsame.trans hb)
      obtain ⟨hclosed, hdisabled⟩ := hcalled.disable Stage.stopping_ne_idle hsession
      have horderly := hclosed.orderly_of_disabled hdisabled
      dsimp only
      split
      · next f hfault => exact absurd hfault (hstop d f)
      · split
        · next b' e hdisable => rw [hdisable] at horderly; exact horderly
        · next b' hdisable => rw [hdisable] at horderly; exact horderly

/-- Sending. -/
theorem Orderly.send (h : b.Orderly s) (bytes : List UInt8) : (b.send s bytes).1.Orderly s := by
  cases hb : b.isEnabled with
  | false =>
    rw [Bridge.send, if_neg (by simp [hb])]
    exact h
  | true =>
    rw [Bridge.send, if_pos hb]
    cases hd : b.driver with
    | none => exact h
    | some d =>
      obtain ⟨hcalled, hsame⟩ :=
        (h.at_serving hb).call hd (c := .send bytes) rfl (.used rfl) trivial
        nofun (e := Hardware.send bytes d) rfl
      exact hcalled.orderly_of_enabled (hsame.trans hb)

/-- **One operation.** -/
theorem Orderly.perform (h : b.Orderly s) (hstop : ∀ (d : δ) f, (Hardware.stop d).result ≠ .fault f)
    (operation : Operation) : (b.perform s operation).Orderly s := by
  cases operation with
  | isSupported =>
    obtain ⟨hfound, -, -, hsession⟩ := At.discover h
    have hstage : (b.discover s).1.stage = b.stage := by
      rw [stage, isEnabled, hsession]
      rfl
    change (b.discover s).1.At s (b.discover s).1.stage
    rw [hstage]
    exact hfound
  | enable => exact h.enable.1
  | disable => exact h.disable.1.orderly_of_disabled h.disable.2
  | start link => exact h.start link
  | startConfigured => exact h.start _
  | stop => exact h.stop hstop
  | send bytes => exact h.send bytes
  | print text => exact h.send _
  | addListener kind id =>
    have halike : b.Alike (b.addListener kind id) := ⟨⟨rfl, rfl, rfl, rfl, rfl⟩, rfl⟩
    exact halike.orderly h
  | removeListener kind id =>
    have halike : b.Alike (b.removeListener kind id).1 := ⟨⟨rfl, rfl, rfl, rfl, rfl⟩, rfl⟩
    exact halike.orderly h
  | requestDisable control => exact (alike_receive s b _ _).orderly h
  | interrupt report =>
    rw [Bridge.perform, Bridge.interrupt]
    split
    · exact (alike_receive s b _ _).orderly h
    · exact h

/-- **Any number of operations.** -/
theorem Orderly.performAll (h : b.Orderly s)
    (hstop : ∀ (d : δ) f, (Hardware.stop d).result ≠ .fault f) (operations : List Operation) :
    (b.performAll s operations).Orderly s := by
  induction operations generalizing b with
  | nil => exact h
  | cons operation operations ih => exact ih (h.perform hstop operation)

end Operations

/-- A new bridge has had no dealings. -/
theorem orderly_ofConfig (s : Surroundings δ σ) {config : ValidConfig} (memory : σ)
    (hname : '\x00' ∉ config.eventThreadName.toList) : (ofConfig config memory).Orderly s :=
  At.orderly_of_disabled ⟨hname, .none nofun rfl rfl, .nil, List.nodup_nil, nofun⟩ rfl

/-- **Driver calls follow the protocol.** Take any driver that answers when it is told to stop,
anything that discovery may find and any failure to make the event thread, and a bridge under a name
that a thread can have. After any operations, in any order and with any success:

* All calls so far were made on one driver, the first that discovery found, and discovery has not
  run since.
* The calls keep to the protocol: so far they are the beginning of a word.
* Every set-up was given a mailbox of its own.

The same holds once the bridge is released. The calls are then a whole word, and there were as many
clean-ups as successful set-ups. -/
theorem calls_follow_protocol (s : Surroundings δ σ) {config : ValidConfig} (memory : σ)
    (hname : '\x00' ∉ config.eventThreadName.toList)
    (hstop : ∀ (d : δ) f, (Hardware.stop d).result ≠ .fault f) (operations : List Operation) :
    let b := (ofConfig config memory).performAll s operations
    let released := b.release s
    (b.OneDriver s ∧ CallsInOrder b.calls ∧ (mailboxesGiven b.calls).Nodup) ∧
      (released.OneDriver s ∧ CallsInOrder released.calls ∧ (mailboxesGiven released.calls).Nodup) ∧
      Word released.calls ∧
      released.calls.countP Contact.isGranted = released.calls.count .cleanup := by
  intro b released
  have h : b.Orderly s := (orderly_ofConfig s memory hname).performAll hstop operations
  have hreleased : released.At s .idle := h.disable.1
  have hstage : b.stage ≠ .stopping := by
    rw [stage]
    split <;> nofun
  refine ⟨⟨h.oneDriver, h.leads.callsInOrder hstage, h.given⟩,
    ⟨hreleased.oneDriver, hreleased.leads.callsInOrder Stage.stopping_ne_idle.symm,
      hreleased.given⟩,
    hreleased.leads.fits, ?_⟩
  simpa [Stage.owed] using hreleased.leads.count_granted

/-- Discovery misses once, the first event thread cannot be made, and the driver refuses its first
start. -/
def unluckySurroundings : Surroundings Scripted.Driver Unit where
  discover n := if n = 0 then none else some { startCodes := [5] }
  spawnFailure n := if n = 0 then some "busy" else none
  behaviour _ _ := .finish none

/-- A scripted driver that is told to stop answers. -/
theorem stop_ne_fault (d : Scripted.Driver) (f : Fault) : (Hardware.stop d).result ≠ .fault f := by
  change Scripted.Driver.result d.stopCodes ≠ .fault f
  rw [Scripted.Driver.result]
  split <;> nofun

/-- A bridge that was looked at, enabled in vain, started in vain, written to, stopped and enabled
once more. -/
def unluckyBridge : Bridge Scripted.Driver Unit :=
  (ofConfig { messageCapacity := 4, valid := by decide } ()).performAll unluckySurroundings
    [.isSupported, .enable, .start {}, .send [1], .stop, .enable]

/-- The calls on its driver, released at the end, are three periods. -/
theorem unlucky_calls_follow_protocol :
    (unluckyBridge.release unluckySurroundings).calls =
        [.init ⟨0, 4⟩ .success, .cleanup, .init ⟨1, 4⟩ .success, .start {}, .send [1], .stop,
          .cleanup, .init ⟨2, 4⟩ .success, .cleanup] ∧
      Word (unluckyBridge.release unluckySurroundings).calls :=
  ⟨rfl, (calls_follow_protocol unluckySurroundings () (by decide) stop_ne_fault _).2.2.1⟩

end Bridge

end SerialBridge
