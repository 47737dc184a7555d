import SerialBridge.Proofs.Bridge.Delivery
import SerialBridge.Proofs.Bridge.Isolation
import SerialBridge.Proofs.Bridge.Mailboxes
import SerialBridge.Proofs.Dispatch.Strays

/-!
# A bridge among others

Whoever has got the control of a session may ask for a disable, at any moment until the session is
closed. Such requests are **stray**: the owner of the bridge neither makes them nor knows of them.
`Bridge.RunsAmid` says how a bridge may run while they come in, to the mailboxes that are strayed
to.

* Before and after each signal that arrives, stray requests are posted, and the event thread takes
  them or leaves them where they are (`Bridge.Drifts`).
* While the event thread dispatches a signal, stray requests are posted between its attempts to
  drain and during its callbacks (`Bridge.Works`).
* A stray request that is pending when the session is to be closed may be found by the event thread
  before the request by which the thread is meant to end (`Bridge.disableAmid`).

A control can be had as soon as the bridge has been enabled. While it is being enabled nothing can
come in. Also among stray requests, a signal that arrives is dispatched before the next one does.

A run is **prompt** if what a step gives rise to is dispatched before the next step, and the event
thread does not break off (`Bridge.Prompt`). A bridge whose run is prompt may run just so among
others who do nothing (`Bridge.Prompt.runsAmid`).
-/

namespace SerialBridge

variable {δ σ : Type}

/-- Whether the loop goes on once a run has ended like this. -/
def RunEnd.stays {ε : Type} : RunEnd ε → Bool
  | .waiting => true
  | .unfinished => true
  | _ => false

namespace Bridge

/-! ### The event thread -/

/-- The bridge once a signal has been posted and nobody has taken it yet. -/
def posted (b : Bridge δ σ) (number : Nat) (sig : Signal) : Bridge δ σ :=
  { b with mailboxes := postTo b.mailboxes number sig }

/-- The loop that the event thread of a session runs on its mailbox. -/
def loop (b : Bridge δ σ) (session : Session) (m : Mailbox) : Loop (Hall σ) where
  mailbox := m
  consumer := session.consumer
  enabled := true
  state := { audience := b.audience, engineOn := b.engineOn }

/-- The bridge when the event thread of a session has left its loop like this. -/
def left (b : Bridge δ σ) (session : Session) (l : Loop (Hall σ)) (alive : Bool) : Bridge δ σ :=
  { b with
    audience := l.state.audience
    engineOn := l.state.engineOn
    mailboxes := reportAll (b.mailboxes.set session.mailbox l.mailbox) l.state.elsewhere
    session := some { session with consumer := l.consumer, alive } }

/-- The event thread of the session, if there is a session, is there and has dispatched
everything. -/
def AtRest (b : Bridge δ σ) : Prop :=
  ∀ session, b.session = some session → session.alive = true ∧
    ∃ m, b.mailboxes[session.mailbox]? = some m ∧ m.pending = ∅

variable [Hardware δ] (s : Surroundings δ σ) (strayed : Nat → Prop)

/-- How the event thread of a session may dispatch what has arrived. -/
inductive Works (b : Bridge δ σ) : Bridge δ σ → Prop where
  /-- It is by itself, or it is not there. -/
  | alone (quiet : ∀ session, b.session = some session → strayed session.mailbox →
      session.alive = false) : Works b (b.settle s)
  /-- Stray requests come between its attempts to drain and during its callbacks. It goes on until
  it has to wait or comes to its end. -/
  | amid {session : Session} {m : Mailbox} {h' : Handler (Hall σ) Crash}
    {interludes : List (List Act)} {l : Loop (Hall σ)} {ending : RunEnd Crash}
    (session_eq : b.session = some session) (alive : session.alive = true)
    (mailbox_eq : b.mailboxes[session.mailbox]? = some m) (open_to : strayed session.mailbox)
    (beset : Beset (Hall.handle s b.outlet session.mailbox) h')
    (strays : ∀ interlude ∈ interludes, ∀ a ∈ interlude, a = .post .disable)
    (run_eq : (b.loop session m).runAmid h' interludes = (l, ending))
    (finished : ending ≠ .unfinished) : Works b (b.left session l ending.stays)

/-- What may become of a bridge to which nothing else happens: stray requests are posted to its
session, and the event thread takes them. -/
inductive Drifts (b : Bridge δ σ) : Bridge δ σ → Prop where
  /-- Nothing happens. -/
  | refl : Drifts b b
  /-- A stray request is posted. -/
  | request {c : Bridge δ σ} {number : Nat} (drifts : Drifts b c)
    (current_eq : c.current = some number) (open_to : strayed number) :
    Drifts b (c.posted number .disable)
  /-- The event thread works. -/
  | works {c d : Bridge δ σ} (drifts : Drifts b c) (works : Works s strayed c d) : Drifts b d

/-- What may become of a bridge at which signals arrive one after the other, each of them dispatched
before the next. -/
inductive Arrives : List (Nat × Signal) → Bridge δ σ → Bridge δ σ → Prop where
  /-- No signal arrives. -/
  | nil {b c : Bridge δ σ} (drifts : Drifts s strayed b c) : Arrives [] b c
  /-- A signal arrives and is dispatched. -/
  | cons {p : Nat × Signal} {postings : List (Nat × Signal)} {b c d e : Bridge δ σ}
    (drifts : Drifts s strayed b c) (works : Works s strayed (c.posted p.1 p.2) d)
    (rest : Arrives postings d e) : Arrives (p :: postings) b e

/-! ### Operations -/

/-- Disables a bridge. If a stray request is pending when the flag is cleared, and the event thread
finds it before the request is posted by which it is to end, it ends all the same, and the latter
request stays where it is. -/
def disableAmid (overtaken : Bool) (b : Bridge δ σ) : Bridge δ σ × Outcome :=
  match b.session with
  | none => (b, .ok ())
  | some session =>
    if overtaken && (b.mailboxes[session.mailbox]?).any (·.pending.contains .disable) then
      let b := { b with session := none }
      let (b, session) := b.letThreadRun s false 1 session
      let b := b.receive s session.mailbox .disable
      let b := { b with engineOn := false }.cleanup s
      (b, if session.alive then .ok () else .error (.error .eventThreadPanicked))
    else b.disable s

/-- What an occurrence posts, with the bridge as it is when it begins. -/
def outset (b : Bridge δ σ) : Occurrence → Bridge δ σ × List (Nat × Signal)
  | .operation operation => b.postings s operation
  | .release => (b, [])
  | .stray number sig => (b, [(number, sig)])

/-- What is left of an operation that began with the bridge `b`, once the bridge is `c` and all that
the operation posts has arrived. What a driver answers does not depend on what has arrived. -/
def conclude (overtaken : Bool) (b c : Bridge δ σ) : Operation → Bridge δ σ × Answer
  | .disable =>
    let (c, result) := c.disableAmid s overtaken
    (c, .outcome result)
  | .stop =>
    match b.isEnabled, b.driver with
    | true, some d =>
      match (Hardware.stop d).result with
      | .fault f => (c, .outcome (.error (.fault f)))
      | result =>
        let (c, closed) := c.disableAmid s overtaken
        (c, .outcome (closingAnswer result closed))
    | _, _ => (c, b.answer s .stop)
  | .start link => (c, b.answer s (.start link))
  | .startConfigured => (c, b.answer s .startConfigured)
  | .send bytes => (c, b.answer s (.send bytes))
  | .print text => (c, b.answer s (.print text))
  | .requestDisable _ => (c, .nothing)
  | .interrupt _ => (c, .nothing)
  | operation => (c.perform s operation, c.answer s operation)

/-- What is left of an occurrence once all that it posts has arrived. -/
def close (overtaken : Bool) (b c : Bridge δ σ) : Occurrence → Bridge δ σ × List Answer
  | .operation operation =>
    let (c, answer) := conclude s overtaken b c operation
    (c, [answer])
  | .release => ((c.disableAmid s overtaken).1, [])
  | .stray _ _ => (c, [])

/-- How a bridge may run while stray requests come in, and what its operations answer. -/
inductive RunsAmid : Bridge δ σ → List Occurrence → Bridge δ σ → List Answer → Prop where
  /-- Nothing else happens. -/
  | nil {b c : Bridge δ σ} (drifts : Drifts s strayed b c) : RunsAmid b [] c []
  /-- Something happens, and then the rest. -/
  | cons {b b' c d : Bridge δ σ} {x : Occurrence} {rest : List Occurrence} {answers : List Answer}
    (overtaken : Bool) (drifts : Drifts s strayed b b')
    (arrives : Arrives s strayed (b'.outset s x).2 (b'.outset s x).1 c)
    (runs : RunsAmid (close s overtaken b' c x).1 rest d answers) :
    RunsAmid b (x :: rest) d ((close s overtaken b' c x).2 ++ answers)

/-! ### Prompt runs -/

/-- Signals arrive one after the other, and after each of them the bridge is at rest. -/
def TakesPromptly : List (Nat × Signal) → Bridge δ σ → Prop
  | [], b => b.AtRest
  | p :: postings, b => b.AtRest ∧ TakesPromptly postings (b.receive s p.1 p.2)

/-- In the course of these occurrences the event thread does not break off, and whatever a step
gives rise to is dispatched before the next. -/
def Prompt : Bridge δ σ → List Occurrence → Prop
  | b, [] => b.AtRest
  | b, x :: rest =>
    b.AtRest ∧ TakesPromptly s (b.outset s x).2 (b.outset s x).1 ∧ Prompt (b.occur s x) rest

variable {s} {strayed} {b : Bridge δ σ}

omit [Hardware δ] in
/-- The handler of the event thread posts no disable requests itself. -/
theorem beset_handle (s : Surroundings δ σ) (outlet : Option Reporter) (own : Nat) :
    Beset (Hall.handle s outlet own) (Hall.handle s outlet own) :=
  .refl fun scene d hall hmem => by
    obtain ⟨report, hreport⟩ := Hall.exists_report_of_mem_handle hmem
    cases report <;> cases hreport

omit [Hardware δ] in
theorem Furnished.posted {config : ValidConfig} (h : b.Furnished config) (number : Nat)
    (sig : Signal) : (b.posted number sig).Furnished config :=
  ⟨h.config_eq, free_postTo h.free number sig⟩

namespace AtRest

/-- A bridge at rest has nothing to dispatch. -/
theorem settle_eq (h : b.AtRest) {config : ValidConfig} (hb : b.Furnished config) :
    b.settle s = b := by
  cases hsession : b.session with
  | none => rw [settle, hsession]
  | some session =>
    obtain ⟨halive, m, hm, hpending⟩ := h session hsession
    exact settle_of_rest hsession halive hm hpending (hb.free m (List.mem_of_getElem? hm)).waiting

/-- What arrives at a bridge at rest is dispatched, if it is for the session. If it is not, there is
nothing to dispatch. -/
theorem receive_eq (h : b.AtRest) {config : ValidConfig} (hb : b.Furnished config) (number : Nat)
    (sig : Signal) : b.receive s number sig = (b.posted number sig).settle s := by
  cases hreaches : b.session.any (·.mailbox == number) with
  | true => rw [receive, posted, hreaches]; rfl
  | false =>
    rw [receive_of_elsewhere hreaches]
    have hrest : (b.posted number sig).AtRest := fun session hsession => by
      obtain ⟨halive, m, hm, hpending⟩ := h session hsession
      have hne : number ≠ session.mailbox := by
        rintro rfl
        rw [show b.session = some session from hsession] at hreaches
        simp at hreaches
      exact ⟨halive, m, (getElem?_postTo_of_ne hne).trans hm, hpending⟩
    exact (hrest.settle_eq (hb.posted number sig)).symm

end AtRest

namespace Furnished

variable {config : ValidConfig}

theorem duringStart (h : b.Furnished config) (link : Link) :
    (b.duringStart s link).1.Furnished config := by
  have hopened := h.enable s
  rw [Bridge.duringStart]
  generalize b.enable s = opened at hopened ⊢
  obtain ⟨b', _ | _⟩ := opened
  · exact hopened
  · dsimp only
    split
    · exact hopened
    · exact Furnished.congr hopened rfl rfl

theorem duringSend (h : b.Furnished config) (bytes : List UInt8) :
    (b.duringSend bytes).1.Furnished config := by
  rw [Bridge.duringSend]
  split
  · exact h.congr rfl rfl
  · exact h

theorem outset (h : b.Furnished config) (s : Surroundings δ σ) (x : Occurrence) :
    (b.outset s x).1.Furnished config := by
  cases x with
  | operation operation =>
    rw [Bridge.outset]
    cases operation with
    | start link => exact h.duringStart link
    | startConfigured => exact h.duringStart b.config.link
    | send bytes => exact h.duringSend bytes
    | print text => exact h.duringSend (Utf8.encode text)
    | stop =>
      rw [postings]
      split
      · exact h.congr rfl rfl
      · exact h
    | _ => exact h
  | release => exact h
  | stray number sig => exact h

theorem receiveAll (h : b.Furnished config) (s : Surroundings δ σ)
    (postings : List (Nat × Signal)) : (b.receiveAll s postings).Furnished config := by
  induction postings generalizing b with
  | nil => exact h
  | cons p postings ih => exact ih (h.receive s p.1 p.2)

theorem occur (h : b.Furnished config) (s : Surroundings δ σ) (x : Occurrence) :
    (b.occur s x).Furnished config := by
  cases x with
  | operation operation => exact h.perform s operation
  | release => exact h.disable s
  | stray number sig => exact h.receive s number sig

theorem occurAll (h : b.Furnished config) (s : Surroundings δ σ) (occurrences : List Occurrence) :
    (b.occurAll s occurrences).Furnished config := by
  induction occurrences generalizing b with
  | nil => exact h
  | cons x rest ih => exact ih (h.occur s x)

end Furnished

theorem disableAmid_false (b : Bridge δ σ) : b.disableAmid s false = b.disable s := by
  rw [disableAmid]
  split
  · next hsession => rw [disable_of_disabled hsession]
  · rfl

/-- **A start** is what it posts. -/
theorem start_eq_receiveAll (b : Bridge δ σ) (link : Link) :
    (b.start s link).1
      = (b.duringStart s link).1.receiveAll s (b.duringStart s link).2 := by
  rw [start, duringStart]
  generalize b.enable s = opened
  obtain ⟨b', _ | _⟩ := opened
  · rfl
  · cases hd : b'.driver with
    | none =>
      simp only [hd]
      rfl
    | some d =>
      simp only [hd]
      exact call_eq_receiveAll s b' _ _

/-- **Writing** is what it posts. -/
theorem send_eq_receiveAll (b : Bridge δ σ) (bytes : List UInt8) :
    (b.send s bytes).1 = (b.duringSend bytes).1.receiveAll s (b.duringSend bytes).2 := by
  rw [send, duringSend]
  cases b.isEnabled with
  | false => rfl
  | true =>
    cases b.driver with
    | none => rfl
    | some d => exact call_eq_receiveAll s b _ _

/-- **A stop** is what it posts, and then the bridge is disabled, unless the driver breaks off. -/
theorem conclude_stop (b : Bridge δ σ) :
    conclude s false b ((b.postings s .stop).1.receiveAll s (b.postings s .stop).2) .stop
      = ((b.stop s).1, .outcome (b.stop s).2) := by
  rw [conclude, postings]
  cases hb : b.isEnabled with
  | false =>
    rw [stop_of_disabled hb]
    exact congrArg (b, Answer.outcome ·) (congrArg Prod.snd (stop_of_disabled hb))
  | true =>
    cases hd : b.driver with
    | none =>
      have hstop : b.stop s = (b, .error (.error .interfaceUnavailable)) := by
        rw [stop, if_pos hb, hd]
      rw [hstop]
      exact congrArg (b, Answer.outcome ·) (congrArg Prod.snd hstop)
    | some d =>
      dsimp only
      rw [← call_eq_receiveAll, disableAmid_false]
      split
      · next f hfault => rw [stop_of_fault hb hd hfault]
      · next hanswers =>
        rw [stop_of_answered hb hd hanswers]

/-- **An operation** is what it posts and what is left of it then. -/
theorem conclude_eq (b : Bridge δ σ) (operation : Operation) :
    conclude s false b ((b.postings s operation).1.receiveAll s (b.postings s operation).2)
        operation
      = (b.perform s operation, b.answer s operation) := by
  cases operation with
  | disable => rw [conclude, disableAmid_false]; rfl
  | start link => exact congrArg (·, _) (start_eq_receiveAll b link).symm
  | startConfigured => exact congrArg (·, _) (start_eq_receiveAll b b.config.link).symm
  | send bytes => exact congrArg (·, _) (send_eq_receiveAll b bytes).symm
  | print text => exact congrArg (·, _) (send_eq_receiveAll b _).symm
  | interrupt report =>
    rw [conclude, postings, perform, interrupt]
    cases b.outlet <;> rfl
  | stop => exact conclude_stop b
  | _ => rfl

/-- **An occurrence** is what it posts and what is left of it then. -/
theorem close_eq (b : Bridge δ σ) (x : Occurrence) :
    (close s false b ((b.outset s x).1.receiveAll s (b.outset s x).2) x).1 = b.occur s x ∧
      ∀ rest, (close s false b ((b.outset s x).1.receiveAll s (b.outset s x).2) x).2
        ++ (b.occur s x).answersTo s rest = b.answersTo s (x :: rest) := by
  cases x with
  | operation operation =>
    have hconclude := conclude_eq (s := s) b operation
    rw [close, outset, hconclude]
    exact ⟨rfl, fun _ => rfl⟩
  | release =>
    rw [close, outset]
    exact ⟨congrArg Prod.fst (disableAmid_false b), fun _ => rfl⟩
  | stray number sig => exact ⟨rfl, fun _ => rfl⟩

/-! ### Leaving the loop -/

section Leaving

variable {config : ValidConfig} {session : Session}

/-- A run of the event thread leaves its loop to the bridge. -/
theorem settle_eq_left {m : Mailbox} (hsession : b.session = some session)
    (halive : session.alive = true) (hm : b.mailboxes[session.mailbox]? = some m) :
    let answer := (b.loop session m).run (Hall.handle s b.outlet session.mailbox) (s.patience + 1)
    b.settle s = b.left session answer.1
      (match answer.2 with | .failed _ => false | _ => true) := by
  intro answer
  rw [settle, hsession]
  dsimp only
  rw [letThreadRun, halive, hm]
  rfl

omit [Hardware δ] in
/-- An event thread that has left its loop and is at rest has dispatched everything. -/
theorem rest_of_left (hb : b.Furnished config) (hlt : session.mailbox < b.mailboxes.length)
    {l : Loop (Hall σ)} (hfree : l.mailbox.Free config.messageCapacity) {alive : Bool}
    (hrest : (b.left session l alive).AtRest) :
    alive = true ∧ l.mailbox.hasPending = false := by
  obtain ⟨halive, m, hm, hempty⟩ := hrest _ rfl
  have hset := free_set hb.free session.mailbox hfree
  have hl : (b.mailboxes.set session.mailbox l.mailbox)[session.mailbox]? = some l.mailbox :=
    List.getElem?_set_self hlt
  refine ⟨halive, Mailbox.hasPending_eq_false_iff.mpr ?_⟩
  ext k
  refine ⟨fun hk => ?_, fun hk => absurd hk (PendingSet.not_mem_empty k)⟩
  -- Reports that are made elsewhere take nothing out of the mailbox.
  obtain ⟨m', hm', hk'⟩ := mem_pending_reportAll hset hl hk l.state.elsewhere
  obtain rfl := Option.some.inj (hm.symm.trans hm')
  rwa [hempty] at hk'

/-- An event thread that is there after it has worked was there before, and had its mailbox. -/
theorem alive_of_settle (hsession : b.session = some session) (hrest : (b.settle s).AtRest) :
    session.alive = true ∧ ∃ m, b.mailboxes[session.mailbox]? = some m := by
  cases halive : session.alive with
  | false =>
    have hsettle : b.settle s = { b with session := some session } := by
      rw [settle, hsession]
      dsimp only
      rw [letThreadRun, halive]
    obtain ⟨hstill, -⟩ := hrest session (congrArg Bridge.session hsettle)
    rw [halive] at hstill
    cases hstill
  | true =>
    cases hm : b.mailboxes[session.mailbox]? with
    | some m => exact ⟨rfl, m, rfl⟩
    | none =>
      have hsettle : b.settle s = { b with session := some session } := by
        rw [settle, hsession]
        dsimp only
        rw [letThreadRun, halive, hm]
      obtain ⟨-, m, hm', -⟩ := hrest session (congrArg Bridge.session hsettle)
      rw [hsettle] at hm'
      cases hm.symm.trans hm'

/-- **An event thread that comes to rest** leaves its loop to the bridge. -/
theorem settles_of_rest (hb : b.Furnished config) (hsession : b.session = some session)
    {m : Mailbox} (hm : b.mailboxes[session.mailbox]? = some m) (hrest : (b.settle s).AtRest) :
    (b.loop session m).Settles (Hall.handle s b.outlet session.mailbox) (s.patience + 1) ∧
      b.settle s = b.left session
        ((b.loop session m).run (Hall.handle s b.outlet session.mailbox) (s.patience + 1)).1
        true := by
  obtain ⟨halive, -⟩ := alive_of_settle hsession hrest
  have hfree : m.Free config.messageCapacity := hb.free m (List.mem_of_getElem? hm)
  have hleft := Loop.free_run (Hall.handle s b.outlet session.mailbox)
    (l := b.loop session m) hfree (s.patience + 1)
  have hsettle := settle_eq_left (s := s) hsession halive hm
  dsimp only at hsettle
  rw [hsettle] at hrest ⊢
  obtain ⟨hstays, hpending⟩ := rest_of_left hb (List.getElem?_eq_some_iff.mp hm).1 hleft hrest
  have hok : ∀ e, ((b.loop session m).run (Hall.handle s b.outlet session.mailbox)
      (s.patience + 1)).2 ≠ .failed e := by
    intro e hfailed
    rw [hfailed] at hstays
    cases hstays
  rw [hstays]
  exact ⟨⟨hfree.waiting, rfl, hok, hpending⟩, rfl⟩

/-- An event thread that finds nothing but a disable request, with the flag clear, takes it. -/
theorem letThreadRun_of_request {m : Mailbox} (halive : session.alive = true)
    (hm : b.mailboxes[session.mailbox]? = some m) (hw : m.waiting = none)
    (hp : m.pending = PendingSet.insert ∅ .disable) :
    ∃ consumer, b.letThreadRun s false 1 session
      = ({ b with
            mailboxes := b.mailboxes.set session.mailbox (m.take session.consumer.view).2 },
          { session with consumer }) := by
  let h := Hall.handle s b.outlet session.mailbox
  let l : Loop (Hall σ) := { b.loop session m with enabled := false }
  have hlp : l.mailbox.hasPending = true :=
    Mailbox.hasPending_of_mem (k := .disable) (hp ▸ PendingSet.mem_insert.mpr (.inr rfl))
  have hkinds : l.taken.kinds = PendingSet.insert ∅ .disable :=
    (Mailbox.kinds_take l.mailbox l.consumer.view).trans hp
  have hdeliveries : l.taken.deliveries = [.disable] := by
    have hlist : (PendingSet.insert ∅ .disable).toList = [.disable] := by decide
    rw [Drained.deliveries, hkinds, hlist]
    rfl
  have hcycle : l.cycle h = (l.drained, .dispatched l.taken.kinds) := by
    rw [Loop.cycle_of_hasPending h hw hlp, Loop.dispatched, hdeliveries]
    rfl
  -- With the flag clear, one cycle is all that the loop does.
  have hrun : Loop.run (Hall.handle s b.outlet session.mailbox) 1
      { mailbox := m, consumer := session.consumer, enabled := false
        state := { audience := b.audience, engineOn := b.engineOn } } = (l.drained, .exited) := by
    change l.run h 1 = _
    rw [Loop.run, hcycle, hkinds]
    rfl
  refine ⟨l.drained.consumer, ?_⟩
  rw [letThreadRun, halive, hm]
  dsimp only
  rw [hrun]
  obtain ⟨number, consumer, alive⟩ := session
  obtain rfl : alive = true := halive
  rfl

/-- **Closing the session** of a bridge in which at most a disable request is pending. -/
theorem disableAmid_eq {m : Mailbox} (hsession : b.session = some session)
    (halive : session.alive = true) (hm : b.mailboxes[session.mailbox]? = some m)
    (hw : m.waiting = none) (hp : ∀ k ∈ m.pending, k = .disable) (overtaken : Bool) :
    ∃ m', b.disableAmid s overtaken
        = ({ b with
              session := none
              engineOn := false
              mailboxes := b.mailboxes.set session.mailbox m' }.cleanup s, .ok ()) ∧
      (m' = m.served session .disable ∨
        .disable ∈ m.pending ∧ m' = (m.take session.consumer.view).2.record .disable) := by
  have hlt : session.mailbox < b.mailboxes.length := (List.getElem?_eq_some_iff.mp hm).1
  rw [disableAmid, hsession]
  dsimp only
  split
  · next hovertaken =>
    -- The request that is pending ends the thread, and the other one is posted after that.
    rw [hm] at hovertaken
    have hmem : .disable ∈ m.pending := (Bool.and_eq_true_iff.mp hovertaken).2
    have honly : m.pending = PendingSet.insert ∅ .disable := by
      ext k
      simp only [PendingSet.mem_insert, PendingSet.not_mem_empty, false_or]
      exact ⟨fun hk => (hp k hk).symm, fun hk => hk ▸ hmem⟩
    obtain ⟨consumer, hran⟩ :=
      letThreadRun_of_request (s := s) (b := { b with session := none }) halive hm hw honly
    rw [hran]
    dsimp only
    rw [receive_of_elsewhere rfl, halive]
    refine ⟨_, ?_, .inr ⟨hmem, rfl⟩⟩
    dsimp only
    rw [postTo_eq_set (m := (m.take session.consumer.view).2) (List.getElem?_set_self hlt) hw,
      List.set_set]
    rfl
  · have honly : (m.record .disable).pending = PendingSet.insert ∅ .disable := by
      rw [Mailbox.pending_record]
      ext k
      simp only [PendingSet.mem_insert, PendingSet.not_mem_empty, false_or]
      exact ⟨fun hk => hk.elim (fun hk => (hp k hk).symm) id, .inr⟩
    obtain ⟨consumer, hran⟩ := letThreadRun_of_request (s := s)
      (b := { b with
        session := none, mailboxes := b.mailboxes.set session.mailbox (m.record .disable) })
      halive (List.getElem?_set_self hlt) ((Mailbox.waiting_record m .disable).trans hw) honly
    refine ⟨_, ?_, .inl rfl⟩
    rw [disable, hsession]
    dsimp only
    rw [receive_of_elsewhere rfl]
    dsimp only
    rw [postTo_eq_set hm hw, hran]
    dsimp only
    rw [halive, List.set_set]
    rfl

end Leaving

/-! ### Among others who do nothing -/

theorem TakesPromptly.atRest {postings : List (Nat × Signal)} (h : TakesPromptly s postings b) :
    b.AtRest := by
  cases postings with
  | nil => exact h
  | cons p postings => exact h.1

/-- Signals that are dispatched promptly may arrive just so. -/
theorem TakesPromptly.arrives (hquiet : ∀ number, ¬strayed number) {config : ValidConfig}
    (hb : b.Furnished config) {postings : List (Nat × Signal)} (h : TakesPromptly s postings b) :
    Arrives s strayed postings b (b.receiveAll s postings) := by
  induction postings generalizing b with
  | nil => exact .nil .refl
  | cons p postings ih =>
    obtain ⟨hrest, hnext⟩ := h
    have hworks : Works s strayed (b.posted p.1 p.2) (b.receive s p.1 p.2) := by
      rw [hrest.receive_eq hb]
      exact .alone fun session _ hstrayed => absurd hstrayed (hquiet session.mailbox)
    exact .cons .refl hworks (ih (hb.receive s p.1 p.2) hnext)

/-- **A bridge whose run is prompt may run just so among others who do nothing.** -/
theorem Prompt.runsAmid (hquiet : ∀ number, ¬strayed number) {config : ValidConfig}
    (hb : b.Furnished config) {occurrences : List Occurrence} (h : Prompt s b occurrences) :
    RunsAmid s strayed b occurrences (b.occurAll s occurrences) (b.answersTo s occurrences) := by
  induction occurrences generalizing b with
  | nil => exact .nil .refl
  | cons x rest ih =>
    obtain ⟨-, htakes, hnext⟩ := h
    obtain ⟨hoccur, hanswers⟩ := close_eq (s := s) b x
    have harrives := TakesPromptly.arrives hquiet (hb.outset s x) htakes
    rw [← hanswers rest]
    refine .cons false .refl harrives ?_
    rw [hoccur]
    exact ih (hb.occur s x) hnext

end Bridge

end SerialBridge
