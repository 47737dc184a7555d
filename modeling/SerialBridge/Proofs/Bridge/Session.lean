import Mathlib.Data.List.Basic
import SerialBridge.Proofs.Bridge.Operation
import SerialBridge.Proofs.Dispatch.Account
import SerialBridge.Proofs.Listener.Notification

/-!
# A session at rest

Between operations the event thread of a session has dispatched everything, and waits. Such a
session is **settled** (`Bridge.Settled`). A signal that reaches it goes through the mailbox, the
drain and the handler in one cycle, and what comes out is told in one equation,
`Bridge.Settled.receive_eq`: the listeners are told the signal's note, the engine's flag follows the
note, and the session is settled again. `Bridge.Settled.disable_eq` does the same for closing the
session.

A signal that does not reach the session, since it goes to another mailbox or there is no session,
is posted and nothing more (`Bridge.receive_of_elsewhere`, `Bridge.absorb_of_disabled`).
-/

namespace SerialBridge

/-! ### What a signal comes to -/

/-- The note that listeners are told when a signal is dispatched, a message cut to the room that
there was for it. Of some signals they are told nothing. -/
def Signal.note? (room : Nat) : Signal → Option Note
  | .status code => (Transition.ofCode? code).map .status
  | .message payload => some (.message (Utf8.decodeLossy (payload.take room)))
  | .disable => none

/-- Whether the engine runs after listeners were told a note, or were told nothing. -/
def engineAfter (note? : Option Note) (engineOn : Bool) : Bool :=
  match note? with
  | some (.status t) => t.engineOn
  | _ => engineOn

/-- Whether the engine runs after signals were dispatched one after the other. -/
def engineAfterAll (room : Nat) (signals : List Signal) (engineOn : Bool) : Bool :=
  signals.foldl (fun on sig => engineAfter (sig.note? room) on) engineOn

/-- What is taken of one signal is delivered as that signal, and nothing besides it is. -/
theorem Drained.Coalesces.deliveries_eq_singleton {d : Drained} {room : Nat} {sig : Signal}
    (h : d.Coalesces room [sig]) : ∃ e, d.deliveries = [e] ∧ e.HandsOver room sig := by
  have hlone : d.Coalesces room ([] ++ sig :: []) := h
  obtain ⟨e, he, hover⟩ := hlone.delivery?_of_last nofun
  have hkinds : d.kinds = PendingSet.insert ∅ sig.kind := by
    ext k
    rw [h.kinds k]
    simp
  have hlist : d.kinds.toList = [sig.kind] := by
    rw [hkinds]
    cases sig with
    | status code => exact (by decide : (PendingSet.insert ∅ .status).toList = [.status])
    | message payload => exact (by decide : (PendingSet.insert ∅ .message).toList = [.message])
    | disable => exact (by decide : (PendingSet.insert ∅ .disable).toList = [.disable])
  exact ⟨e, by rw [deliveries, hlist]; simp [he], hover⟩

/-- A loop that finds one signal, and whose handler does nothing but change its state, is at rest
after one cycle. -/
theorem Loop.run_of_lone_signal {σ ε : Type} {h : Handler σ ε} {l : Loop σ} {m : Mailbox}
    (hw : m.waiting = none) (hm : m.pending = ∅) {sig : Signal} (hl : l.mailbox = m.record sig)
    {state : σ} (hreact : ∀ scene d, d.HandsOver l.room sig → h scene d l.state = { state })
    (limit : Nat) :
    (l.run h (limit + 1)).1 = { l.drained with state } ∧
      ∀ e, (l.run h (limit + 1)).2 ≠ .failed e := by
  have hlw : l.mailbox.waiting = none := by rw [hl, Mailbox.waiting_record, hw]
  have hholds : l.mailbox.Holds [sig] := hl ▸ (Mailbox.holds_nil_iff.mpr hm).record sig
  have hlp : l.mailbox.hasPending = true := hholds.hasPending_iff.mpr (List.cons_ne_nil sig [])
  obtain ⟨d, hd, hover⟩ := (coalesces_taken hholds).deliveries_eq_singleton
  have hdeliver : deliver h l.taken.kinds l.taken.deliveries l.drained
      = ({ l.drained with state }, none) := by
    rw [hd, deliver, call, show l.drained.state = l.state from rfl, hreact _ _ hover]
    rfl
  -- The first cycle takes the signal. The mailbox stays empty, since the callback posts nothing.
  have hcycle : l.cycle h = ({ l.drained with state }, .dispatched l.taken.kinds) := by
    rw [cycle_of_hasPending h hlw hlp, dispatched, hdeliver]
    rfl
  have hempty : ({ l.drained with state } : Loop σ).mailbox.hasPending = false := rfl
  rw [run, hcycle]
  dsimp only
  -- The flag may have been cleared; otherwise a second cycle finds nothing and waits.
  split
  · exact ⟨rfl, fun _ hfailed => by cases hfailed⟩
  · cases limit with
    | zero => exact ⟨rfl, fun _ hfailed => by cases hfailed⟩
    | succ limit =>
      rw [run_of_not_hasPending h (l := { l.drained with state }) hlw hempty]
      exact ⟨rfl, fun _ hfailed => by cases hfailed⟩

/-- A signal that is posted where nobody waits is put into the mailbox. -/
theorem postTo_eq_set {mailboxes : List Mailbox} {number : Nat} {m : Mailbox}
    (h : mailboxes[number]? = some m) (hw : m.waiting = none) (sig : Signal) :
    postTo mailboxes number sig = mailboxes.set number (m.record sig) := by
  obtain ⟨hlt, rfl⟩ := List.getElem?_eq_some_iff.mp h
  rw [postTo, List.modify_eq_set_get _ hlt]
  exact congrArg (mailboxes.set number) (congrArg Prod.fst (Mailbox.post_eq_record hw sig))

/-- A signal changes no other mailbox than the one it is posted to. -/
theorem getElem?_postTo_of_ne {mailboxes : List Mailbox} {number number' : Nat}
    (h : number ≠ number') {sig : Signal} :
    (postTo mailboxes number sig)[number']? = mailboxes[number']? := by
  simp [postTo, h]

/-- A mailbox after the thread of a session has taken a signal from it. -/
def Mailbox.served (m : Mailbox) (session : Session) (sig : Signal) : Mailbox :=
  ((m.record sig).take session.consumer.view).2

/-- A session after its thread has taken a signal from the mailbox. -/
def Session.served (session : Session) (m : Mailbox) (sig : Signal) : Session :=
  { session with
    consumer :=
      { view := ((m.record sig).take session.consumer.view).1.view
        cycles := session.consumer.cycles + 1 } }

variable {δ σ : Type}

/-- The handler of the event thread tells calm listeners the note of the signal, and posts
nothing. -/
theorem Hall.handle_eq_hear {s : Surroundings δ σ} (hcalm : Calm s.behaviour s.nesting)
    {hall : Hall σ} (heffects : hall.audience.effects = []) (outlet : Option Reporter) (own : Nat)
    (scene : Scene) {d : Delivery} {room : Nat} {sig : Signal} (hd : d.HandsOver room sig) :
    Hall.handle s outlet own scene d hall =
      { state := { hall with
          audience := hall.audience.hear s.behaviour s.nesting (sig.note? room)
          engineOn := engineAfter (sig.note? room) hall.engineOn } } := by
  -- Listeners that are calm fail for no other reason than that they are gone, and ask for nothing.
  have htell (hall : Hall σ) (heffects : hall.audience.effects = []) (note : Note) :
      hall.tell s outlet own note = { state := { hall with
        audience := hall.audience.hear s.behaviour s.nesting (some note) } } := by
    have hend := hcalm.notify_ends note hall.audience
    have hnone := hcalm.effects_notify note hall.audience
    rw [heffects] at hnone
    rw [Hall.tell, Audience.hear]
    generalize hall.audience.notify s.behaviour (s.nesting + 1) note = told at hend hnone ⊢
    obtain ⟨a, failure⟩ := told
    obtain rfl : failure = none := hend
    replace hnone : a.effects = [] := hnone
    have hmade : (outlet.elim [] fun r => a.effects.map fun report => (r, report)) = [] := by
      rw [hnone]
      cases outlet <;> rfl
    have ha : { a with effects := [] } = a := by rw [← hnone]
    simp only [hmade, List.filter_nil, List.map_nil, List.append_nil, ha]
  cases d with
  | status code =>
    obtain rfl : sig = .status code := hd
    rw [Hall.handle, Signal.note?]
    cases hcode : Transition.ofCode? code with
    | none => rfl
    | some t => exact htell { hall with engineOn := t.engineOn } heffects (.status t)
  | message snapshot =>
    obtain ⟨p, rfl, hbytes⟩ := hd
    have htext : snapshot.lossyText = Utf8.decodeLossy (p.take room) := by
      rw [Snapshot.lossyText, hbytes]
    rw [Hall.handle, Signal.note?, ← htext]
    split
    · next hcount =>
      -- Nobody listens, so that telling the note would change nothing either.
      rw [Audience.hear_of_count_eq_zero hcount]
      rfl
    · exact htell hall heffects _
  | disable =>
    obtain rfl : sig = .disable := hd
    rfl

namespace Bridge

/-! ### With and without a session -/

theorem isEnabled_iff {b : Bridge δ σ} : b.isEnabled = true ↔ b.session ≠ none :=
  Option.isSome_iff_ne_none

theorem isEnabled_eq_false_iff {b : Bridge δ σ} : b.isEnabled = false ↔ b.session = none :=
  Option.isSome_eq_false_iff.trans Option.isNone_iff_eq_none

theorem isEnabled_of_session {b : Bridge δ σ} {session : Session} (h : b.session = some session) :
    b.isEnabled = true := by
  rw [isEnabled, h]
  rfl

variable [Hardware δ] {s : Surroundings δ σ} {b : Bridge δ σ}

theorem enable_of_enabled (hb : b.isEnabled = true) : b.enable s = (b, .ok ()) := by
  rw [enable, if_pos hb]

theorem disable_of_disabled (hb : b.session = none) : b.disable s = (b, .ok ()) := by
  rw [disable, hb]

theorem stop_of_disabled (hb : b.isEnabled = false) :
    b.stop s = (b, .error (.error .notEnabled)) := by
  rw [stop, hb]
  rfl

theorem send_of_disabled (hb : b.isEnabled = false) (bytes : List UInt8) :
    b.send s bytes = (b, .error (.error .notEnabled)) := by
  rw [send, hb]
  rfl

/-- With a session, what is sent is a call of the driver, and never fails. -/
theorem send_of_enabled (hb : b.isEnabled = true) {d : δ} (hd : b.driver = some d)
    (bytes : List UInt8) :
    b.send s bytes = ((b.note (.send bytes)).absorb s (Hardware.send bytes d), .ok ()) := by
  rw [send, if_pos hb, hd]

/-! ### Signals that do not reach the session -/

/-- A signal for another mailbox than the session's is posted, and that is all. -/
theorem receive_of_elsewhere {number : Nat}
    (h : b.session.any (·.mailbox == number) = false) (signal : Signal) :
    b.receive s number signal = { b with mailboxes := postTo b.mailboxes number signal } := by
  simp [receive, h]

/-- Without a session, what a driver reports is posted, and that is all. -/
theorem absorb_of_disabled (h : b.session = none) (e : Effects δ) :
    b.absorb s e
      = { b with driver := some e.driver, mailboxes := reportAll b.mailboxes e.reports } := by
  have hfold (reports : List (Reporter × Report)) (b : Bridge δ σ) (h : b.session = none) :
      reports.foldl (fun b r => b.receive s r.1.mailbox r.2.signal) b
        = { b with mailboxes := reportAll b.mailboxes reports } := by
    induction reports generalizing b with
    | nil => rfl
    | cons r reports ih =>
      rw [List.foldl_cons, receive_of_elsewhere (by simp [h])]
      exact ih _ h
  exact hfold e.reports { b with driver := some e.driver } h

omit [Hardware δ] in
/-- Discovery changes what the bridge knows of its driver, and nothing else. -/
theorem discover_fields (s : Surroundings δ σ) (b : Bridge δ σ) :
    ∃ driver discoveries contacts,
      (b.discover s).1 = { b with driver, discoveries, contacts } := by
  rw [discover]
  split
  · exact ⟨b.driver, b.discoveries, b.contacts, rfl⟩
  · exact ⟨_, _, _, rfl⟩

/-! ### Signals that reach the session -/

/-- An event thread that has dispatched everything has nothing to do. -/
theorem settle_of_rest {session : Session} {m : Mailbox} (hsession : b.session = some session)
    (halive : session.alive = true) (hmailbox : b.mailboxes[session.mailbox]? = some m)
    (hpending : m.pending = ∅) (hw : m.waiting = none) : b.settle s = b := by
  have hp : m.hasPending = false := by simp [Mailbox.hasPending, hpending]
  have hrun := Loop.run_of_not_hasPending (Hall.handle s b.outlet session.mailbox)
    (l := { mailbox := m, consumer := session.consumer, enabled := true
            state := { audience := b.audience, engineOn := b.engineOn } })
    hw hp s.patience
  obtain ⟨number, consumer, alive⟩ := session
  obtain rfl : alive = true := halive
  obtain ⟨hlt, hm⟩ := List.getElem?_eq_some_iff.mp hmailbox
  have hset : b.mailboxes.set number m = b.mailboxes := by rw [← hm, List.set_getElem_self]
  rw [settle, hsession]
  dsimp only
  rw [letThreadRun, hmailbox]
  dsimp only
  rw [hrun]
  dsimp only
  rw [hset]
  obtain ⟨config, audience, driver, engineOn, session, mailboxes, discoveries, spawns,
    contacts⟩ := b
  obtain rfl : session = _ := hsession
  rfl

/-- A session has **settled**: its event thread is there, has dispatched everything that is in the
mailbox, and keeps as much of a message as is configured. -/
structure Settled (b : Bridge δ σ) (session : Session) (m : Mailbox) : Prop where
  /-- The event thread is there. -/
  alive : session.alive = true
  /-- It is the session's mailbox. -/
  mailbox : b.mailboxes[session.mailbox]? = some m
  /-- Everything has been dispatched. -/
  pending : m.pending = ∅
  /-- Nobody else drains the mailbox. -/
  waiting : m.waiting = none
  /-- The mailbox has the configured capacity. -/
  capacity : m.capacity = b.config.messageCapacity
  /-- The thread has room for as much. -/
  room : session.consumer.view.room = b.config.messageCapacity
  /-- Listeners owe no reports. -/
  effects : b.audience.effects = []

/-- The bridge after the thread of a session, whose mailbox this is, has dispatched a signal. -/
def attend (s : Surroundings δ σ) (session : Session) (m : Mailbox) (sig : Signal)
    (b : Bridge δ σ) : Bridge δ σ :=
  { b with
    audience := b.audience.hear s.behaviour s.nesting (sig.note? b.config.messageCapacity)
    engineOn := engineAfter (sig.note? b.config.messageCapacity) b.engineOn
    mailboxes := b.mailboxes.set session.mailbox (m.served session sig) }

namespace Settled

variable {session : Session} {m : Mailbox}

omit [Hardware δ] in
theorem lt_length (h : b.Settled session m) : session.mailbox < b.mailboxes.length :=
  (List.getElem?_eq_some_iff.mp h.mailbox).1

omit [Hardware δ] in
/-- A session stays settled if nothing happens to what it uses. -/
theorem congr (h : b.Settled session m) {b' : Bridge δ σ} (hconfig : b'.config = b.config)
    (hmailbox : b'.mailboxes[session.mailbox]? = b.mailboxes[session.mailbox]?)
    (heffects : b'.audience.effects = b.audience.effects) : b'.Settled session m where
  alive := h.alive
  mailbox := hmailbox.trans h.mailbox
  pending := h.pending
  waiting := h.waiting
  capacity := h.capacity.trans (congrArg (·.messageCapacity) hconfig.symm)
  room := h.room.trans (congrArg (·.messageCapacity) hconfig.symm)
  effects := heffects.trans h.effects

omit [Hardware δ] in
/-- A session that is opened on a fresh mailbox has settled. -/
theorem of_fresh {number : Nat} (hmailbox : b.mailboxes[number]? = some m) (hp : m.pending = ∅)
    (hw : m.waiting = none) (hcapacity : m.capacity = b.config.messageCapacity)
    (heffects : b.audience.effects = []) :
    b.Settled { mailbox := number, consumer := .ofMailbox m } m :=
  ⟨rfl, hmailbox, hp, hw, hcapacity, (Mailbox.room_freshView m).trans hcapacity, heffects⟩

/-- The thread of a settled session has nothing to do. -/
theorem settle_eq (h : b.Settled session m) (hsession : b.session = some session) :
    b.settle s = b :=
  settle_of_rest hsession h.alive h.mailbox h.pending h.waiting

/-- The thread of a settled session dispatches a signal that is posted to it in one cycle. -/
theorem letThreadRun_eq (h : b.Settled session m) (hcalm : Calm s.behaviour s.nesting)
    (sig : Signal) (enabled : Bool) (limit : Nat) :
    { b with mailboxes := postTo b.mailboxes session.mailbox sig }.letThreadRun s enabled
        (limit + 1) session
      = (b.attend s session m sig, session.served m sig) := by
  have hpost : postTo b.mailboxes session.mailbox sig
      = b.mailboxes.set session.mailbox (m.record sig) := postTo_eq_set h.mailbox h.waiting sig
  have hposted : (b.mailboxes.set session.mailbox (m.record sig))[session.mailbox]?
      = some (m.record sig) := List.getElem?_set_self h.lt_length
  let l : Loop (Hall σ) :=
    { mailbox := m.record sig, consumer := session.consumer, enabled
      state := { audience := b.audience, engineOn := b.engineOn } }
  have hroom : l.room = b.config.messageCapacity := by
    rw [Loop.room, Mailbox.capacity_record, h.capacity, h.room, Nat.min_self]
  -- Whatever the scene is, the handler tells the note and nothing else.
  have hreact (scene : Scene) (d : Delivery) (hd : d.HandsOver l.room sig) :
      Hall.handle s b.outlet session.mailbox scene d l.state =
        { state := { l.state with
            audience := l.state.audience.hear s.behaviour s.nesting
              (sig.note? b.config.messageCapacity)
            engineOn := engineAfter (sig.note? b.config.messageCapacity) l.state.engineOn } } :=
    Hall.handle_eq_hear hcalm h.effects b.outlet session.mailbox scene (hroom ▸ hd)
  obtain ⟨hstate, hend⟩ := Loop.run_of_lone_signal (l := l) h.waiting h.pending rfl hreact limit
  obtain ⟨number, consumer, alive⟩ := session
  obtain rfl : alive = true := h.alive
  rw [hpost, letThreadRun]
  dsimp only at hposted ⊢
  rw [hposted]
  dsimp only
  rw [show outlet { b with mailboxes := b.mailboxes.set number (m.record sig) } = b.outlet from rfl]
  generalize Loop.run (Hall.handle s b.outlet number) (limit + 1) _ = answer at hstate hend ⊢
  obtain ⟨l, ending⟩ := answer
  obtain rfl : l = _ := hstate
  rw [List.set_set]
  cases ending with
  | failed e => exact absurd rfl (hend e)
  | _ => rfl

omit [Hardware δ] in
/-- The session has settled again once its thread has dispatched a signal. -/
theorem attend (h : b.Settled session m) (hcalm : Calm s.behaviour s.nesting) (sig : Signal) :
    (b.attend s session m sig).Settled (session.served m sig) (m.served session sig) where
  alive := h.alive
  mailbox := List.getElem?_set_self h.lt_length
  pending := Mailbox.pending_take _ _
  waiting := (Mailbox.waiting_take _ _).trans ((Mailbox.waiting_record m sig).trans h.waiting)
  capacity :=
    (Mailbox.capacity_take _ _).trans ((Mailbox.capacity_record m sig).trans h.capacity)
  room := (Mailbox.room_take _ _).trans h.room
  effects := (Audience.effects_hear hcalm).trans h.effects

/-- **A signal for the session** is dispatched, and that is all. -/
theorem receive_eq (h : b.Settled session m) (hcalm : Calm s.behaviour s.nesting)
    (hsession : b.session = some session) (sig : Signal) :
    b.receive s session.mailbox sig
      = { b.attend s session m sig with session := some (session.served m sig) } := by
  have hown : b.session.any (·.mailbox == session.mailbox) = true := by simp [hsession]
  rw [receive]
  dsimp only
  rw [if_pos hown, settle]
  dsimp only
  rw [hsession]
  dsimp only
  rw [← hsession]
  exact congrArg (fun answer : Bridge δ σ × Session => { answer.1 with session := some answer.2 })
    (h.letThreadRun_eq hcalm sig true s.patience)

/-- What a driver reports to the session is dispatched, one report after the other. -/
theorem absorb (h : b.Settled session m) (hcalm : Calm s.behaviour s.nesting)
    (hsession : b.session = some session) {e : Effects δ}
    (hown : ∀ r ∈ e.reports, r.1.mailbox = session.mailbox) :
    ∃ session' m', (b.absorb s e).Settled session' m' ∧ (b.absorb s e).session = some session' ∧
      session'.mailbox = session.mailbox ∧ (b.absorb s e).engineOn =
        engineAfterAll b.config.messageCapacity (e.reports.map (·.2.signal)) b.engineOn := by
  obtain ⟨driver, reports⟩ := e
  have hbegun : { b with driver := some driver }.Settled session m := h.congr rfl rfl rfl
  rw [Bridge.absorb]
  dsimp only at hown ⊢
  generalize hb' : { b with driver := some driver } = b' at hbegun
  rw [show b.config = b'.config by rw [← hb'], show b.engineOn = b'.engineOn by rw [← hb']]
  have hsession' : b'.session = some session := by rw [← hb']; exact hsession
  clear hb' h hsession
  induction reports generalizing b' session m with
  | nil => exact ⟨session, m, hbegun, hsession', rfl, rfl⟩
  | cons r reports ih =>
    have hr : r.1.mailbox = session.mailbox := hown r List.mem_cons_self
    have hreceive := hbegun.receive_eq hcalm hsession' r.2.signal
    have hserved : { b'.attend s session m r.2.signal with
        session := some (session.served m r.2.signal) }.Settled (session.served m r.2.signal)
          (m.served session r.2.signal) := (hbegun.attend hcalm r.2.signal).congr rfl rfl rfl
    have hrest : ∀ r' ∈ reports, r'.1.mailbox = (session.served m r.2.signal).mailbox :=
      fun r' hr' => hown r' (List.mem_cons_of_mem r hr')
    obtain ⟨session'', m'', hsettled, hsome, hmailbox, hengine⟩ := ih hrest _ hserved rfl
    rw [List.foldl_cons, hr, hreceive]
    exact ⟨session'', m'', hsettled, hsome, hmailbox, hengine⟩

/-- **Closing the session** takes the disable request out of its mailbox, resets the engine's flag
and has the driver clean up. -/
theorem disable_eq (h : b.Settled session m) (hcalm : Calm s.behaviour s.nesting)
    (hsession : b.session = some session) :
    b.disable s
      = ({ b with
            session := none
            engineOn := false
            mailboxes := b.mailboxes.set session.mailbox (m.served session .disable) }.cleanup s,
        .ok ()) := by
  have hclosed : { b with session := none }.Settled session m := h.congr rfl rfl rfl
  have hrun := hclosed.letThreadRun_eq hcalm .disable false 0
  rw [disable, hsession]
  dsimp only
  rw [receive_of_elsewhere rfl, hrun]
  have halive : (session.served m .disable).alive = true := h.alive
  simp only [halive, if_true]
  rfl

end Settled

/-! ### Stopping -/

/-- The answer of a stop, given the driver's and that of disabling the bridge. -/
def closingAnswer (result : CallResult) : Outcome → Outcome
  | .error e => .error e
  | .ok () => outcome .stopFailed result

variable {d : δ}

/-- If the driver answers when it is told to stop, the bridge is disabled. -/
theorem stop_of_answered (hb : b.isEnabled = true) (hd : b.driver = some d)
    (hanswers : ∀ f, (Hardware.stop d).result ≠ .fault f) :
    b.stop s
      = ((((b.note .stop).absorb s (Hardware.stop d).toEffects).disable s).1,
        closingAnswer (Hardware.stop d).result
          (((b.note .stop).absorb s (Hardware.stop d).toEffects).disable s).2) := by
  rw [stop, if_pos hb, hd]
  dsimp only
  generalize (Hardware.stop d) = reply at hanswers ⊢
  generalize ((b.note .stop).absorb s reply.toEffects).disable s = answered
  obtain ⟨b', answer⟩ := answered
  obtain ⟨effects, result⟩ := reply
  cases result with
  | fault f => exact absurd rfl (hanswers f)
  | success => cases answer <;> rfl
  | refused e => cases answer <;> rfl

/-- If the driver breaks off when it is told to stop, that is all that happens. -/
theorem stop_of_fault (hb : b.isEnabled = true) (hd : b.driver = some d) {f : Fault}
    (hfault : (Hardware.stop d).result = .fault f) :
    b.stop s
      = ((b.note .stop).absorb s (Hardware.stop d).toEffects, .error (.fault f)) := by
  rw [stop, if_pos hb, hd]
  dsimp only
  generalize (Hardware.stop d) = reply at hfault ⊢
  obtain ⟨effects, result⟩ := reply
  obtain rfl : result = .fault f := hfault
  rfl

/-- A stop ends with the driver breaking off, or with the bridge being disabled. -/
theorem stop_cases (hb : b.isEnabled = true) (hd : b.driver = some d) :
    (∃ f, b.stop s
      = ((b.note .stop).absorb s (Hardware.stop d).toEffects, .error (.fault f))) ∨
    b.stop s
      = ((((b.note .stop).absorb s (Hardware.stop d).toEffects).disable s).1,
        closingAnswer (Hardware.stop d).result
          (((b.note .stop).absorb s (Hardware.stop d).toEffects).disable s).2) := by
  by_cases hfault : ∃ f, (Hardware.stop d).result = .fault f
  · obtain ⟨f, hfault⟩ := hfault
    exact .inl ⟨f, stop_of_fault hb hd hfault⟩
  · exact .inr (stop_of_answered hb hd (not_exists.mp hfault))

end Bridge

end SerialBridge
