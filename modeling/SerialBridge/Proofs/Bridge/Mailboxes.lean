import SerialBridge.Proofs.Bridge.Succession
import SerialBridge.Proofs.Dispatch.Stop

/-!
# The mailboxes of a bridge

A bridge makes its mailboxes with the configured capacity, and only its event threads drain them,
one thread for each mailbox. Between operations no drain waits, so that none is ever refused because
another has begun. `Bridge.Furnished` says so of all mailboxes that a bridge has, and
`Bridge.Furnished.performAll` that no operation changes it.

It follows that disabling does not wait for ever. The thread that it waits for finds the disable
request in a mailbox of its own, at the first attempt, and `Bridge.Furnished.disable_ends_thread`
says that it comes to its end with that cycle and that the answer tells how.
-/

namespace SerialBridge

/-- The mailbox keeps messages of this length, and no drain waits at it. -/
structure Mailbox.Free (capacity : Nat) (m : Mailbox) : Prop where
  /-- It has the capacity. -/
  capacity : m.capacity = capacity
  /-- No drain waits. -/
  waiting : m.waiting = none

/-- Posting leaves a free mailbox free. -/
theorem Mailbox.Free.post {capacity : Nat} {m : Mailbox} (h : m.Free capacity) (sig : Signal) :
    (m.post sig).1.Free capacity := by
  rw [post_eq_record h.waiting]
  exact ⟨(capacity_record m sig).trans h.capacity, (waiting_record m sig).trans h.waiting⟩

/-- A run of the loop drains a mailbox and leaves it free. -/
theorem Loop.free_run {σ ε : Type} (h : Handler σ ε) {l : Loop σ} {capacity : Nat}
    (hl : l.mailbox.Free capacity) (limit : Nat) : (l.run h limit).1.mailbox.Free capacity := by
  induction limit generalizing l with
  | zero => exact hl
  | succ limit ih =>
    cases hp : l.mailbox.hasPending with
    | false =>
      rw [run_of_not_hasPending h hl.waiting hp]
      exact hl
    | true =>
      have hcapacity : (l.dispatched h).mailbox.capacity = capacity := by
        rw [mailbox_dispatched, Mailbox.capacity_performAll]
        exact hl.capacity
      have hfree : (l.dispatched h).mailbox.Free capacity :=
        ⟨hcapacity, waiting_dispatched h hl.waiting⟩
      -- With something pending, the round leaves the mailbox free, and the run ends or goes on.
      cases begins h hl.waiting hp limit with
      | fails e _ hrun => rw [hrun]; exact hfree
      | exits _ _ hrun => rw [hrun]; exact hfree
      | continues _ _ hrun => rw [hrun]; exact ih hfree

section Lists

variable {capacity : Nat} {mailboxes : List Mailbox}

theorem free_set (h : ∀ m ∈ mailboxes, m.Free capacity) (number : Nat) {m : Mailbox}
    (hm : m.Free capacity) : ∀ m' ∈ mailboxes.set number m, m'.Free capacity := by
  intro m' hm'
  rcases List.mem_or_eq_of_mem_set hm' with hold | rfl
  · exact h m' hold
  · exact hm

/-- A signal that is posted to one of them leaves all of them free. -/
theorem free_postTo (h : ∀ m ∈ mailboxes, m.Free capacity) (number : Nat) (sig : Signal) :
    ∀ m ∈ postTo mailboxes number sig, m.Free capacity := by
  intro m hm
  obtain ⟨n, hn⟩ := List.mem_iff_getElem?.mp hm
  rw [postTo, List.getElem?_modify] at hn
  obtain ⟨m', hm', rfl⟩ := Option.map_eq_some_iff.mp hn
  have hfree : m'.Free capacity := h m' (List.mem_of_getElem? hm')
  split
  · exact hfree.post sig
  · exact hfree

/-- So do any number of reports. -/
theorem free_reportAll (h : ∀ m ∈ mailboxes, m.Free capacity)
    (reports : List (Reporter × Report)) :
    ∀ m ∈ reportAll mailboxes reports, m.Free capacity := by
  induction reports generalizing mailboxes with
  | nil => exact h
  | cons r reports ih => exact ih (free_postTo h r.1.mailbox r.2.signal)

/-- What is pending stays pending while reports are made. -/
theorem mem_pending_reportAll (hfree : ∀ m ∈ mailboxes, m.Free capacity) {number : Nat}
    {m : Mailbox}
    (hm : mailboxes[number]? = some m) {k : EventKind} (hk : k ∈ m.pending)
    (reports : List (Reporter × Report)) :
    ∃ m', (reportAll mailboxes reports)[number]? = some m' ∧ k ∈ m'.pending := by
  induction reports generalizing mailboxes m with
  | nil => exact ⟨m, hm, hk⟩
  | cons r reports ih =>
    have hfree' := free_postTo hfree r.1.mailbox r.2.signal
    -- A report adds to what is pending, or it is for another mailbox.
    by_cases hr : r.1.mailbox = number
    · have hw : m.waiting = none := (hfree m (List.mem_of_getElem? hm)).waiting
      have hposted : (postTo mailboxes r.1.mailbox r.2.signal)[number]?
          = some (m.record r.2.signal) := by
        rw [postTo_eq_set (hr ▸ hm) hw, hr]
        exact List.getElem?_set_self (List.getElem?_eq_some_iff.mp hm).1
      have hkept : k ∈ (m.record r.2.signal).pending := by
        rw [Mailbox.pending_record]
        exact PendingSet.mem_insert.mpr (.inl hk)
      exact ih hfree' hposted hkept
    · exact ih hfree' ((getElem?_postTo_of_ne hr).trans hm) hk

end Lists

namespace Bridge

variable {δ σ : Type}

/-- A run that the event thread makes leaves it alive, unless a callback fails. -/
theorem alive_letThreadRun [Hardware δ] (s : Surroundings δ σ) {b : Bridge δ σ}
    {session : Session} (halive : session.alive = true) {m : Mailbox}
    (hm : b.mailboxes[session.mailbox]? = some m) (enabled : Bool) (limit : Nat) :
    (b.letThreadRun s enabled limit session).2.alive = true ↔
      ∀ crash, (Loop.run (Hall.handle s b.outlet session.mailbox) limit
        { mailbox := m, consumer := session.consumer, enabled
          state := { audience := b.audience, engineOn := b.engineOn } }).2 ≠ .failed crash := by
  rw [Bridge.letThreadRun, halive, hm]
  dsimp only
  generalize Loop.run (Hall.handle s b.outlet session.mailbox) limit _ = answer
  obtain ⟨l, ending⟩ := answer
  cases ending <;> simp

/-- The bridge has this configuration, and all its mailboxes are free and have the configured
capacity. -/
structure Furnished (config : ValidConfig) (b : Bridge δ σ) : Prop where
  /-- It has this configuration. -/
  config_eq : b.config = config
  /-- The mailboxes are free. -/
  free : ∀ m ∈ b.mailboxes, m.Free config.messageCapacity

namespace Furnished

variable {config : ValidConfig} {b b' : Bridge δ σ}

theorem ofConfig (config : ValidConfig) (memory : σ) :
    Furnished config (.ofConfig config memory : Bridge δ σ) := ⟨rfl, nofun⟩

/-- What changes neither the configuration nor the mailboxes. -/
theorem congr (h : b.Furnished config) (hconfig : b'.config = b.config)
    (hmailboxes : b'.mailboxes = b.mailboxes) : b'.Furnished config :=
  ⟨hconfig.trans h.config_eq, hmailboxes ▸ h.free⟩

theorem discover (h : b.Furnished config) (s : Surroundings δ σ) :
    (b.discover s).1.Furnished config := by
  obtain ⟨driver, discoveries, contacts, hfields⟩ := discover_fields s b
  rw [hfields]
  exact h.congr rfl rfl

variable [Hardware δ] {s : Surroundings δ σ}

/-- The event thread drains its own mailbox, and its listeners post to others. -/
theorem letThreadRun (h : b.Furnished config) (s : Surroundings δ σ) (enabled : Bool) (limit : Nat)
    (session : Session) : (b.letThreadRun s enabled limit session).1.Furnished config := by
  rw [Bridge.letThreadRun]
  split
  · next m _ hm =>
    have hleft := Loop.free_run (Hall.handle s b.outlet session.mailbox)
      (l := { mailbox := m, consumer := session.consumer, enabled
              state := { audience := b.audience, engineOn := b.engineOn } })
      (h.free m (List.mem_of_getElem? hm)) limit
    generalize Loop.run (Hall.handle s b.outlet session.mailbox) limit _ = answer at hleft ⊢
    obtain ⟨l, ending⟩ := answer
    have hset := free_set h.free session.mailbox hleft
    exact ⟨h.config_eq, free_reportAll hset l.state.elsewhere⟩
  · exact h

theorem settle (h : b.Furnished config) (s : Surroundings δ σ) :
    (b.settle s).Furnished config := by
  rw [Bridge.settle]
  split
  · exact h
  · exact (h.letThreadRun s true _ _).congr rfl rfl

/-- A signal is posted, and the thread may then run. -/
theorem receive (h : b.Furnished config) (s : Surroundings δ σ) (number : Nat) (sig : Signal) :
    (b.receive s number sig).Furnished config := by
  have hposted : { b with mailboxes := postTo b.mailboxes number sig }.Furnished config :=
    ⟨h.config_eq, free_postTo h.free number sig⟩
  rw [Bridge.receive]
  split
  · exact hposted.settle s
  · exact hposted

theorem absorb (h : b.Furnished config) (s : Surroundings δ σ) (e : Effects δ) :
    (b.absorb s e).Furnished config := by
  have hbegun : { b with driver := some e.driver }.Furnished config := h.congr rfl rfl
  rw [Bridge.absorb]
  generalize { b with driver := some e.driver } = b' at hbegun
  induction e.reports generalizing b' with
  | nil => exact hbegun
  | cons r reports ih => exact ih _ (hbegun.receive s r.1.mailbox r.2.signal)

/-- **A call of the driver.** -/
theorem call (h : b.Furnished config) (s : Surroundings δ σ) (c : Contact) (e : Effects δ) :
    ((b.note c).absorb s e).Furnished config :=
  have hnoted : (b.note c).Furnished config := h.congr rfl rfl
  hnoted.absorb s e

theorem cleanup (h : b.Furnished config) (s : Surroundings δ σ) :
    (b.cleanup s).Furnished config := by
  rw [Bridge.cleanup]
  split
  · exact h
  · exact h.call s _ _

/-- A thread that finds a new mailbox runs and leaves it free, like any other. -/
theorem openSession (h : b.Furnished config) (s : Surroundings δ σ) (number : Nat)
    (mailbox : Mailbox) : (b.openSession s number mailbox).1.Furnished config := by
  rw [Bridge.openSession]
  split
  · exact h
  · have hspawned : { b with spawns := b.spawns + 1 }.Furnished config := h.congr rfl rfl
    dsimp only
    split
    · exact hspawned.cleanup s
    · let session : Session := { mailbox := number, consumer := .ofMailbox mailbox }
      have hopened : { b with spawns := b.spawns + 1, session := some session }.Furnished config :=
        h.congr rfl rfl
      exact hopened.settle s

omit [Hardware δ] in
/-- The mailbox that is made for a session is a free one. -/
theorem addMailbox (h : b.Furnished config) : b.addMailbox.Furnished config := by
  refine ⟨h.config_eq, fun m hm => ?_⟩
  rcases List.mem_append.mp hm with hold | hnew
  · exact h.free m hold
  · obtain rfl := List.mem_singleton.mp hnew
    exact ⟨h.config_eq ▸ Snapshot.capacity_blank _ (messageCapacity_pos b), rfl⟩

/-- **Enabling.** -/
theorem enable (h : b.Furnished config) (s : Surroundings δ σ) :
    (b.enable s).1.Furnished config := by
  cases hb : b.isEnabled with
  | true =>
    rw [enable_of_enabled hb]
    exact h
  | false =>
    have hfound := h.addMailbox.discover s
    cases hdiscover : b.addMailbox.discover s with
    | mk b' driver =>
      rw [hdiscover] at hfound
      cases driver with
      | none =>
        rw [enable_of_miss hb hdiscover]
        exact hfound
      | some d =>
        rw [enable_of_hit hb hdiscover, setUp]
        split
        · exact Furnished.call hfound s _ _
        · exact (Furnished.call hfound s _ _).openSession s _ _

/-- **Disabling.** -/
theorem disable (h : b.Furnished config) (s : Surroundings δ σ) :
    (b.disable s).1.Furnished config := by
  rw [Bridge.disable]
  split
  · exact h
  · next session _ =>
    have hclosed : { b with session := none }.Furnished config := h.congr rfl rfl
    have hran := (hclosed.receive s session.mailbox .disable).letThreadRun s false 1 session
    dsimp only
    generalize Bridge.letThreadRun s false 1 session _ = answer at hran ⊢
    obtain ⟨b', session'⟩ := answer
    have hreset : { b' with engineOn := false }.Furnished config := congr hran rfl rfl
    exact hreset.cleanup s

/-- **Starting.** -/
theorem start (h : b.Furnished config) (s : Surroundings δ σ) (link : Link) :
    (b.start s link).1.Furnished config := by
  have henabled := h.enable s
  rw [Bridge.start]
  generalize b.enable s = answered at henabled ⊢
  obtain ⟨b', _ | _⟩ := answered
  · exact henabled
  · dsimp only
    split
    · exact henabled
    · exact Furnished.call henabled s _ _

/-- **Stopping.** -/
theorem stop (h : b.Furnished config) (s : Surroundings δ σ) : (b.stop s).1.Furnished config := by
  cases hb : b.isEnabled with
  | false =>
    rw [stop_of_disabled hb]
    exact h
  | true =>
    cases hd : b.driver with
    | none =>
      rw [Bridge.stop, if_pos hb, hd]
      exact h
    | some d =>
      have hcalled := h.call s .stop (Hardware.stop d).toEffects
      rcases stop_cases (s := s) hb hd with ⟨f, hstop⟩ | hstop
      · rw [hstop]
        exact hcalled
      · rw [hstop]
        exact hcalled.disable s

/-- **Writing.** -/
theorem send (h : b.Furnished config) (s : Surroundings δ σ) (bytes : List UInt8) :
    (b.send s bytes).1.Furnished config := by
  rw [Bridge.send]
  split
  · split
    · exact h
    · exact h.call s _ _
  · exact h

/-- **One operation.** -/
theorem perform (h : b.Furnished config) (s : Surroundings δ σ) (op : Operation) :
    (b.perform s op).Furnished config := by
  cases op with
  | isSupported => exact h.discover s
  | enable => exact h.enable s
  | disable => exact h.disable s
  | start link => exact h.start s link
  | startConfigured => exact h.start s _
  | stop => exact h.stop s
  | send bytes => exact h.send s bytes
  | print text => exact h.send s _
  | addListener kind id => exact h.congr rfl rfl
  | removeListener kind id => exact h.congr rfl rfl
  | requestDisable control => exact h.receive s _ _
  | interrupt report =>
    rw [Bridge.perform, interrupt]
    split
    · exact h.receive s _ _
    · exact h

/-- **Any number of operations.** -/
theorem performAll (h : b.Furnished config) (s : Surroundings δ σ) (operations : List Operation) :
    (b.performAll s operations).Furnished config := by
  induction operations generalizing b with
  | nil => exact h
  | cons op operations ih => exact ih (h.perform s op)

/-- Closing a session posts the request to its mailbox, and nothing else happens: nobody is attended
to any more. -/
theorem receive_disable_of_closed (h : b.Furnished config) {number : Nat} {m : Mailbox}
    (hm : b.mailboxes[number]? = some m) :
    { b with session := none }.receive s number .disable
      = { b with
          session := none
          mailboxes := b.mailboxes.set number (m.record .disable) } := by
  have hw : m.waiting = none := (h.free m (List.mem_of_getElem? hm)).waiting
  rw [Bridge.receive, postTo_eq_set hm hw]
  rfl

/-- **Disabling waits for a thread that comes to its end.** Disabling clears the flag and posts a
disable request, and then waits until the event thread is gone. If the thread is there, the one
cycle that it makes takes the request, and ends with the thread exiting or breaking off; the answer
tells which. -/
theorem disable_ends_thread (h : b.Furnished config) (s : Surroundings δ σ) {session : Session}
    (hsession : b.session = some session) (halive : session.alive = true) {m : Mailbox}
    (hm : b.mailboxes[session.mailbox]? = some m) :
    let l : Loop (Hall σ) :=
      { mailbox := m.record .disable, consumer := session.consumer, enabled := false
        state := { audience := b.audience, engineOn := b.engineOn } }
    let ending := (l.run (Hall.handle s b.outlet session.mailbox) 1).2
    (ending = .exited ∧ (b.disable s).2 = .ok ()) ∨
      ∃ crash, ending = .failed crash ∧ (b.disable s).2 = .error (.error .eventThreadPanicked) := by
  intro l ending
  have hw : m.waiting = none := (h.free m (List.mem_of_getElem? hm)).waiting
  have hlt : session.mailbox < b.mailboxes.length := (List.getElem?_eq_some_iff.mp hm).1
  -- The session is closed already when the request is posted, so that nothing else runs.
  let b' : Bridge δ σ :=
    { b with session := none, mailboxes := b.mailboxes.set session.mailbox (m.record .disable) }
  have hanswer : (b.disable s).2 =
      if (b'.letThreadRun s false 1 session).2.alive then .ok ()
      else .error (.error .eventThreadPanicked) := by
    rw [Bridge.disable, hsession]
    dsimp only
    rw [h.receive_disable_of_closed hm]
  have hthread : (b'.letThreadRun s false 1 session).2.alive = true ↔
      ∀ crash, ending ≠ .failed crash :=
    alive_letThreadRun s halive (List.getElem?_set_self hlt) false 1
  rcases Hall.run_ends_of_disable s b.outlet session.mailbox hw session.consumer
    { audience := b.audience, engineOn := b.engineOn } with hexit | ⟨crash, hcrash⟩
  · have hgone : ending = .exited := hexit
    have hthere := hthread.mpr fun crash hcrash => by rw [hgone] at hcrash; cases hcrash
    exact .inl ⟨hgone, by rw [hanswer, if_pos hthere]⟩
  · have hgone : ending = .failed crash := hcrash
    have hdead : ¬(b'.letThreadRun s false 1 session).2.alive = true :=
      fun hthere => hthread.mp hthere crash hgone
    exact .inr ⟨crash, hgone, by rw [hanswer, if_neg hdead]⟩

end Furnished

end Bridge

end SerialBridge
