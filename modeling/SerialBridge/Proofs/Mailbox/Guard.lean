import SerialBridge.Proofs.Mailbox.ReusedView

/-!
# The flag of a drain

A mailbox refuses a drain while another waits. It finds out by a flag: whoever begins a drain
**raises the flag first** and looks at what it was then. If it was up, the call breaks off on the
spot; if it was down, the call holds a guard from then on, which lowers the flag when the drain
returns. A call that breaks off holds no guard, so that it lowers nothing, and it has raised a flag
that was up anyway.

`Guarded` is a mailbox, a loop or a station together with its flag, and here it is the flag alone
that decides whether a drain may begin. That it decides as the mailbox does, however calls follow
one another, is `Guarded.exists_moves_callAll`: a station with its flag goes where moves lead, and
the flag is up exactly while a drain waits. `Guarded.refused_drains_change_nothing` says what
follows for those that are refused, and for the drain that they could not disturb.
-/

namespace SerialBridge

/-- Moves can be made in two portions. -/
theorem Station.run_append (x : Station) (moves moves' : List Move) :
    (x.run (moves ++ moves')).1 = ((x.run moves).1.run moves').1 := by
  induction moves generalizing x with
  | nil => rfl
  | cons move moves ih => exact ih (x.step move).1

/-- Something about a mailbox, with the flag that says that a drain is in flight. -/
structure Guarded (α : Type) where
  /-- What the flag guards. -/
  value : α
  /-- The flag. -/
  inFlight : Bool

namespace Guarded

/-! ### Drains -/

section Drains

variable {α : Type}

/-- Raises the flag, and answers whether it was up. -/
def raise (g : Guarded α) : Guarded α × Bool := ({ g with inFlight := true }, g.inFlight)

/-- Gives a guard back. -/
def lower (g : Guarded α) : Guarded α := { g with inFlight := false }

/-- Begins a drain into a view. Answers with the view afterwards, too. -/
def drainInto (g : Guarded Mailbox) (v : View) : Guarded Mailbox × View × Drain :=
  match g.raise with
  -- There is no guard yet, and the flag stays up.
  | (g, true) => (g, v, .refused)
  | (g, false) =>
    if g.value.hasPending then
      let (taken, m) := g.value.take v
      ({ g with value := m }.lower, taken.view, .took taken m)
    else
      let m := { g.value with waiting := some v }
      ({ g with value := m }, v, .waits m)

/-- The step of a producer. A drain that waited returns. -/
def post (g : Guarded Mailbox) (s : Signal) : Guarded Mailbox × Option Drained :=
  match g.value.post s with
  | (m, none) => ({ g with value := m }, none)
  | (m, some taken) => ({ g with value := m }.lower, some taken)

variable {m : Mailbox}

/-- With the flag up, neither the mailbox nor the view is touched. -/
theorem drainInto_of_inFlight (m : Mailbox) (v : View) :
    drainInto ⟨m, true⟩ v = (⟨m, true⟩, v, .refused) := rfl

theorem drainInto_of_hasPending (hp : m.hasPending = true) (v : View) :
    drainInto ⟨m, false⟩ v
      = (⟨(m.take v).2, false⟩, (m.take v).1.view, .took (m.take v).1 (m.take v).2) := by
  rw [drainInto]
  exact if_pos hp

/-- A drain that waits keeps its guard, so the flag stays up. -/
theorem drainInto_of_not_hasPending (hp : m.hasPending = false) (v : View) :
    drainInto ⟨m, false⟩ v
      = (⟨{ m with waiting := some v }, true⟩, v, .waits { m with waiting := some v }) := by
  rw [drainInto]
  exact if_neg (Bool.not_eq_true _ ▸ hp)

end Drains

/-! ### Cycles and runs -/

section Loops

variable {σ ε : Type} (h : Handler σ ε)

/-- One cycle. The guard is given back before the callbacks begin. -/
def cycle (g : Guarded (Loop σ)) : Guarded (Loop σ) × CycleEnd ε :=
  let l := g.value
  match drainInto ⟨l.mailbox, g.inFlight⟩ l.consumer.view with
  | (m, view, .refused) =>
    (⟨{ l with mailbox := m.value, consumer := { l.consumer with view } }, m.inFlight⟩, .refused)
  | (m, view, .waits _) =>
    (⟨{ l with mailbox := m.value, consumer := { l.consumer with view } }, m.inFlight⟩, .waiting)
  | (m, view, .took taken _) =>
    let consumer := { view, cycles := l.consumer.cycles + 1 }
    match Loop.deliver h taken.kinds taken.deliveries { l with mailbox := m.value, consumer } with
    | (l, none) => (⟨l, m.inFlight⟩, .dispatched taken.kinds)
    | (l, some e) => (⟨l, m.inFlight⟩, .failed e)

/-- Runs cycles, at most as many as allowed. -/
def run : Nat → Guarded (Loop σ) → Guarded (Loop σ) × RunEnd ε
  | 0, g => (g, .unfinished)
  | limit + 1, g =>
    match g.cycle h with
    | (g, .refused) => (g, .refused)
    | (g, .waiting) => (g, .waiting)
    | (g, .failed e) => (g, .failed e)
    | (g, .dispatched kinds) =>
      if kinds.contains .disable && !g.value.enabled then (g, .exited) else run limit g

/-- A loop whose drain waits. -/
def suspended (l : Loop σ) : Loop σ :=
  { l with mailbox := { l.mailbox with waiting := some l.consumer.view } }

variable {l : Loop σ}

/-- A cycle is refused by the flag before its consumer is touched. -/
theorem cycle_of_inFlight (l : Loop σ) : cycle h ⟨l, true⟩ = (⟨l, true⟩, .refused) := rfl

theorem run_of_inFlight (l : Loop σ) (limit : Nat) :
    run h (limit + 1) ⟨l, true⟩ = (⟨l, true⟩, .refused) := rfl

/-- A cycle that finds nothing waits inside its drain. -/
theorem cycle_of_not_hasPending (hp : l.mailbox.hasPending = false) :
    cycle h ⟨l, false⟩ = (⟨suspended l, true⟩, .waiting) := by
  rw [cycle, drainInto_of_not_hasPending hp]
  rfl

/-- A cycle that finds something is the cycle without the flag, which is down when the callbacks
begin. -/
theorem cycle_of_hasPending (hw : l.mailbox.waiting = none) (hp : l.mailbox.hasPending = true) :
    cycle h ⟨l, false⟩ = (⟨l.dispatched h, false⟩, (l.cycle h).2) := by
  -- Both deliver the same to the same loop; the guard has been given back by then.
  rw [Loop.cycle_of_hasPending h hw hp, cycle, drainInto_of_hasPending hp, Loop.dispatched]
  change (match Loop.deliver h l.taken.kinds l.taken.deliveries l.drained with
    | (l', none) => ((⟨l', false⟩ : Guarded (Loop σ)), CycleEnd.dispatched l.taken.kinds)
    | (l', some e) => (⟨l', false⟩, .failed e)) = _
  rcases Loop.deliver h l.taken.kinds l.taken.deliveries l.drained with ⟨l', _ | e⟩ <;> rfl

end Loops

/-! ### Calls -/

/-- A call of a producer, of somebody who drains, or of a consumer. -/
inductive Call : Type 1 where
  /-- A producer posts a signal. -/
  | post (signal : Signal)
  /-- A further consumer is made. -/
  | enlist
  /-- A drain into a fresh view. -/
  | drain
  /-- A drain into a view that is already there. -/
  | drainInto (view : View)
  /-- The consumer with the number makes one cycle. -/
  | dispatch {σ ε : Type} (number : Nat) (handler : Handler σ ε) (enabled : Bool) (state : σ)
  /-- The consumer with the number runs the loop, for one cycle and at most that many more. -/
  | run {σ ε : Type} (number : Nat) (handler : Handler σ ε) (more : Nat) (enabled : Bool)
    (state : σ)

/-- What becomes of a call. -/
inductive Response where
  /-- It breaks off. -/
  | fault (cause : Fault)
  /-- It waits for a signal. -/
  | waits
  /-- A drain is over and has handed this out. -/
  | drained (taken : Drained)
  /-- It is over. -/
  | done

/-- What becomes of the call of a drain. -/
def responseOfDrain : Drain → Response
  | .refused => .fault .concurrentDrain
  | .waits _ => .waits
  | .took taken _ => .drained taken

/-- What becomes of the call of a cycle. -/
def responseOfCycle {ε : Type} : CycleEnd ε → Response
  | .refused => .fault .concurrentDrain
  | .waiting => .waits
  | .dispatched _ => .done
  | .failed _ => .done

/-- What becomes of the call of a run. -/
def responseOfRun {ε : Type} : RunEnd ε → Response
  | .refused => .fault .concurrentDrain
  | .waiting => .waits
  | .exited => .done
  | .failed _ => .done
  | .unfinished => .done

/-- Who waits after a call with this response. -/
def waiterAfter (caller before : Option Nat) : Response → Option Nat
  | .waits => caller
  | _ => before

/-- Drains a station. -/
def drainStation (g : Guarded Station) (v : View) : Guarded Station × Response :=
  let (m, _, d) := drainInto ⟨g.value.mailbox, g.inFlight⟩ v
  let response := responseOfDrain d
  (⟨{ g.value with mailbox := m.value, waiter := waiterAfter none g.value.waiter response },
    m.inFlight⟩, response)

/-- Takes in what a consumer's loop has left behind. -/
def adopt {σ : Type} (x : Station) (number : Nat) (l : Guarded (Loop σ)) (response : Response) :
    Guarded Station :=
  ⟨{ x with
      mailbox := l.value.mailbox
      consumers := x.consumers.set number l.value.consumer
      waiter := waiterAfter (some number) x.waiter response }, l.inFlight⟩

/-- Makes a call. -/
def call (g : Guarded Station) : Call → Guarded Station × Response
  | .post s =>
    match post ⟨g.value.mailbox, g.inFlight⟩ s with
    | (m, none) => (⟨{ g.value with mailbox := m.value }, m.inFlight⟩, .done)
    | (m, some taken) => (⟨g.value.wake taken m.value, m.inFlight⟩, .drained taken)
  | .enlist => ({ g with value := (g.value.step .enlist).1 }, .done)
  | .drain => g.drainStation g.value.mailbox.freshView
  | .drainInto v => g.drainStation v
  | .dispatch number handler enabled state =>
    match g.value.consumers[number]? with
    | none => (g, .done)
    | some consumer =>
      let (l, e) := cycle handler ⟨g.value.loop consumer enabled state, g.inFlight⟩
      (adopt g.value number l (responseOfCycle e), responseOfCycle e)
  | .run number handler more enabled state =>
    match g.value.consumers[number]? with
    | none => (g, .done)
    | some consumer =>
      let (l, e) := run handler (more + 1) ⟨g.value.loop consumer enabled state, g.inFlight⟩
      (adopt g.value number l (responseOfRun e), responseOfRun e)

/-- Makes one call after the other. -/
def callAll (g : Guarded Station) : List Call → Guarded Station × List Response
  | [] => (g, [])
  | c :: rest =>
    let (g, response) := g.call c
    let (g, responses) := g.callAll rest
    (g, response :: responses)

/-- A station and its flag, up if a drain waits. -/
def ofStation (x : Station) : Guarded Station := ⟨x, x.mailbox.isDraining⟩

/-! ### The flag decides as the mailbox does -/

section Moves

variable {x : Station}

theorem ofStation_of_waiting (hw : x.mailbox.waiting ≠ none) : ofStation x = ⟨x, true⟩ := by
  rw [ofStation, Mailbox.isDraining, Option.isSome_iff_ne_none.mpr hw]

theorem ofStation_of_not_waiting (hw : x.mailbox.waiting = none) : ofStation x = ⟨x, false⟩ := by
  rw [ofStation, Mailbox.isDraining, hw]
  rfl

/-- A drain does what the move does. -/
theorem drainStation_ofStation (x : Station) (v : View) :
    ((ofStation x).drainStation v).1
      = ofStation (x.conclude none (x.mailbox.drainInto v)).1 := by
  by_cases hw : x.mailbox.waiting = none
  -- The flag is up exactly while a drain waits, so it decides as the mailbox does.
  · rw [ofStation_of_not_waiting hw, drainStation]
    cases hp : x.mailbox.hasPending with
    | true =>
      rw [drainInto_of_hasPending hp, Station.conclude_of_hasPending hw hp,
        ofStation_of_not_waiting (by exact hw)]
      rfl
    | false =>
      rw [drainInto_of_not_hasPending hp, Station.conclude_of_not_hasPending hw hp,
        ofStation_of_waiting (by exact Option.some_ne_none v)]
      rfl
  · rw [ofStation_of_waiting hw, drainStation, drainInto_of_inFlight,
      Station.conclude_of_waiting hw, ofStation_of_waiting hw]
    rfl

/-- So does a producer's step. -/
theorem call_post_ofStation (x : Station) (s : Signal) :
    ((ofStation x).call (.post s)).1 = ofStation (x.post s).1 := by
  cases hw : x.mailbox.waiting with
  | none =>
    have hpost := Mailbox.post_eq_record hw s
    rw [ofStation_of_not_waiting hw, call, post, hpost, Station.post, hpost,
      ofStation_of_not_waiting (by exact (Mailbox.waiting_record _ s).trans hw)]
  | some v =>
    have hpost := Mailbox.post_of_waiting hw s
    have hne : x.mailbox.waiting ≠ none := hw ▸ Option.some_ne_none v
    rw [ofStation_of_waiting hne, call, post, hpost, Station.post, hpost,
      ofStation_of_not_waiting (by exact Mailbox.waiting_record _ s)]
    rfl

variable {σ ε : Type} {number : Nat} {consumer : Consumer}

/-- A loop that has left its consumer alone changes nothing but the mailbox. -/
theorem adopt_of_consumer_eq (hc : x.consumers[number]? = some consumer) {l : Loop σ}
    (hl : l.consumer = consumer) (inFlight : Bool) (response : Response) :
    adopt x number ⟨l, inFlight⟩ response
      = ⟨{ x with
          mailbox := l.mailbox
          waiter := waiterAfter (some number) x.waiter response }, inFlight⟩ := by
  obtain ⟨hlt, rfl⟩ := List.getElem?_eq_some_iff.mp hc
  have hsame : x.consumers.set number l.consumer = x.consumers := by
    rw [hl, List.set_getElem_self hlt]
  rw [adopt, hsame]

/-- So does a cycle. -/
theorem adopt_cycle (hc : x.consumers[number]? = some consumer) (h : Handler σ ε) (enabled : Bool)
    (state : σ) :
    let answer := cycle h ⟨x.loop consumer enabled state, (ofStation x).inFlight⟩
    adopt x number answer.1 (responseOfCycle answer.2)
      = ofStation (x.dispatch number h enabled state).1 := by
  intro answer
  by_cases hw : x.mailbox.waiting = none
  · have hflag : (ofStation x).inFlight = false := by rw [ofStation_of_not_waiting hw]
    cases hp : x.mailbox.hasPending with
    | true =>
      let l := x.loop consumer enabled state
      have hanswer : answer = (⟨l.dispatched h, false⟩, (l.cycle h).2) := by
        rw [← cycle_of_hasPending h (l := l) hw hp, ← hflag]
      have hdone : responseOfCycle (l.cycle h).2 = .done := by
        rcases Loop.cycle_cases h (l := l) hw hp with ⟨hcycle, -⟩ | ⟨e, hcycle, -⟩
        · rw [hcycle]
          rfl
        · rw [hcycle]
          rfl
      rw [hanswer, hdone, Station.dispatch_of_hasPending hc hw hp,
        ofStation_of_not_waiting (by exact Loop.waiting_dispatched h (l := l) hw)]
      rfl
    | false =>
      let l := x.loop consumer enabled state
      have hanswer : answer = (⟨suspended l, true⟩, .waiting) := by
        rw [← cycle_of_not_hasPending h (l := l) hp, ← hflag]
      rw [hanswer, Station.dispatch_of_not_hasPending hc hw hp,
        Station.conclude_of_not_hasPending hw hp,
        ofStation_of_waiting (by exact Option.some_ne_none _), adopt_of_consumer_eq hc rfl]
      rfl
  · have hflag : (ofStation x).inFlight = true := by rw [ofStation_of_waiting hw]
    have hanswer : answer = (⟨x.loop consumer enabled state, true⟩, .refused) := by
      rw [← cycle_of_inFlight h, ← hflag]
    rw [hanswer, adopt_of_consumer_eq hc rfl, Station.dispatch_of_waiting hc hw,
      ofStation_of_waiting hw]
    rfl

/-- A run does what as many moves do as it makes cycles. -/
theorem exists_moves_adopt_run (h : Handler σ ε) (limit : Nat) {x : Station} {consumer : Consumer}
    (hc : x.consumers[number]? = some consumer) (enabled : Bool) (state : σ) :
    let answer := run h limit ⟨x.loop consumer enabled state, (ofStation x).inFlight⟩
    ∃ moves, adopt x number answer.1 (responseOfRun answer.2) = ofStation (x.run moves).1 := by
  induction limit generalizing x consumer enabled state with
  | zero => exact ⟨[], adopt_of_consumer_eq hc rfl _ _⟩
  | succ limit ih =>
    have hcycle := adopt_cycle hc h enabled state
    rw [run]
    generalize cycle h ⟨x.loop consumer enabled state, (ofStation x).inFlight⟩ = answer at hcycle ⊢
    obtain ⟨g, ending⟩ := answer
    have hone : ∃ moves, adopt x number g (responseOfCycle ending) = ofStation (x.run moves).1 :=
      ⟨[.dispatch number h enabled state], hcycle⟩
    cases ending with
    | refused => exact hone
    | waiting => exact hone
    | failed e => exact hone
    | dispatched kinds =>
      dsimp only
      split
      · exact hone
      · -- The next cycle finds the station as the moves so far have left it.
        let x' := (x.dispatch number h enabled state).1
        have hx' : x' = { x with
            mailbox := g.value.mailbox
            consumers := x.consumers.set number g.value.consumer } :=
          (congrArg Guarded.value hcycle).symm
        have hg : g = ⟨x'.loop g.value.consumer g.value.enabled g.value.state,
            (ofStation x').inFlight⟩ := by
          have hflag : g.inFlight = (ofStation x').inFlight := congrArg Guarded.inFlight hcycle
          rw [← hflag, hx']
          rfl
        have hc' : x'.consumers[number]? = some g.value.consumer := by
          rw [hx']
          exact List.getElem?_set_self (List.getElem?_eq_some_iff.mp hc).1
        obtain ⟨moves, hmoves⟩ := ih hc' g.value.enabled g.value.state
        refine ⟨.dispatch number h enabled state :: moves, Eq.trans ?_ hmoves⟩
        rw [← hg, adopt, adopt, hx', List.set_set]

/-- **A call does what moves do**, and leaves the flag up if a drain waits then. -/
theorem exists_moves_call (x : Station) (c : Call) :
    ∃ moves, ((ofStation x).call c).1 = ofStation (x.run moves).1 := by
  cases c with
  | post s => exact ⟨[.post s], call_post_ofStation x s⟩
  | enlist => exact ⟨[.enlist], rfl⟩
  | drain => exact ⟨[.drain], drainStation_ofStation x _⟩
  | drainInto v => exact ⟨[.drainInto v], drainStation_ofStation x v⟩
  | dispatch number h enabled state =>
    cases hc : x.consumers[number]? with
    | none => exact ⟨[], by simp only [call, ofStation, hc]; rfl⟩
    | some consumer =>
      refine ⟨[.dispatch number h enabled state], Eq.trans ?_ (adopt_cycle hc h enabled state)⟩
      simp only [call, ofStation, hc]
  | run number h more enabled state =>
    cases hc : x.consumers[number]? with
    | none => exact ⟨[], by simp only [call, ofStation, hc]; rfl⟩
    | some consumer =>
      obtain ⟨moves, hmoves⟩ := exists_moves_adopt_run h (more + 1) hc enabled state
      refine ⟨moves, Eq.trans ?_ hmoves⟩
      simp only [call, ofStation, hc]

/-- **So do any number of calls.** -/
theorem exists_moves_callAll (x : Station) (calls : List Call) :
    ∃ moves, ((ofStation x).callAll calls).1 = ofStation (x.run moves).1 := by
  induction calls generalizing x with
  | nil => exact ⟨[], rfl⟩
  | cons c calls ih =>
    obtain ⟨moves, hmoves⟩ := exists_moves_call x c
    obtain ⟨moves', hmoves'⟩ := ih (x.run moves).1
    refine ⟨moves ++ moves', ?_⟩
    rw [Station.run_append, ← hmoves', ← hmoves]
    rfl

end Moves

/-! ### Refused drains -/

/-- Whether a call begins a drain: also that of a consumer, if there is the consumer. -/
def Call.Drains (x : Station) : Call → Prop
  | .post _ => False
  | .enlist => False
  | .drain => True
  | .drainInto _ => True
  | .dispatch number _ _ _ => number < x.consumers.length
  | .run number _ _ _ _ => number < x.consumers.length

/-- Whoever begins a drain while the flag is up breaks off and changes nothing. -/
structure Refuses (g : Guarded Station) : Prop where
  /-- However many drains are begun, each breaks off, and everything is as it was. -/
  attempts : ∀ attempts : List Call, (∀ c ∈ attempts, c.Drains g.value) →
    g.callAll attempts = (g, attempts.map fun _ => .fault .concurrentDrain)
  /-- The view that was to be filled is as it was. -/
  drainInto : ∀ v, let m := g.value.mailbox
    drainInto ⟨m, g.inFlight⟩ v = (⟨m, g.inFlight⟩, v, .refused) ∧ m.drainInto v = .refused
  /-- So are the consumer, the enabled flag and the state of the handler, which is not called. -/
  cycle : ∀ {σ ε : Type} (h : Handler σ ε) (consumer : Consumer) (enabled : Bool) (state : σ),
    let l := g.value.loop consumer enabled state
    cycle h ⟨l, g.inFlight⟩ = (⟨l, g.inFlight⟩, .refused) ∧ l.cycle h = (l, .refused)
  /-- Nor does a run call it. -/
  run : ∀ {σ ε : Type} (h : Handler σ ε) (more : Nat) (consumer : Consumer) (enabled : Bool)
    (state : σ), let l := g.value.loop consumer enabled state
    run h (more + 1) ⟨l, g.inFlight⟩ = (⟨l, g.inFlight⟩, .refused) ∧
      l.run h (more + 1) = (l, .refused)

/-- Drains work: one that is begun at once waits, and one that is begun after a signal has the
signal and gives the guard back. -/
structure Works (g : Guarded Station) : Prop where
  /-- Nothing is pending. -/
  waits : ∀ c : Call, c.Drains g.value → (g.call c).2 = .waits
  /-- A signal is pending. -/
  hands : ∀ (s : Signal) (v : View), ∃ taken : Drained,
    taken.Coalesces (min g.value.mailbox.capacity v.room) [s] ∧
      (g.callAll [.post s, .drainInto v]).2 = [.done, .drained taken] ∧
      (g.callAll [.post s, .drainInto v]).1.inFlight = false

section Refused

variable {x : Station}

theorem call_of_inFlight {c : Call} (hc : c.Drains x) :
    call ⟨x, true⟩ c = (⟨x, true⟩, .fault .concurrentDrain) := by
  cases c with
  | post s => exact hc.elim
  | enlist => exact hc.elim
  | drain => rfl
  | drainInto v => rfl
  | dispatch number h enabled state =>
    have hconsumer := List.getElem?_eq_getElem hc
    simp only [call, hconsumer, cycle_of_inFlight]
    exact Prod.ext (adopt_of_consumer_eq hconsumer rfl true _) rfl
  | run number h more enabled state =>
    have hconsumer := List.getElem?_eq_getElem hc
    simp only [call, hconsumer, run_of_inFlight]
    exact Prod.ext (adopt_of_consumer_eq hconsumer rfl true _) rfl

theorem callAll_of_inFlight {attempts : List Call} (h : ∀ c ∈ attempts, c.Drains x) :
    callAll ⟨x, true⟩ attempts = (⟨x, true⟩, attempts.map fun _ => .fault .concurrentDrain) := by
  induction attempts with
  | nil => rfl
  | cons c rest ih =>
    rw [callAll, call_of_inFlight (h c List.mem_cons_self)]
    dsimp only
    rw [ih fun c hc => h c (List.mem_cons_of_mem _ hc)]
    rfl

theorem refuses_of_waiting (hw : x.mailbox.waiting ≠ none) : Refuses ⟨x, true⟩ where
  attempts _ h := callAll_of_inFlight h
  drainInto v := by
    refine ⟨rfl, ?_⟩
    rw [Mailbox.drainInto, Mailbox.isDraining, Option.isSome_iff_ne_none.mpr hw]
    rfl
  cycle h _ _ _ := ⟨rfl, Loop.cycle_of_waiting h hw⟩
  run h more _ _ _ := ⟨rfl, Loop.run_of_waiting h hw more⟩

/-- A drain that finds nothing and no flag waits. -/
theorem response_of_not_hasPending (hp : x.mailbox.hasPending = false) {c : Call}
    (hc : c.Drains x) : (call ⟨x, false⟩ c).2 = .waits := by
  have hdrain (v : View) : (drainStation ⟨x, false⟩ v).2 = .waits := by
    rw [drainStation, drainInto_of_not_hasPending hp]
    rfl
  cases c with
  | post s => exact hc.elim
  | enlist => exact hc.elim
  | drain => exact hdrain _
  | drainInto v => exact hdrain v
  | dispatch number h enabled state =>
    have hconsumer := List.getElem?_eq_getElem hc
    simp only [call, hconsumer]
    rw [cycle_of_not_hasPending h hp]
    rfl
  | run number h more enabled state =>
    have hconsumer := List.getElem?_eq_getElem hc
    simp only [call, hconsumer]
    rw [run, cycle_of_not_hasPending h hp]
    rfl

theorem works_of_empty (hp : x.mailbox.pending = ∅) (hw : x.mailbox.waiting = none) :
    Works ⟨x, false⟩ where
  waits _ hc := response_of_not_hasPending (by simp [Mailbox.hasPending, hp]) hc
  hands s v := by
    have hpost := Mailbox.post_eq_record hw s
    have hholds : (x.mailbox.record s).Holds [s] := (Mailbox.holds_nil_iff.mpr hp).record s
    have hcoalesces := hholds.coalesces_take v
    rw [Mailbox.capacity_record] at hcoalesces
    have hdrain := drainInto_of_hasPending (Mailbox.hasPending_record x.mailbox s) v
    have hcalls : callAll ⟨x, false⟩ [.post s, .drainInto v]
        = (⟨{ x with mailbox := ((x.mailbox.record s).take v).2 }, false⟩,
          [.done, .drained ((x.mailbox.record s).take v).1]) := by
      simp only [callAll, call, post, hpost, drainStation, hdrain]
      rfl
    refine ⟨_, hcoalesces, ?_, ?_⟩
    · rw [hcalls]
    · rw [hcalls]

/-- A signal completes the drain that waits, lowers the flag and leaves nothing behind. -/
theorem call_post_of_waiting {v : View} (hp : x.mailbox.pending = ∅)
    (hw : x.mailbox.waiting = some v) (s : Signal) :
    ∃ (taken : Drained) (m : Mailbox),
      call ⟨x, true⟩ (.post s) = (⟨x.wake taken m, false⟩, .drained taken) ∧
        taken.Coalesces (min x.mailbox.capacity v.room) [s] ∧ m.pending = ∅ ∧
        m.waiting = none := by
  have hroused : { x.mailbox with waiting := none }.Holds [] := Mailbox.holds_nil_iff.mpr hp
  have hcoalesces := (hroused.record s).coalesces_take v
  rw [Mailbox.capacity_record] at hcoalesces
  refine ⟨_, (({ x.mailbox with waiting := none }.record s).take v).2, ?_, hcoalesces, rfl,
    Mailbox.waiting_record _ s⟩
  rw [call, post, Mailbox.post_of_waiting hw]
  rfl

end Refused

/-- **A refused drain changes nothing.** Take a mailbox of any capacity and any calls, of producers,
of drains into any views and of consumers with any handlers. The flag is up exactly if a drain waits
then. If one does:

* Nothing is pending.
* Whoever begins a drain breaks off, however often and in whatever way; all of the mailbox, the
  consumers, the views and the flag is as it was, and no handler is called.
* The next signal completes the drain that waits, with that signal and nothing else, and hands it to
  whoever began the drain. The flag is down then, and drains work. -/
theorem refused_drains_change_nothing {capacity : Nat} (hpos : 0 < capacity) (calls : List Call) :
    let g := ((ofStation (.ofCapacity capacity hpos)).callAll calls).1
    let x := g.value
    Fault.concurrentDrain.message = "Concurrent drain! Only one consumer may drain at a time." ∧
      x.mailbox.isDraining = g.inFlight ∧ (g.inFlight = true ↔ x.mailbox.waiting ≠ none) ∧
      ∀ v, x.mailbox.waiting = some v →
        x.mailbox.pending = ∅ ∧ g.Refuses ∧
          ∀ s, ∃ (taken : Drained) (m : Mailbox),
            g.call (.post s) = (⟨x.wake taken m, false⟩, .drained taken) ∧
              taken.Coalesces (min capacity v.room) [s] ∧ m.isDraining = false ∧
              Works ⟨x.wake taken m, false⟩ := by
  intro g x
  obtain ⟨moves, hmoves⟩ := exists_moves_callAll (.ofCapacity capacity hpos) calls
  have hx : x = ((Station.ofCapacity capacity hpos).run moves).1 := congrArg Guarded.value hmoves
  have hg : g = ofStation x := by rw [hx, ← hmoves]
  have hcurrent : ∃ history, Mailbox.Current capacity x.mailbox history := by
    rw [hx]
    exact ⟨_, (Mailbox.Current.invariant capacity).run (x := .ofCapacity capacity hpos)
      (.blank hpos) moves⟩
  obtain ⟨history, h⟩ := hcurrent
  clear_value x g
  subst hg
  refine ⟨rfl, rfl, Option.isSome_iff_ne_none, fun v hv => ?_⟩
  have hw : x.mailbox.waiting ≠ none := hv ▸ Option.some_ne_none v
  have hp : x.mailbox.pending = ∅ :=
    PendingSet.isEmpty_iff.mp (by simpa [Mailbox.hasPending] using h.idle hw)
  rw [ofStation_of_waiting hw]
  refine ⟨hp, refuses_of_waiting hw, fun s => ?_⟩
  obtain ⟨taken, m, hcall, hcoalesces, hempty, hnone⟩ := call_post_of_waiting hp hv s
  rw [h.capacity_eq] at hcoalesces
  exact ⟨taken, m, hcall, hcoalesces, by rw [Mailbox.isDraining, hnone]; rfl,
    works_of_empty hempty hnone⟩

/-- A handler that counts how often it is called. -/
def countingHandler : Handler Nat Unit := fun _ _ calls => { state := calls + 1 }

/-- A consumer waits, and was not disturbed before. A drain and a run beside it break off, and the
consumer gets the front of the message that comes next. -/
theorem refused_drains_beside_a_consumer :
    let calls : List Call := [.enlist, .dispatch 0 countingHandler true 0, .drain]
    let g := ((ofStation (.ofCapacity 2 (by decide))).callAll calls).1
    let attempts : List Call := [.drain, .run 0 countingHandler 3 true 0]
    (∃ v, g.value.mailbox.waiting = some v) ∧
      g.callAll attempts = (g, [.fault .concurrentDrain, .fault .concurrentDrain]) ∧
      ∃ taken m, g.call (.post (.message [7, 8, 9])) = (⟨g.value.wake taken m, false⟩,
        .drained taken) ∧ taken.view.message?.map Snapshot.bytes = some [7, 8] := by
  intro calls g attempts
  have hdrains : ∀ c ∈ attempts, c.Drains g.value :=
    List.forall_mem_cons.mpr ⟨trivial, List.forall_mem_singleton.mpr (by decide : 0 < 1)⟩
  obtain ⟨-, -, -, h⟩ := refused_drains_change_nothing (by decide : 0 < 2) calls
  obtain ⟨-, hrefuses, hnext⟩ := h _ rfl
  obtain ⟨taken, m, hcall, hcoalesces, -⟩ := hnext (.message [7, 8, 9])
  exact ⟨⟨_, rfl⟩, hrefuses.attempts attempts hdrains, taken, m, hcall, hcoalesces.message⟩

end Guarded

end SerialBridge
