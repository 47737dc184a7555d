import SerialBridge.Dispatch.Loop
import SerialBridge.Proofs.Mailbox.Coalescing

/-!
# Rounds

A cycle of the dispatch loop leaves behind a mailbox, a flag and a verdict. What happened on the
way is the **round**: what the drain took, and which callbacks were made, each with what the
handler did in it and how it ended. `Loop.round` reads it off the handler, and three facts tie it
to `Loop.cycle`:

* The callbacks are the deliveries of what was taken, in order, up to the first that fails
  (`Loop.deliver_cases`).
* Mailbox and flag at the end are those at the beginning after all acts of the callbacks
  (`Loop.mailbox_dispatched`, `Loop.enabled_dispatched`).
* A cycle takes place exactly if something is pending and no drain waits
  (`Loop.cycle_of_hasPending`, `Loop.cycle_of_not_hasPending`).
-/

namespace SerialBridge

/-! ### Acts -/

/-- The signal that an act posts, if it posts one. -/
def Act.signal? : Act → Option Signal
  | .post s => some s
  | .setEnabled _ => none

/-- The signals that acts post, in order. -/
def posts (acts : List Act) : List Signal := acts.filterMap Act.signal?

@[simp] theorem posts_nil : posts [] = [] := rfl

theorem mem_posts {s : Signal} {acts : List Act} : s ∈ posts acts ↔ .post s ∈ acts := by
  rw [posts, List.mem_filterMap]
  constructor
  · rintro ⟨a, ha, hs⟩
    cases a with
    | post t => obtain rfl := Option.some.inj hs; exact ha
    | setEnabled value => cases hs
  · exact fun h => ⟨_, h, rfl⟩

namespace Mailbox

variable {m : Mailbox} {signals : List Signal}

/-- No act changes how long a message may be. -/
theorem capacity_performAll (acts : List Act) (m : Mailbox) :
    (acts.foldl perform m).capacity = m.capacity := by
  induction acts generalizing m with
  | nil => rfl
  | cons a acts ih =>
    rw [List.foldl_cons, ih]
    cases a with
    | post s =>
      cases hw : m.waiting with
      | none =>
        rw [perform, post_eq_record hw]
        exact capacity_record m s
      | some v =>
        have hpost : m.perform (.post s) = ({ m.record s with waiting := none }.take v).2 := by
          simp [perform, post, hw]
        rw [hpost]
        exact capacity_record m s
    | setEnabled value => rfl

/-- No act makes a drain wait. -/
theorem waiting_performAll (hm : m.waiting = none) (acts : List Act) :
    (acts.foldl perform m).waiting = none := by
  induction acts generalizing m with
  | nil => exact hm
  | cons a acts ih =>
    refine ih ?_
    cases a with
    | post s => simp [perform, post_eq_record hm, hm]
    | setEnabled value => exact hm

/-- What is kept whenever a signal is recorded, while no drain waits, is kept by acts. What was
recorded so far stands in a list, each signal in the form that `f` gives it. -/
theorem performAll_induction {α : Type} {P : Mailbox → List α → Prop} {f : Signal → α}
    (hrecord : ∀ {m seen}, P m seen → m.waiting = none → ∀ s, P (m.record s) (seen ++ [f s]))
    {seen : List α} (h : P m seen) (hw : m.waiting = none) (acts : List Act) :
    P (acts.foldl perform m) (seen ++ (posts acts).map f) := by
  induction acts generalizing m seen with
  | nil => simpa using h
  | cons a acts ih =>
    cases a with
    | post s =>
      have hs : m.perform (.post s) = m.record s := by rw [perform, post_eq_record hw]
      have hrest := ih (hrecord h hw s) ((waiting_record m s).trans hw)
      rw [List.append_assoc] at hrest
      rw [List.foldl_cons, hs]
      exact hrest
    | setEnabled value => exact ih h hw

/-- What acts post comes to stand at the end of what the mailbox holds. -/
theorem Holds.performAll (h : m.Holds signals) (hm : m.waiting = none) (acts : List Act) :
    (acts.foldl perform m).Holds (signals ++ posts acts) := by
  have hkept := performAll_induction (P := Holds) (f := id) (fun h _ s => h.record s) h hm acts
  rwa [List.map_id] at hkept

end Mailbox

/-! ### Callbacks -/

/-- The kind of event that a callback is for. -/
def Delivery.kind : Delivery → EventKind
  | .status _ => .status
  | .message _ => .message
  | .disable => .disable

/-- One callback as it went. -/
structure Callback (ε : Type) where
  /-- The event that the handler was called with. -/
  delivery : Delivery
  /-- What the handler did, in order. -/
  acts : List Act
  /-- The failure with which it returned, if it failed. -/
  failure : Option ε

/-- One cycle as it went. -/
structure Round (ε : Type) where
  /-- What the drain took. -/
  taken : Drained
  /-- The callbacks that were made, in order. -/
  callbacks : List (Callback ε)
  /-- The enabled flag after the last of them. -/
  enabled : Bool

/-- What the callbacks of a round did, in order. -/
def Round.acts {ε : Type} (r : Round ε) : List Act := r.callbacks.flatMap (·.acts)

/-- What the callbacks of a round posted, in order. -/
def Round.posts {ε : Type} (r : Round ε) : List Signal := SerialBridge.posts r.acts

/-- Every delivery of what was taken was made, and no callback failed. -/
def Round.Succeeds {ε : Type} (r : Round ε) : Prop :=
  r.callbacks.map (·.delivery) = r.taken.deliveries ∧ ∀ c ∈ r.callbacks, c.failure = none

/-- The last callback that was made failed, and it alone; what was to follow was not delivered. -/
def Round.FailsWith {ε : Type} (r : Round ε) (e : ε) : Prop :=
  ∃ earlier last undelivered, r.callbacks = earlier ++ [last] ∧ last.failure = some e ∧
    (∀ c ∈ earlier, c.failure = none) ∧
    r.taken.deliveries = r.callbacks.map (·.delivery) ++ undelivered

/-- A disable request was taken, and the flag was clear after the last callback. -/
def Round.Exits {ε : Type} (r : Round ε) : Prop :=
  .disable ∈ r.taken.kinds ∧ r.enabled = false

namespace Loop

variable {σ ε : Type} (h : Handler σ ε)

/-- The callbacks that `deliver` makes. -/
def callbacks (kinds : PendingSet) : List Delivery → Loop σ → List (Callback ε)
  | [], _ => []
  | d :: rest, l =>
    let r := h ⟨kinds, rest, l.mailbox, l.enabled⟩ d l.state
    ⟨d, r.acts, r.failure⟩ ::
      match r.failure with
      | some _ => []
      | none => callbacks kinds rest (l.call h kinds d rest).1

theorem mailbox_performAll (acts : List Act) (l : Loop σ) :
    (acts.foldl perform l).mailbox = acts.foldl Mailbox.perform l.mailbox := by
  induction acts generalizing l with
  | nil => rfl
  | cons a acts ih => exact ih _

theorem enabled_performAll (acts : List Act) (l : Loop σ) :
    (acts.foldl perform l).enabled = acts.foldl Act.flag l.enabled := by
  induction acts generalizing l with
  | nil => rfl
  | cons a acts ih => exact ih _

theorem consumer_performAll (acts : List Act) (l : Loop σ) :
    (acts.foldl perform l).consumer = l.consumer := by
  induction acts generalizing l with
  | nil => rfl
  | cons a acts ih => exact ih _

/-- One step of `deliver` and of `callbacks`: a call that fails ends both. -/
theorem deliver_cons_of_failure {kinds : PendingSet} {d : Delivery} {rest : List Delivery}
    {l : Loop σ} {e : ε}
    (he : (h ⟨kinds, rest, l.mailbox, l.enabled⟩ d l.state).failure = some e) :
    deliver h kinds (d :: rest) l = ((l.call h kinds d rest).1, some e) ∧
      callbacks h kinds (d :: rest) l
        = [⟨d, (h ⟨kinds, rest, l.mailbox, l.enabled⟩ d l.state).acts, some e⟩] := by
  constructor
  · rw [deliver, show l.call h kinds d rest = ((l.call h kinds d rest).1, some e) from
      Prod.ext rfl he]
  · simp [callbacks, he]

/-- One step of `deliver` and of `callbacks`: after a call that succeeds both go on. -/
theorem deliver_cons_of_success {kinds : PendingSet} {d : Delivery} {rest : List Delivery}
    {l : Loop σ} (he : (h ⟨kinds, rest, l.mailbox, l.enabled⟩ d l.state).failure = none) :
    deliver h kinds (d :: rest) l = deliver h kinds rest (l.call h kinds d rest).1 ∧
      callbacks h kinds (d :: rest) l
        = ⟨d, (h ⟨kinds, rest, l.mailbox, l.enabled⟩ d l.state).acts, none⟩ ::
            callbacks h kinds rest (l.call h kinds d rest).1 := by
  constructor
  · rw [deliver, show l.call h kinds d rest = ((l.call h kinds d rest).1, none) from
      Prod.ext rfl he]
  · simp [callbacks, he]

/-- What remains of the loop after callbacks: every act is carried out, in order, and nothing
else is done to mailbox, flag and consumer. -/
theorem deliver_eq_performAll (kinds : PendingSet) (ds : List Delivery) (l : Loop σ) :
    let acts := (callbacks h kinds ds l).flatMap (·.acts)
    (deliver h kinds ds l).1.mailbox = acts.foldl Mailbox.perform l.mailbox ∧
      (deliver h kinds ds l).1.enabled = acts.foldl Act.flag l.enabled ∧
      (deliver h kinds ds l).1.consumer = l.consumer := by
  induction ds generalizing l with
  | nil => exact ⟨rfl, rfl, rfl⟩
  | cons d rest ih =>
    have hcall : (l.call h kinds d rest).1
        = (h ⟨kinds, rest, l.mailbox, l.enabled⟩ d l.state).acts.foldl perform
            { l with state := (h ⟨kinds, rest, l.mailbox, l.enabled⟩ d l.state).state } := rfl
    cases he : (h ⟨kinds, rest, l.mailbox, l.enabled⟩ d l.state).failure with
    | some e =>
      obtain ⟨hdeliver, hcallbacks⟩ := deliver_cons_of_failure h he
      rw [hdeliver, hcallbacks, hcall]
      simp only [List.flatMap_cons, List.flatMap_nil, List.append_nil]
      exact ⟨mailbox_performAll _ _, enabled_performAll _ _, consumer_performAll _ _⟩
    | none =>
      obtain ⟨hdeliver, hcallbacks⟩ := deliver_cons_of_success h he
      obtain ⟨hm, hf, hc⟩ := ih (l.call h kinds d rest).1
      -- The call itself is its acts after a change of state, which none of the three looks at.
      rw [hcall, mailbox_performAll, ← hcall] at hm
      rw [hcall, enabled_performAll, ← hcall] at hf
      rw [hcall, consumer_performAll, ← hcall] at hc
      rw [hdeliver, hcallbacks]
      simp only [List.flatMap_cons, List.foldl_append]
      exact ⟨hm, hf, hc⟩

/-- **The callbacks of a cycle.** Either all deliveries are made and succeed, or the last one
that is made fails, and those before it succeed; the failure is the one that is answered. -/
theorem deliver_cases (kinds : PendingSet) (ds : List Delivery) (l : Loop σ) :
    ((deliver h kinds ds l).2 = none ∧ (callbacks h kinds ds l).map (·.delivery) = ds ∧
        ∀ c ∈ callbacks h kinds ds l, c.failure = none) ∨
      ∃ earlier last e undelivered, (deliver h kinds ds l).2 = some e ∧
        callbacks h kinds ds l = earlier ++ [last] ∧ last.failure = some e ∧
        (∀ c ∈ earlier, c.failure = none) ∧
        ds = (callbacks h kinds ds l).map (·.delivery) ++ undelivered := by
  induction ds generalizing l with
  | nil => exact .inl ⟨rfl, rfl, by simp [callbacks]⟩
  | cons d rest ih =>
    cases he : (h ⟨kinds, rest, l.mailbox, l.enabled⟩ d l.state).failure with
    | some e =>
      obtain ⟨hdeliver, hcallbacks⟩ := deliver_cons_of_failure h he
      exact .inr ⟨[], _, e, rest, by rw [hdeliver], by rw [hcallbacks]; rfl, rfl, by simp,
        by rw [hcallbacks]; rfl⟩
    | none =>
      obtain ⟨hdeliver, hcallbacks⟩ := deliver_cons_of_success h he
      rw [hdeliver, hcallbacks]
      rcases ih (l.call h kinds d rest).1 with
        ⟨hnone, hall, hok⟩ | ⟨cs, c, e, ds', h₁, h₂, h₃, h₄, h₅⟩
      · refine .inl ⟨hnone, by rw [List.map_cons, hall], fun c hc => ?_⟩
        rcases List.mem_cons.mp hc with rfl | hc
        · rfl
        · exact hok c hc
      · refine .inr ⟨_ :: cs, c, e, ds', h₁, by rw [h₂]; rfl, h₃, fun b hb => ?_, ?_⟩
        · rcases List.mem_cons.mp hb with rfl | hb
          · rfl
          · exact h₄ b hb
        · rw [List.map_cons, List.cons_append, ← h₅]

/-! ### Cycles -/

/-- What the drain of a cycle takes. -/
def taken (l : Loop σ) : Drained := (l.mailbox.take l.consumer.view).1

/-- The loop between the drain of a cycle and its first callback. -/
def drained (l : Loop σ) : Loop σ :=
  { l with
    mailbox := (l.mailbox.take l.consumer.view).2
    consumer := { view := l.taken.view, cycles := l.consumer.cycles + 1 } }

/-- The loop after the last callback of a cycle. -/
def dispatched (l : Loop σ) : Loop σ :=
  (deliver h l.taken.kinds l.taken.deliveries l.drained).1

/-- The round of a cycle. -/
def round (l : Loop σ) : Round ε where
  taken := l.taken
  callbacks := callbacks h l.taken.kinds l.taken.deliveries l.drained
  enabled := (l.dispatched h).enabled

variable {l : Loop σ}

/-- The cycle of a loop that has something to drain. -/
theorem cycle_of_hasPending (hw : l.mailbox.waiting = none) (hp : l.mailbox.hasPending = true) :
    l.cycle h = (l.dispatched h,
      (deliver h l.taken.kinds l.taken.deliveries l.drained).2.elim (.dispatched l.taken.kinds)
        .failed) := by
  simp only [cycle, Mailbox.drainInto_of_hasPending hw hp, dispatched, drained, taken]
  rcases deliver h _ _ _ with ⟨l', _ | e⟩ <;> rfl

/-- The cycle of a loop that has nothing to drain. -/
theorem cycle_of_not_hasPending (hw : l.mailbox.waiting = none)
    (hp : l.mailbox.hasPending = false) : l.cycle h = (l, .waiting) := by
  rw [cycle, Mailbox.drainInto_of_not_hasPending hw hp]

/-- The cycle of a loop whose mailbox somebody else is draining. -/
theorem cycle_of_waiting (hw : l.mailbox.waiting ≠ none) : l.cycle h = (l, .refused) := by
  rw [cycle, Mailbox.drainInto_of_waiting hw]

theorem mailbox_dispatched (l : Loop σ) :
    (l.dispatched h).mailbox
      = (l.round h).acts.foldl Mailbox.perform (l.mailbox.take l.consumer.view).2 :=
  (deliver_eq_performAll h _ _ l.drained).1

theorem enabled_dispatched (l : Loop σ) :
    (l.dispatched h).enabled = (l.round h).acts.foldl Act.flag l.enabled :=
  (deliver_eq_performAll h _ _ l.drained).2.1

theorem consumer_dispatched (l : Loop σ) :
    (l.dispatched h).consumer = { view := l.taken.view, cycles := l.consumer.cycles + 1 } :=
  (deliver_eq_performAll h _ _ l.drained).2.2

/-- After a cycle no drain waits. -/
theorem waiting_dispatched (hw : l.mailbox.waiting = none) :
    (l.dispatched h).mailbox.waiting = none := by
  rw [mailbox_dispatched]
  exact Mailbox.waiting_performAll (m := (l.mailbox.take l.consumer.view).2) hw _

/-- After a cycle the mailbox holds exactly what the callbacks posted. -/
theorem holds_dispatched (hw : l.mailbox.waiting = none) :
    (l.dispatched h).mailbox.Holds (l.round h).posts := by
  rw [mailbox_dispatched]
  exact (Mailbox.holds_take l.mailbox l.consumer.view).performAll hw _

/-- How much of a message gets from a report through the mailbox into the consumer's view. -/
def room (l : Loop σ) : Nat := min l.mailbox.capacity l.consumer.view.room

theorem room_dispatched (l : Loop σ) : (l.dispatched h).room = l.room := by
  rw [room, mailbox_dispatched, Mailbox.capacity_performAll, Mailbox.capacity_take,
    consumer_dispatched]
  exact congrArg (min _) (Mailbox.room_take _ _)

/-- What a cycle takes coalesces what the mailbox held. -/
theorem coalesces_taken {signals : List Signal} (hl : l.mailbox.Holds signals) :
    l.taken.Coalesces l.room signals :=
  hl.coalesces_take l.consumer.view

/-- A cycle succeeds or fails as its callbacks do. -/
theorem cycle_cases (hw : l.mailbox.waiting = none) (hp : l.mailbox.hasPending = true) :
    (l.cycle h = (l.dispatched h, .dispatched l.taken.kinds) ∧ (l.round h).Succeeds) ∨
      ∃ e, l.cycle h = (l.dispatched h, .failed e) ∧ (l.round h).FailsWith e := by
  rw [cycle_of_hasPending h hw hp]
  rcases deliver_cases h l.taken.kinds l.taken.deliveries l.drained with
    ⟨hnone, hall, hok⟩ | ⟨earlier, last, e, undelivered, hsome, hsplit, hlast, hearlier, hall⟩
  · exact .inl ⟨by rw [hnone]; rfl, hall, hok⟩
  · exact .inr ⟨e, by rw [hsome]; rfl, earlier, last, undelivered, hsplit, hlast, hearlier, hall⟩

/-! ### Runs -/

/-- The rounds of a run. -/
def rounds : Nat → Loop σ → List (Round ε)
  | 0, _ => []
  | limit + 1, l =>
    match l.cycle h with
    | (_, .refused) => []
    | (_, .waiting) => []
    | (_, .failed _) => [l.round h]
    | (l', .dispatched kinds) =>
      l.round h :: if kinds.contains .disable && !l'.enabled then [] else rounds limit l'

/-- How a run begins, if anything is to be drained. -/
inductive Begins (l : Loop σ) (limit : Nat) : Prop where
  /-- The first cycle fails, and the run with it. -/
  | fails (e : ε) (fails : (l.round h).FailsWith e)
    (run_eq : l.run h (limit + 1) = (l.dispatched h, .failed e))
    (rounds_eq : l.rounds h (limit + 1) = [l.round h])
  /-- The first cycle ends the run. -/
  | exits (succeeds : (l.round h).Succeeds) (exits : (l.round h).Exits)
    (run_eq : l.run h (limit + 1) = (l.dispatched h, .exited))
    (rounds_eq : l.rounds h (limit + 1) = [l.round h])
  /-- The run goes on after the first cycle. -/
  | continues (succeeds : (l.round h).Succeeds) (stays : ¬(l.round h).Exits)
    (run_eq : l.run h (limit + 1) = (l.dispatched h).run h limit)
    (rounds_eq : l.rounds h (limit + 1) = l.round h :: (l.dispatched h).rounds h limit)

theorem begins (hw : l.mailbox.waiting = none) (hp : l.mailbox.hasPending = true) (limit : Nat) :
    l.Begins h limit := by
  rcases cycle_cases h hw hp with ⟨hcycle, hsucceeds⟩ | ⟨e, hcycle, hfails⟩
  · have hrun : l.run h (limit + 1) =
        if l.taken.kinds.contains .disable && !(l.dispatched h).enabled then
          (l.dispatched h, .exited)
        else (l.dispatched h).run h limit := by rw [run, hcycle]
    have hrounds : l.rounds h (limit + 1) = l.round h ::
        if l.taken.kinds.contains .disable && !(l.dispatched h).enabled then []
        else (l.dispatched h).rounds h limit := by rw [rounds, hcycle]
    -- What `run` tests of the kinds and the flag is `Round.Exits`.
    by_cases hexit : (l.round h).Exits
    · have htest : (l.taken.kinds.contains .disable && !(l.dispatched h).enabled) = true := by
        rw [Bool.and_eq_true, Bool.not_eq_true']
        exact hexit
      rw [if_pos htest] at hrun hrounds
      exact .exits hsucceeds hexit hrun hrounds
    · have htest : ¬(l.taken.kinds.contains .disable && !(l.dispatched h).enabled) = true := by
        rw [Bool.and_eq_true, Bool.not_eq_true']
        exact hexit
      rw [if_neg htest] at hrun hrounds
      exact .continues hsucceeds hexit hrun hrounds
  · exact .fails e hfails (by rw [run, hcycle]) (by rw [rounds, hcycle])

/-- A run that has nothing to drain waits. -/
theorem run_of_not_hasPending (hw : l.mailbox.waiting = none) (hp : l.mailbox.hasPending = false)
    (limit : Nat) : l.run h (limit + 1) = (l, .waiting) := by
  rw [run, cycle_of_not_hasPending h hw hp]

/-- A run beside a drain that waits is refused. -/
theorem run_of_waiting (hw : l.mailbox.waiting ≠ none) (limit : Nat) :
    l.run h (limit + 1) = (l, .refused) := by
  rw [run, cycle_of_waiting h hw]

end Loop

end SerialBridge
