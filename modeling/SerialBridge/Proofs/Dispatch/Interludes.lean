import SerialBridge.Proofs.Dispatch.Round

/-!
# The loop among others

`Loop.run` has the mailbox to itself. `Loop.runAmid` runs the same loop while others post to its
mailbox and set its flag: before every attempt to drain there is an **interlude**, a list of acts
of theirs. An attempt that finds nothing waits and is made again after the next interlude. What
others do while callbacks run needs no interlude, since a handler is any handler, and what they
do in the meantime may as well be an act of its own.

`Loop.moments` is the **trace** of such a run: every act with the place it has in the run, every
drain, every wait. `Loop.roundsAmid` are its rounds. `Loop.attempt` says how a run goes on after one
attempt, and what that adds to the rounds and to the trace. Among others who do nothing the loop
runs as it does by itself (`Loop.runAmid_replicate`).

A mailbox describes a wait in another way: it keeps the drain, and the step of the producer who
posts next completes it (`Mailbox.post`). In a run among others no drain is kept, and the attempt
after the interlude takes what was posted. The two agree. What a producer hands to a waiting drain
is what a new attempt would take after that post (`Mailbox.drainInto_of_waits`), and the loop whose
drain was completed for it goes on as the loop that tries again (`Loop.cycle_of_waits`). An
interlude may hold more posts than one, and then the attempt takes them all. That is the case of a
consumer who was woken and comes late: others have posted in the meantime.
-/

namespace SerialBridge

/-- Something that happens in a run of the loop among others. -/
inductive Moment where
  /-- An act between two attempts to drain, or before the first. -/
  | outside (act : Act)
  /-- An attempt finds nothing, and the loop waits. -/
  | waited
  /-- A drain takes these kinds. -/
  | drained (kinds : PendingSet)
  /-- An act during the callbacks of the cycle that took these kinds. -/
  | inside (kinds : PendingSet) (act : Act)

namespace Moment

/-- The act that a moment is, if it is one. -/
def act? : Moment → Option Act
  | .outside a => some a
  | .inside _ a => some a
  | _ => none

/-- Whether a moment is a drain. -/
def isDrain : Moment → Bool
  | .drained _ => true
  | _ => false

/-- The acts among moments, in order. -/
def acts (moments : List Moment) : List Act := moments.filterMap act?

@[simp] theorem acts_append (xs ys : List Moment) : acts (xs ++ ys) = acts xs ++ acts ys :=
  List.filterMap_append

theorem acts_cons {m : Moment} {a : Act} (hm : m.act? = some a) (moments : List Moment) :
    acts (m :: moments) = a :: acts moments :=
  List.filterMap_cons_some hm

@[simp] theorem acts_map_outside (acts : List Act) : Moment.acts (acts.map .outside) = acts := by
  rw [Moment.acts, List.filterMap_map, show act? ∘ outside = some from rfl, List.filterMap_some]

end Moment

/-- The moments of a round: its drain, and then the acts of its callbacks. -/
def Round.moments {ε : Type} (r : Round ε) : List Moment :=
  .drained r.taken.kinds :: r.acts.map (.inside r.taken.kinds)

@[simp] theorem Round.acts_moments {ε : Type} (r : Round ε) : Moment.acts r.moments = r.acts := by
  rw [moments, Moment.acts, List.filterMap_cons_none rfl, List.filterMap_map,
    show Moment.act? ∘ Moment.inside r.taken.kinds = some from rfl, List.filterMap_some]

/-- An act among the moments of a round is one of its callbacks, and so is what comes after. -/
theorem Round.moments_eq_append_cons {ε : Type} {r : Round ε} {before after : List Moment}
    {m : Moment} {a : Act} (hm : m.act? = some a) (h : r.moments = before ++ m :: after) :
    m = .inside r.taken.kinds a ∧ a ∈ r.acts ∧
      ∀ m' ∈ after, ∃ a', m' = .inside r.taken.kinds a' := by
  cases before with
  | nil => obtain rfl := (List.cons.inj h).1; cases hm
  | cons _ before =>
    have hacts : r.acts.map (.inside r.taken.kinds) = before ++ m :: after := (List.cons.inj h).2
    have hinside : ∀ m' ∈ m :: after, ∃ a' ∈ r.acts, m' = .inside r.taken.kinds a' := by
      intro m' hm'
      have hmem := hacts ▸ List.mem_append_right before hm'
      obtain ⟨a', ha', rfl⟩ := List.mem_map.mp hmem
      exact ⟨a', ha', rfl⟩
    obtain ⟨a', ha', rfl⟩ := hinside m List.mem_cons_self
    obtain rfl := Option.some.inj hm
    refine ⟨rfl, ha', fun m' hm' => ?_⟩
    obtain ⟨b, -, hb⟩ := hinside m' (List.mem_cons_of_mem _ hm')
    exact ⟨b, hb⟩

namespace Loop

variable {σ ε : Type} (h : Handler σ ε)

/-- Runs the loop among others, with one attempt to drain after each interlude. -/
def runAmid : List (List Act) → Loop σ → Loop σ × RunEnd ε
  | [], l => (l, .unfinished)
  | interlude :: rest, l =>
    match (interlude.foldl perform l).run h 1 with
    | (l, .waiting) => if rest.isEmpty then (l, .waiting) else runAmid rest l
    | (l, .unfinished) => runAmid rest l
    | ended => ended

/-- What happens in a run among others, in order. -/
def moments : List (List Act) → Loop σ → List Moment
  | [], _ => []
  | interlude :: rest, l =>
    let l := interlude.foldl perform l
    interlude.map .outside ++
      match l.run h 1 with
      | (_, .refused) => []
      | (l', .waiting) => .waited :: moments rest l'
      | (_, .exited) => (l.round h).moments
      | (_, .failed _) => (l.round h).moments
      | (l', .unfinished) => (l.round h).moments ++ moments rest l'

/-- The rounds of a run among others. -/
def roundsAmid : List (List Act) → Loop σ → List (Round ε)
  | [], _ => []
  | interlude :: rest, l =>
    let l := interlude.foldl perform l
    match l.run h 1 with
    | (_, .refused) => []
    | (l', .waiting) => roundsAmid rest l'
    | (_, .exited) => [l.round h]
    | (_, .failed _) => [l.round h]
    | (l', .unfinished) => l.round h :: roundsAmid rest l'

/-- What one attempt comes to, whatever the mailbox, and what that makes of the run, its rounds and
its trace, whatever interludes follow: the interlude before the attempt leaves the loop `m`. -/
inductive Attempt (interlude : List Act) (l m : Loop σ) : Prop where
  /-- Somebody else is draining the mailbox. -/
  | refused (waiting : m.mailbox.waiting ≠ none)
    (run_eq : ∀ rest, l.runAmid h (interlude :: rest) = (m, .refused))
    (rounds_eq : ∀ rest, l.roundsAmid h (interlude :: rest) = [])
    (moments_eq : ∀ rest, l.moments h (interlude :: rest) = interlude.map .outside)
  /-- Nothing is pending, and the loop waits. -/
  | waits (pending : m.mailbox.hasPending = false)
    (run_eq : ∀ rest, l.runAmid h (interlude :: rest)
      = if rest.isEmpty then (m, .waiting) else m.runAmid h rest)
    (rounds_eq : ∀ rest, l.roundsAmid h (interlude :: rest) = m.roundsAmid h rest)
    (moments_eq : ∀ rest, l.moments h (interlude :: rest)
      = interlude.map .outside ++ .waited :: m.moments h rest)
  /-- The run comes to its end with the cycle: a callback fails, or the cycle exits. -/
  | ends (pending : m.mailbox.hasPending = true) (ending : RunEnd ε)
    (ended : (∃ e, ending = .failed e) ∨ ending = .exited ∧ (m.round h).Exits)
    (run_eq : ∀ rest, l.runAmid h (interlude :: rest) = (m.dispatched h, ending))
    (rounds_eq : ∀ rest, l.roundsAmid h (interlude :: rest) = [m.round h])
    (moments_eq : ∀ rest, l.moments h (interlude :: rest)
      = interlude.map .outside ++ (m.round h).moments)
  /-- The run goes on after the cycle. -/
  | continues (pending : m.mailbox.hasPending = true) (stays : ¬(m.round h).Exits)
    (run_eq : ∀ rest, l.runAmid h (interlude :: rest) = (m.dispatched h).runAmid h rest)
    (rounds_eq : ∀ rest, l.roundsAmid h (interlude :: rest)
      = m.round h :: (m.dispatched h).roundsAmid h rest)
    (moments_eq : ∀ rest, l.moments h (interlude :: rest)
      = interlude.map .outside ++ ((m.round h).moments ++ (m.dispatched h).moments h rest))

variable {l : Loop σ}

theorem waiting_performAll (hw : l.mailbox.waiting = none) (acts : List Act) :
    (acts.foldl perform l).mailbox.waiting = none := by
  rw [mailbox_performAll]
  exact Mailbox.waiting_performAll hw acts

theorem attempt (interlude : List Act) (l : Loop σ) :
    l.Attempt h interlude (interlude.foldl perform l) := by
  by_cases hw : (interlude.foldl perform l).mailbox.waiting = none
  · cases hp : (interlude.foldl perform l).mailbox.hasPending with
    | false =>
      have hrun := run_of_not_hasPending h hw hp 0
      exact .waits hp (fun _ => by rw [runAmid, hrun]) (fun _ => by rw [roundsAmid, hrun])
        (fun _ => by rw [moments, hrun])
    | true =>
      cases begins h hw hp 0 with
      | fails e _ hrun _ =>
        exact .ends hp (.failed e) (.inl ⟨e, rfl⟩) (fun _ => by rw [runAmid, hrun])
          (fun _ => by rw [roundsAmid, hrun]) (fun _ => by rw [moments, hrun])
      | exits _ hx hrun _ =>
        exact .ends hp .exited (.inr ⟨rfl, hx⟩) (fun _ => by rw [runAmid, hrun])
          (fun _ => by rw [roundsAmid, hrun]) (fun _ => by rw [moments, hrun])
      | continues _ hx hrun _ =>
        exact .continues hp hx (fun _ => by rw [runAmid, hrun]; rfl)
          (fun _ => by rw [roundsAmid, hrun]; rfl) (fun _ => by rw [moments, hrun]; rfl)
  · have hrun := run_of_waiting h hw 0
    exact .refused hw (fun _ => by rw [runAmid, hrun]) (fun _ => by rw [roundsAmid, hrun])
      (fun _ => by rw [moments, hrun]; exact List.append_nil _)

/-- A run makes its first cycle, and goes on if that did not end it. -/
theorem run_succ (limit : Nat) :
    l.run h (limit + 1) =
      match l.run h 1 with
      | (l, .unfinished) => l.run h limit
      | ended => ended := by
  rw [run, run]
  rcases l.cycle h with ⟨l', _ | _ | kinds | e⟩
  · rfl
  · rfl
  · cases hexit : kinds.contains .disable && !l'.enabled with
    | true => simp only [hexit, if_true]
    | false => simp only [hexit, Bool.false_eq_true, if_false]; rfl
  · rfl

/-- Among others who do nothing, the loop runs as it does by itself. -/
theorem runAmid_replicate (hw : l.mailbox.waiting = none) (limit : Nat) :
    l.runAmid h (List.replicate limit []) = l.run h limit := by
  induction limit generalizing l with
  | zero => rfl
  | succ limit ih =>
    rw [List.replicate_succ, runAmid, List.foldl_nil, run_succ h limit]
    cases hp : l.mailbox.hasPending with
    | false =>
      -- An attempt that waits leaves everything as it was, and so do those after it.
      rw [run_of_not_hasPending h hw hp 0]
      cases limit with
      | zero => rfl
      | succ limit => exact (ih hw).trans (run_of_not_hasPending h hw hp limit)
    | true =>
      cases l.begins h hw hp 0 with
      | fails e _ hrun _ => rw [hrun]
      | exits _ _ hrun _ => rw [hrun]
      | continues _ _ hrun _ => rw [hrun]; exact ih (waiting_dispatched h hw)

end Loop

/-! ### Drains that wait -/

/-- A drain that waits has found an empty mailbox, and is kept there. -/
theorem Mailbox.waits_cases {m m' : Mailbox} {v : View} (h : m.drainInto v = .waits m') :
    m.waiting = none ∧ m.hasPending = false ∧ m' = { m with waiting := some v } := by
  by_cases hw : m.waiting = none
  · cases hp : m.hasPending with
    | true =>
      rw [drainInto_of_hasPending hw hp] at h
      cases h
    | false =>
      rw [drainInto_of_not_hasPending hw hp] at h
      exact ⟨hw, rfl, (Drain.waits.inj h).symm⟩
  · rw [drainInto_of_waiting hw] at h
    cases h

/-- **A waiting drain and a new attempt take the same.** The producer's step that completes a drain
hands over what a drain would take that begins after that step, and leaves the mailbox as that drain
would. -/
theorem Mailbox.drainInto_of_waits {m m' : Mailbox} {v : View} (h : m.drainInto v = .waits m')
    (s : Signal) :
    ∃ drained after, m'.post s = (after, some drained) ∧
      (m.post s).1.drainInto v = .took drained after := by
  obtain ⟨hw, -, rfl⟩ := waits_cases h
  -- With its drain taken off, the mailbox is again what the drain has found.
  have hfound : { m with waiting := none } = m := by rw [← hw]
  have hcompleted := post_of_waiting (m := { m with waiting := some v }) rfl s
  change _ = ((({ m with waiting := none }.record s).take v).2,
    some (({ m with waiting := none }.record s).take v).1) at hcompleted
  rw [hfound] at hcompleted
  refine ⟨_, _, hcompleted, ?_⟩
  rw [post_eq_record hw]
  exact drainInto_of_hasPending ((waiting_record m s).trans hw) (hasPending_record m s) v

/-- The rest of a cycle whose drain has taken this and has left the mailbox like this. -/
def Loop.resume {σ ε : Type} (h : Handler σ ε) (drained : Drained) (after : Mailbox) (l : Loop σ) :
    Loop σ × CycleEnd ε :=
  let consumer : Consumer := { view := drained.view, cycles := l.consumer.cycles + 1 }
  match deliver h drained.kinds drained.deliveries { l with mailbox := after, consumer } with
  | (l, none) => (l, .dispatched drained.kinds)
  | (l, some e) => (l, .failed e)

/-- A loop that waits, whose drain a producer completes, goes on as one that tries again after that
post. -/
theorem Loop.cycle_of_waits {σ ε : Type} (h : Handler σ ε) {l : Loop σ} {m : Mailbox}
    (hwaits : l.mailbox.drainInto l.consumer.view = .waits m) (s : Signal) :
    l.cycle h = (l, .waiting) ∧
      ∃ drained after, m.post s = (after, some drained) ∧
        (l.perform (.post s)).cycle h = l.resume h drained after := by
  refine ⟨by rw [cycle, hwaits], ?_⟩
  obtain ⟨drained, after, hpost, htook⟩ := Mailbox.drainInto_of_waits hwaits s
  refine ⟨drained, after, hpost, ?_⟩
  rw [cycle, perform, Mailbox.perform]
  simp only [htook]
  rfl

end SerialBridge
