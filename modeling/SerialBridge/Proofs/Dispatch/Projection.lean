import SerialBridge.Dispatch.Loop

/-!
# Handlers that remember less

What a handler does may depend on part of its state only. `Projects f h g` says so: whatever `h`
does in a state, `g` does in the state's image under `f`. The dispatch loop then goes the same way
with either handler (`Loop.run_map`), and only what is outside the image is lost.
-/

namespace SerialBridge

variable {σ τ ε : Type}

/-- The same reaction, with the image of its state. -/
def Reaction.map (f : σ → τ) (r : Reaction σ ε) : Reaction τ ε where
  state := f r.state
  acts := r.acts
  failure := r.failure

/-- The second handler does in the image of a state what the first does in that state. -/
def Projects (f : σ → τ) (h : Handler σ ε) (g : Handler τ ε) : Prop :=
  ∀ scene d x, g scene d (f x) = (h scene d x).map f

namespace Loop

/-- The same loop, with the image of its handler's state. -/
def map (f : σ → τ) (l : Loop σ) : Loop τ where
  mailbox := l.mailbox
  consumer := l.consumer
  enabled := l.enabled
  state := f l.state

variable {f : σ → τ} {h : Handler σ ε} {g : Handler τ ε}

/-- Acts concern the mailbox and the flag, and no state. -/
theorem map_performAll (f : σ → τ) (acts : List Act) (l : Loop σ) :
    (acts.foldl perform l).map f = acts.foldl perform (l.map f) := by
  induction acts generalizing l with
  | nil => rfl
  | cons a acts ih => exact ih (l.perform a)

/-- In a call both handlers are shown the same scene and leave the same acts behind. -/
theorem call_map (hproj : Projects f h g) (kinds : PendingSet) (d : Delivery)
    (rest : List Delivery) (l : Loop σ) :
    (l.map f).call g kinds d rest
      = ((l.call h kinds d rest).1.map f, (l.call h kinds d rest).2) := by
  have hreaction : g ⟨kinds, rest, l.mailbox, l.enabled⟩ d (l.map f).state
      = (h ⟨kinds, rest, l.mailbox, l.enabled⟩ d l.state).map f := hproj _ _ _
  rw [call, call]
  dsimp only
  rw [show (l.map f).mailbox = l.mailbox from rfl, show (l.map f).enabled = l.enabled from rfl,
    hreaction, map_performAll]
  rfl

/-- A round goes on, or breaks off, with both handlers alike. -/
theorem deliver_map (hproj : Projects f h g) (kinds : PendingSet) (ds : List Delivery)
    (l : Loop σ) :
    (l.map f).deliver g kinds ds
      = ((l.deliver h kinds ds).1.map f, (l.deliver h kinds ds).2) := by
  induction ds generalizing l with
  | nil => rfl
  | cons d rest ih =>
    have hcall := call_map hproj kinds d rest l
    -- The answer of the call says whether the round goes on, and it is the same for both.
    rw [deliver, deliver, hcall]
    generalize l.call h kinds d rest = answer
    obtain ⟨l', _ | e⟩ := answer
    · exact ih l'
    · rfl

/-- What is drained depends on the mailbox and the consumer, which both loops have in common. -/
theorem cycle_map (hproj : Projects f h g) (l : Loop σ) :
    (l.map f).cycle g = ((l.cycle h).1.map f, (l.cycle h).2) := by
  rw [cycle, cycle, show (l.map f).mailbox = l.mailbox from rfl,
    show (l.map f).consumer = l.consumer from rfl]
  cases l.mailbox.drainInto l.consumer.view with
  | refused => rfl
  | waits m => rfl
  | took drained mailbox =>
    let consumer : Consumer := { view := drained.view, cycles := l.consumer.cycles + 1 }
    have hdeliver : deliver g drained.kinds drained.deliveries { l.map f with mailbox, consumer }
        = ((deliver h drained.kinds drained.deliveries { l with mailbox, consumer }).1.map f,
          (deliver h drained.kinds drained.deliveries { l with mailbox, consumer }).2) :=
      deliver_map hproj drained.kinds drained.deliveries { l with mailbox, consumer }
    dsimp only
    rw [hdeliver]
    generalize deliver h drained.kinds drained.deliveries { l with mailbox, consumer } = answer
    obtain ⟨l', _ | e⟩ := answer <;> rfl

/-- **The loop goes the same way** with a handler that remembers less. -/
theorem run_map (hproj : Projects f h g) (limit : Nat) (l : Loop σ) :
    (l.map f).run g limit = ((l.run h limit).1.map f, (l.run h limit).2) := by
  induction limit generalizing l with
  | zero => rfl
  -- Whether there is another cycle is decided by the answer and the flag, and both are the same.
  | succ limit ih =>
    have hcycle := cycle_map hproj l
    rw [run, run, hcycle]
    generalize l.cycle h = answer
    obtain ⟨l', _ | _ | kinds | e⟩ := answer
    · rfl
    · rfl
    · dsimp only
      rw [show (l'.map f).enabled = l'.enabled from rfl]
      split
      · rfl
      · exact ih l'
    · rfl

end Loop

end SerialBridge
