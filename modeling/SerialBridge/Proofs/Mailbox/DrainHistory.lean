import SerialBridge.Proofs.Mailbox.Invariant

/-!
# A drain is a function of the history

The main statement is `Station.drain_coalesces_history`: whatever is done to a station, every
drain hands out exactly the signals posted since the drain before it, coalesced. Nothing of the
time before the previous drain can be seen in it.

The invariant is `Mailbox.Recorded`: the mailbox holds the signals posted since the latest drain,
and while a drain waits there are none. Each of the steps of a mailbox, recording a signal and
taking everything, appends one entry to the history and keeps it. Together with the room that
consumers have in their views it is an invariant of stations (`Station.Recorded.invariant`).
-/

namespace SerialBridge

/-- Splits off the last entry of a history at a drain. -/
private theorem append_singleton_eq_append_cons {α : Type} {xs before after : List α} {x y : α}
    (h : xs ++ [x] = before ++ y :: after) :
    (after = [] ∧ before = xs ∧ y = x) ∨
      ∃ rest, after = rest ++ [x] ∧ xs = before ++ y :: rest := by
  rcases List.eq_nil_or_concat after with rfl | ⟨rest, z, rfl⟩
  · obtain ⟨h₁, h₂⟩ := List.append_inj' h rfl
    exact .inl ⟨rfl, h₁.symm, (List.cons.inj h₂).1.symm⟩
  · rw [List.concat_eq_append, ← List.cons_append, ← List.append_assoc] at h
    obtain ⟨h₁, h₂⟩ := List.append_inj' h rfl
    exact .inr ⟨rest, by rw [List.concat_eq_append, (List.cons.inj h₂).1], h₁⟩

/-- What a list shows after one of its places was overwritten is the new value, or was there. -/
private theorem getElem?_set_cases {α : Type} {xs : List α} {i j : Nat} {new x : α}
    (h : (xs.set i new)[j]? = some x) : x = new ∨ xs[j]? = some x := by
  rw [List.getElem?_set] at h
  split at h
  · split at h
    · exact .inl (Option.some.inj h).symm
    · cases h
  · exact .inr h

/-! ### The mailbox -/

/-- What is known of a mailbox with the given capacity and history. -/
structure Mailbox.Recorded (m : Mailbox) (capacity : Nat) (history : List Entry) : Prop where
  /-- The mailbox has the capacity with which it was made. -/
  capacity_eq : m.capacity = capacity
  /-- It holds the signals posted since the latest drain. -/
  holds : m.Holds (sinceDrain history)
  /-- A waiting drain has room for every message, and nothing was posted since it began. -/
  waiting : ∀ v, m.waiting = some v → capacity ≤ v.room ∧ sinceDrain history = []
  /-- Every drain so far handed out what had been posted since the drain before it. -/
  drains : ∀ before taken after, history = before ++ .drained taken :: after →
    taken.Coalesces capacity (sinceDrain before)

namespace Mailbox.Recorded

variable {m : Mailbox} {capacity : Nat} {history : List Entry}

theorem blank (h : 0 < capacity) : (Mailbox.blank capacity h).Recorded capacity [] where
  capacity_eq := Snapshot.capacity_blank capacity h
  holds := holds_nil_iff.mpr rfl
  waiting := nofun
  drains := fun before taken after h => by simp at h

/-- The drains of a history that goes on with a signal are those of the history. -/
private theorem drains_posted (h : m.Recorded capacity history) (s : Signal)
    {before after : List Entry} {taken : Drained}
    (heq : history ++ [.posted s] = before ++ .drained taken :: after) :
    taken.Coalesces capacity (sinceDrain before) := by
  rcases append_singleton_eq_append_cons heq with ⟨-, -, habs⟩ | ⟨rest, -, heq⟩
  · cases habs
  · exact h.drains _ _ _ heq

/-- Recording a signal, while no drain waits. -/
theorem record (h : m.Recorded capacity history) (hw : m.waiting = none) (s : Signal) :
    (m.record s).Recorded capacity (history ++ [.posted s]) where
  capacity_eq := (capacity_record m s).trans h.capacity_eq
  holds := by rw [sinceDrain_posted]; exact h.holds.record s
  waiting := fun v hv => by rw [waiting_record, hw] at hv; cases hv
  drains := fun _ _ _ heq => h.drains_posted s heq

/-- Taking everything into a view with room, while no drain waits. -/
theorem take (h : m.Recorded capacity history) (hw : m.waiting = none) {v : View}
    (hv : capacity ≤ v.room) :
    (m.take v).2.Recorded capacity (history ++ [.drained (m.take v).1]) where
  capacity_eq := h.capacity_eq
  holds := by rw [sinceDrain_drained]; exact holds_take m v
  waiting := fun w hw' => by rw [waiting_take, hw] at hw'; cases hw'
  drains := fun before taken after heq => by
    rcases append_singleton_eq_append_cons heq with ⟨-, rfl, htaken⟩ | ⟨rest, -, heq⟩
    · obtain rfl := Entry.drained.inj htaken
      have hroom : min m.capacity v.room = capacity := by rw [h.capacity_eq]; omega
      exact hroom ▸ h.holds.coalesces_take v
    · exact h.drains _ _ _ heq

/-- A drain begins to wait. -/
theorem wait (h : m.Recorded capacity history) (hp : m.hasPending = false) {v : View}
    (hv : capacity ≤ v.room) : { m with waiting := some v }.Recorded capacity history where
  capacity_eq := h.capacity_eq
  holds := ⟨h.holds.kinds, h.holds.status, h.holds.message⟩
  waiting := fun w hw => by
    obtain rfl := Option.some.inj hw
    refine ⟨hv, Classical.not_not.mp fun hne => ?_⟩
    rw [(h.holds.hasPending_iff).mpr hne] at hp
    cases hp
  drains := h.drains

/-- A waiting drain is taken off the mailbox. -/
theorem rouse (h : m.Recorded capacity history) :
    { m with waiting := none }.Recorded capacity history where
  capacity_eq := h.capacity_eq
  holds := ⟨h.holds.kinds, h.holds.status, h.holds.message⟩
  waiting := nofun
  drains := h.drains

end Mailbox.Recorded

/-! ### The consumers -/

/-- What is known of a station with the given capacity and history. -/
structure Station.Recorded (x : Station) (capacity : Nat) (history : List Entry) : Prop where
  /-- The mailbox agrees with the history. -/
  mailbox : x.mailbox.Recorded capacity history
  /-- Every consumer has room for every message. -/
  consumers : ∀ (number : Nat) (c : Consumer), x.consumers[number]? = some c →
    capacity ≤ c.view.room

namespace Station.Recorded

variable {x : Station} {capacity : Nat} {history : List Entry}

theorem ofCapacity (h : 0 < capacity) : (Station.ofCapacity capacity h).Recorded capacity [] :=
  ⟨Mailbox.Recorded.blank h, fun _ _ hc => by simp [Station.ofCapacity] at hc⟩

/-- Handing a view with room to the consumer that waited. -/
private theorem wake (h : x.Recorded capacity history) {taken : Drained} {mailbox : Mailbox}
    {later : List Entry} (hm : mailbox.Recorded capacity later)
    (hroom : capacity ≤ taken.view.room) : (x.wake taken mailbox).Recorded capacity later := by
  refine ⟨hm, fun number c hc => ?_⟩
  cases hw : x.waiter with
  | none =>
    simp only [Station.wake, hw] at hc
    exact h.consumers number c hc
  | some n =>
    simp only [Station.wake, hw, List.getElem?_modify] at hc
    obtain ⟨b, hb, rfl⟩ := Option.map_eq_some_iff.mp hc
    -- The consumer that waited has a view of its own now, with the room of the drain's.
    split
    · exact hroom
    · exact h.consumers number b hb

/-- What happens to a station keeps it, if the views that moves bring along have room. -/
theorem invariant (capacity : Nat) :
    Invariant (capacity ≤ ·.room) fun x history _ => x.Recorded capacity history where
  fresh h := Nat.le_of_eq ((Mailbox.room_freshView _).trans h.mailbox.capacity_eq).symm
  record h hw s := ⟨h.mailbox.record hw s, h.consumers⟩
  take h hw _ _ hv := ⟨h.mailbox.take hw hv, h.consumers⟩
  serve {x _ _} h hw _ number consumer hc := by
    have hroom := h.consumers number consumer hc
    refine ⟨h.mailbox.take hw hroom, fun j c hj => ?_⟩
    rcases getElem?_set_cases hj with rfl | hj
    · exact (Mailbox.room_take x.mailbox consumer.view).symm ▸ hroom
    · exact h.consumers j c hj
  wait h _ hp _ hv := ⟨h.mailbox.wait hp hv, h.consumers⟩
  attend h _ hp number consumer hc :=
    ⟨h.mailbox.wait hp (h.consumers number consumer hc), h.consumers⟩
  complete h v hw s := by
    obtain ⟨hroom, -⟩ := h.mailbox.waiting v hw
    have hrecord := h.mailbox.rouse.record rfl s
    have htake := hrecord.take (Mailbox.waiting_record _ s) hroom
    rw [List.append_assoc] at htake
    exact h.wake htake ((Mailbox.room_take _ v).symm ▸ hroom)
  enlist h := by
    refine ⟨h.mailbox, fun number c hc => ?_⟩
    rw [List.getElem?_append] at hc
    split at hc
    · exact h.consumers number c hc
    · obtain rfl := List.mem_singleton.mp (List.mem_of_getElem? hc)
      exact Nat.le_of_eq ((Mailbox.room_freshView _).trans h.mailbox.capacity_eq).symm

end Station.Recorded

/-! ### Every drain tells the history -/

/-- Whether a move begins a drain: also a consumer's cycle, if there is the consumer. -/
def Move.Drains (x : Station) : Move → Prop
  | .post _ => False
  | .drain => True
  | .drainInto _ => True
  | .enlist => False
  | .dispatch number _ _ _ => number < x.consumers.length

namespace Station

/-- A drain that begins while something is pending ends at once. -/
theorem step_of_hasPending {x : Station} (hw : x.mailbox.waiting = none)
    (hp : x.mailbox.hasPending = true) {move : Move} (hmove : move.Drains x) :
    ∃ (taken : Drained) (posted : List Signal),
      (x.step move).2 = .drained taken :: posted.map .posted := by
  cases move with
  | post s => exact hmove.elim
  | drain => exact ⟨_, [], congrArg Prod.snd (conclude_of_hasPending hw hp none _)⟩
  | drainInto v => exact ⟨_, [], congrArg Prod.snd (conclude_of_hasPending hw hp none v)⟩
  | enlist => exact hmove.elim
  | dispatch number handler enabled state =>
    have hc := List.getElem?_eq_getElem hmove
    exact ⟨_, _, congrArg Prod.snd (dispatch_of_hasPending hc hw hp handler enabled state)⟩

/-- A drain that begins while nothing is pending waits. -/
theorem step_of_not_hasPending {x : Station} (hw : x.mailbox.waiting = none)
    (hp : x.mailbox.hasPending = false) {move : Move} (hmove : move.Drains x) :
    (x.step move).1.mailbox.isDraining = true ∧ (x.step move).2 = [] := by
  have hwait (waiter : Option Nat) (v : View) :
      (x.conclude waiter (x.mailbox.drainInto v)).1.mailbox.isDraining = true ∧
        (x.conclude waiter (x.mailbox.drainInto v)).2 = [] := by
    rw [conclude_of_not_hasPending hw hp]
    exact ⟨rfl, rfl⟩
  cases move with
  | post s => exact hmove.elim
  | drain => exact hwait none _
  | drainInto v => exact hwait none v
  | enlist => exact hmove.elim
  | dispatch number handler enabled state =>
    have hc := List.getElem?_eq_getElem hmove
    rw [step, dispatch_of_not_hasPending hc hw hp handler enabled state]
    exact hwait (some number) _

/-- **A drain is a function of the history since the previous drain.** For every capacity and
every run of moves:

* What a drain hands out coalesces the signals posted since the drain before it.
* Something is pending exactly if something was posted since the latest drain.
* Unless a drain waits already, a drain ends at once if something is pending, and waits if not.
* A drain that waits ends at the very next signal, and hands out that signal alone. -/
theorem drain_coalesces_history {capacity : Nat} (hpos : 0 < capacity) (moves : List Move)
    (hroom : ∀ v, .drainInto v ∈ moves → capacity ≤ v.room) :
    let x := ((ofCapacity capacity hpos).run moves).1
    let history := ((ofCapacity capacity hpos).run moves).2
    (∀ before taken after, history = before ++ .drained taken :: after →
        taken.Coalesces capacity (sinceDrain before)) ∧
      (x.mailbox.hasPending = true ↔ sinceDrain history ≠ []) ∧
      (x.mailbox.isDraining = false → ∀ move, move.Drains x →
        if x.mailbox.hasPending then
          ∃ (taken : Drained) (posted : List Signal),
            (x.step move).2 = .drained taken :: posted.map .posted
        else (x.step move).1.mailbox.isDraining = true ∧ (x.step move).2 = []) ∧
      (x.mailbox.isDraining = true → ∀ s, ∃ taken,
        (x.step (.post s)).2 = [.posted s, .drained taken] ∧ taken.Coalesces capacity [s]) := by
  intro x history
  have inv := Recorded.invariant capacity
  have h : x.Recorded capacity history := inv.run (d := 0) (.ofCapacity hpos) moves hroom
  refine ⟨h.mailbox.drains, h.mailbox.holds.hasPending_iff, fun hd move hmove => ?_, fun hd s => ?_⟩
  · have hw : x.mailbox.waiting = none := by simpa [Mailbox.isDraining] using hd
    split
    · next hp => exact step_of_hasPending hw hp hmove
    · next hp => exact step_of_not_hasPending hw (Bool.not_eq_true _ |>.mp hp) hmove
  · obtain ⟨v, hw⟩ := Option.isSome_iff_exists.mp hd
    -- Since the drain waits, nothing was posted before the signal that ends it.
    obtain ⟨-, hquiet⟩ := h.mailbox.waiting v hw
    have hentries : (x.step (.post s)).2
        = [.posted s, .drained (({ x.mailbox with waiting := none }.record s).take v).1] := by
      rw [step, post, Mailbox.post_of_waiting hw]
    have hpost := (inv.post (d := 0) h s).mailbox.drains (history ++ [.posted s]) _ [] (by
      rw [show (x.post s).2 = _ from hentries, List.append_assoc]; rfl)
    rw [sinceDrain_posted, hquiet] at hpost
    exact ⟨_, hentries, hpost⟩

/-- Two statuses and a message that is too long, drained into a view with room to spare. -/
theorem drain_coalesces_three_reports :
    let moves : List Move := [.post (.status 1), .post (.message [7, 8, 9]), .post (.status 2),
      .drainInto (.blank 3 (by decide))]
    (∀ v, .drainInto v ∈ moves → 2 ≤ v.room) ∧
      ∃ taken, ((ofCapacity 2 (by decide)).run moves).2
          = [.posted (.status 1), .posted (.message [7, 8, 9]), .posted (.status 2),
            .drained taken] ∧
        taken.view.status = some 2 ∧ taken.view.message?.map Snapshot.bytes = some [7, 8] := by
  intro moves
  have hroom : ∀ v, .drainInto v ∈ moves → 2 ≤ v.room := by
    intro v hv
    obtain rfl : v = .blank 3 (by decide) := by simpa [moves] using hv
    decide
  have hdrain := (drain_coalesces_history (by decide) moves hroom).1
    [.posted (.status 1), .posted (.message [7, 8, 9]), .posted (.status 2)] _ [] rfl
  exact ⟨hroom, _, rfl, hdrain.status, hdrain.message⟩

end Station

end SerialBridge
