import SerialBridge.Proofs.Dispatch.Stop

/-!
# Stray disable requests

Anybody with a control may ask for a disable at any time, also while nobody means to end the loop.
Such a request is **stray**. With the flag set it cannot end the loop; what is left of it is a
count, and now and then a drain that found nothing else.

A mailbox that differs from another in what stray requests do to it is `nudged`. A loop that runs
among others who post stray requests, between its drains and during its callbacks, keeps up with one
that has the mailbox to itself: it makes the same calls, and a cycle more whenever a stray request
finds the mailbox empty (`Loop.Nudged.runAmid`). Once no more of them come in, it comes to rest
(`Loop.Nudged.exists_runAmid_waits`). The handler must not care about disable requests and must
leave the flag alone (`Steady`).
-/

namespace SerialBridge

/-! ### Mailboxes -/

/-- What stray requests have done to a mailbox. -/
structure Nudge where
  /-- A disable request is pending on their account. -/
  noted : Bool := false
  /-- How many of them were counted. -/
  requests : UInt64 := 0
  /-- How many drains they brought about. -/
  drains : UInt64 := 0

/-- The counters when stray requests are counted too. -/
def Tally.nudged (t : Tally) (x : Nudge) : Tally :=
  { t with disableRequests := t.disableRequests + x.requests, drains := t.drains + x.drains }

namespace PendingSet

/-- The disable request is the last to be dispatched. -/
theorem toList_insert_disable (s : PendingSet) :
    (s.insert .disable).toList = s.toList ++ if .disable ∈ s then [] else [.disable] := by
  obtain ⟨b⟩ := s
  revert b
  decide

end PendingSet

namespace Mailbox

/-- The mailbox when stray requests have been posted to it too. -/
def nudged (m : Mailbox) (x : Nudge) : Mailbox :=
  { m with
    pending := if x.noted then m.pending.insert .disable else m.pending
    tally := m.tally.nudged x }

variable {m : Mailbox} {v v' : View}

/-- Where there were no stray requests, nothing is different. -/
@[simp] theorem nudged_default (m : Mailbox) : m.nudged {} = m := by
  simp [nudged, Tally.nudged]

@[simp] theorem waiting_nudged (m : Mailbox) (x : Nudge) : (m.nudged x).waiting = m.waiting := rfl

theorem mem_pending_nudged {x : Nudge} {k : EventKind} :
    k ∈ (m.nudged x).pending ↔ k ∈ m.pending ∨ x.noted = true ∧ .disable = k := by
  rw [nudged]
  cases x.noted <;> simp

theorem contains_nudged {x : Nudge} {k : EventKind} (hk : k ≠ .disable) :
    (m.nudged x).pending.contains k = m.pending.contains k := by
  rw [Bool.eq_iff_iff, ← PendingSet.mem_iff, ← PendingSet.mem_iff, mem_pending_nudged]
  simp [Ne.symm hk]

/-- What is posted besides is recorded in the same way. -/
theorem record_nudged (m : Mailbox) (x : Nudge) (sig : Signal) :
    (m.nudged x).record sig = (m.record sig).nudged x := by
  obtain ⟨noted, requests, drains⟩ := x
  cases sig with
  | status code =>
    cases noted <;>
      simp [record, nudged, Tally.nudged, PendingSet.record, Signal.kind,
        PendingSet.contains_insert, PendingSet.insert_comm m.pending .disable]
  | message payload =>
    cases noted <;>
      simp [record, nudged, Tally.nudged, PendingSet.record, Signal.kind,
        PendingSet.contains_insert, PendingSet.insert_comm m.pending .disable]
  | disable =>
    have hcount : m.tally.disableRequests + requests + 1
        = m.tally.disableRequests + 1 + requests := by
      rw [UInt64.add_assoc, UInt64.add_comm requests, UInt64.add_assoc]
    cases noted <;>
      simp [record, nudged, Tally.nudged, PendingSet.record, Signal.kind, hcount]

/-- A stray request is posted. -/
theorem record_disable_nudged (m : Mailbox) (x : Nudge) :
    (m.nudged x).record .disable
      = m.nudged { x with noted := true, requests := x.requests + 1 } := by
  obtain ⟨noted, requests, drains⟩ := x
  cases noted <;>
    simp [record, nudged, Tally.nudged, PendingSet.record, Signal.kind, PendingSet.insert_idem,
      UInt64.add_assoc]

theorem hasPending_eq_false_iff {m : Mailbox} : m.hasPending = false ↔ m.pending = ∅ := by
  rw [hasPending, Bool.not_eq_false', PendingSet.isEmpty_iff]

/-- A drain takes the stray request together with the rest. -/
theorem take_nudged (m : Mailbox) (x : Nudge) (v v' : View) :
    ((m.nudged x).take v').2 = (m.take v).2.nudged { x with noted := false } := by
  have hcount : m.tally.drains + x.drains + 1 = m.tally.drains + 1 + x.drains := by
    rw [UInt64.add_assoc, UInt64.add_comm x.drains, UInt64.add_assoc]
  simp [take, nudged, Tally.nudged, PendingSet.take, hcount]

/-- A drain takes a stray request and finds nothing else. -/
theorem take_nudged_of_empty (hm : m.pending = ∅) (x : Nudge) (v : View) :
    ((m.nudged x).take v).2 = m.nudged { x with noted := false, drains := x.drains + 1 } := by
  simp [take, nudged, Tally.nudged, PendingSet.take, hm, UInt64.add_assoc]

/-- A stray request is taken, and what is posted after it stays, instead of the other way round. -/
theorem record_take_nudged (hm : m.pending = ∅) (x : Nudge) (v v' : View) :
    ((m.nudged x).take v').2.record .disable
      = ((m.record .disable).take v).2.nudged { x with noted := true } := by
  rw [take_nudged m x v v', record_nudged]
  simp [take, record, nudged, Tally.nudged, PendingSet.take, PendingSet.record, Signal.kind, hm]

/-- The values are the same. -/
theorem fill_nudged (m : Mailbox) (x : Nudge) (hv : v'.reset = v.reset) :
    (m.nudged x).fill v' = m.fill v := by
  have hstatus : (m.nudged x).pending.contains .status = m.pending.contains .status :=
    contains_nudged (by decide)
  have hmessage : (m.nudged x).pending.contains .message = m.pending.contains .message :=
    contains_nudged (by decide)
  rw [fill, fill, hv, hstatus, hmessage]
  rfl

/-- The callbacks are the same, but for one more if only the stray request asks for it. -/
theorem deliveries_nudged (m : Mailbox) (x : Nudge) (hv : v'.reset = v.reset) :
    ((m.nudged x).take v').1.deliveries = (m.take v).1.deliveries ∨
      ((m.nudged x).take v').1.deliveries = (m.take v).1.deliveries ++ [.disable] := by
  have hview : ((m.nudged x).take v').1.view = (m.take v).1.view := fill_nudged m x hv
  have hkinds : ((m.nudged x).take v').1.kinds
      = if x.noted then m.pending.insert .disable else m.pending := rfl
  rw [Drained.deliveries, Drained.deliveries, hview, hkinds, kinds_take]
  split
  · rw [PendingSet.toList_insert_disable, List.filterMap_append]
    split
    · exact .inl (List.append_nil _)
    · exact .inr rfl
  · exact .inl rfl

end Mailbox

/-! ### Handlers -/

variable {σ ε : Type}

/-- The handler does not care in which scene it is called, does nothing about disable requests and
leaves the flag alone. -/
structure Steady (h : Handler σ ε) : Prop where
  /-- The scene makes no difference. -/
  scene : ∀ scene scene' d x, h scene d x = h scene' d x
  /-- Nothing is done about a disable request. -/
  disable : ∀ scene x, h scene .disable x = { state := x }
  /-- The flag is left alone. -/
  flag : ∀ scene d x value, .setEnabled value ∉ (h scene d x).acts

/-- The second handler does what the first does, while others post stray requests. -/
def Beset (h h' : Handler σ ε) : Prop :=
  ∀ scene d x, ∃ acts, h' scene d x = { h scene d x with acts } ∧
    acts.filter (· ≠ .post .disable) = (h scene d x).acts

theorem Beset.refl {h : Handler σ ε} (hposts : ∀ scene d x, .post .disable ∉ (h scene d x).acts) :
    Beset h h := by
  refine fun scene d x => ⟨(h scene d x).acts, rfl, List.filter_eq_self.mpr fun a ha => ?_⟩
  have hother : a ≠ .post .disable := by
    rintro rfl
    exact hposts scene d x ha
  simpa using hother

namespace Loop

/-- No callback makes a drain wait. -/
theorem waiting_call {l : Loop σ} (hw : l.mailbox.waiting = none) (h : Handler σ ε)
    (kinds : PendingSet) (d : Delivery) (rest : List Delivery) :
    (l.call h kinds d rest).1.mailbox.waiting = none := by
  rw [call]
  dsimp only
  rw [mailbox_performAll]
  exact Mailbox.waiting_performAll (m := l.mailbox) hw _

/-- The second loop is the first, but for what stray requests have done to its mailbox. -/
structure Nudged (l l' : Loop σ) : Prop where
  /-- The mailbox is nudged. -/
  mailbox : ∃ x : Nudge, l'.mailbox = l.mailbox.nudged x
  /-- The views differ in what a drain resets. -/
  view : l'.consumer.view.reset = l.consumer.view.reset
  /-- The flag is the same. -/
  enabled : l'.enabled = l.enabled
  /-- The handler's state is the same. -/
  state : l'.state = l.state

variable {h h' : Handler σ ε} {l l' : Loop σ}

namespace Nudged

theorem refl (l : Loop σ) : Nudged l l := ⟨⟨{}, (Mailbox.nudged_default _).symm⟩, rfl, rfl, rfl⟩

theorem waiting (hl : Nudged l l') (hw : l.mailbox.waiting = none) :
    l'.mailbox.waiting = none := by
  obtain ⟨x, hx⟩ := hl.mailbox
  rw [hx]
  exact hw

/-- If nothing is pending in the second mailbox, nothing is pending in the first. -/
theorem not_hasPending (hl : Nudged l l') (hp : l'.mailbox.hasPending = false) :
    l.mailbox.hasPending = false := by
  obtain ⟨x, hx⟩ := hl.mailbox
  rw [Mailbox.hasPending_eq_false_iff] at hp ⊢
  ext k
  have hmem : k ∈ l.mailbox.pending → k ∈ l'.mailbox.pending := fun hk => by
    rw [hx]
    exact Mailbox.mem_pending_nudged.mpr (.inl hk)
  rw [hp] at hmem
  exact ⟨hmem, fun hk => absurd hk (PendingSet.not_mem_empty k)⟩

/-- If something is pending in the first mailbox, something is pending in the second. -/
theorem hasPending (hl : Nudged l l') (hp : l.mailbox.hasPending = true) :
    l'.mailbox.hasPending = true := by
  cases hp' : l'.mailbox.hasPending with
  | true => rfl
  | false => exact absurd (hp.symm.trans (hl.not_hasPending hp')) (by decide)

/-- A stray request is posted. -/
theorem stray (hl : Nudged l l') (hw : l.mailbox.waiting = none) :
    Nudged l (l'.perform (.post .disable)) := by
  obtain ⟨x, hx⟩ := hl.mailbox
  refine ⟨⟨{ x with noted := true, requests := x.requests + 1 }, ?_⟩, hl.view, hl.enabled, hl.state⟩
  show (l'.mailbox.post .disable).1 = _
  rw [Mailbox.post_eq_record (hl.waiting hw), hx, Mailbox.record_disable_nudged]

/-- Both loops carry out an act. -/
theorem perform (hl : Nudged l l') (hw : l.mailbox.waiting = none) (a : Act) :
    Nudged (l.perform a) (l'.perform a) := by
  have henabled : a.flag l'.enabled = a.flag l.enabled := by rw [hl.enabled]
  refine ⟨?_, hl.view, henabled, hl.state⟩
  obtain ⟨x, hx⟩ := hl.mailbox
  refine ⟨x, ?_⟩
  cases a with
  | post sig =>
    show (l'.mailbox.post sig).1 = (l.mailbox.post sig).1.nudged x
    rw [Mailbox.post_eq_record (hl.waiting hw), Mailbox.post_eq_record hw, hx,
      Mailbox.record_nudged]
  | setEnabled value => exact hx

/-- The second loop carries out the same acts as the first, and stray requests come in between. -/
theorem performAll (hl : Nudged l l') (hw : l.mailbox.waiting = none) (acts : List Act) :
    Nudged ((acts.filter (· ≠ .post .disable)).foldl Loop.perform l)
      (acts.foldl Loop.perform l') := by
  induction acts generalizing l l' with
  | nil => exact hl
  | cons a acts ih =>
    by_cases ha : a = .post .disable
    · rw [List.filter_cons_of_neg (by simp [ha]), ha]
      exact ih (hl.stray hw) hw
    · rw [List.filter_cons_of_pos (by simp [ha])]
      exact ih (hl.perform hw a) (waiting_performAll hw [a])

/-- Nothing but stray requests comes in. -/
theorem strays (hl : Nudged l l') (hw : l.mailbox.waiting = none) {acts : List Act}
    (hacts : ∀ a ∈ acts, a = .post .disable) : Nudged l (acts.foldl Loop.perform l') := by
  have hnone : acts.filter (· ≠ .post .disable) = [] :=
    List.filter_eq_nil_iff.mpr fun a ha => by simp [hacts a ha]
  have hall := hl.performAll hw acts
  rwa [hnone] at hall

/-- A callback that both handlers are called for. -/
theorem call (hl : Nudged l l') (hw : l.mailbox.waiting = none) (hs : Steady h) (hb : Beset h h')
    (kinds kinds' : PendingSet) (d : Delivery) (rest rest' : List Delivery) :
    Nudged (l.call h kinds d rest).1 (l'.call h' kinds' d rest').1 ∧
      (l'.call h' kinds' d rest').2 = (l.call h kinds d rest).2 := by
  obtain ⟨acts, hreaction, hacts⟩ := hb ⟨kinds', rest', l'.mailbox, l'.enabled⟩ d l'.state
  have hsame : h ⟨kinds', rest', l'.mailbox, l'.enabled⟩ d l'.state
      = h ⟨kinds, rest, l.mailbox, l.enabled⟩ d l.state := by
    rw [hl.state]
    exact hs.scene _ _ d l.state
  rw [hsame] at hreaction hacts
  rw [Loop.call, Loop.call]
  dsimp only
  rw [hreaction, ← hacts]
  have hnext : Nudged
      { l with state := (h ⟨kinds, rest, l.mailbox, l.enabled⟩ d l.state).state }
      { l' with state := (h ⟨kinds, rest, l.mailbox, l.enabled⟩ d l.state).state } :=
    ⟨hl.mailbox, hl.view, hl.enabled, rfl⟩
  exact ⟨hnext.performAll hw acts, rfl⟩

/-- A callback for a stray request, which only the second handler is called for. -/
theorem call_disable (hl : Nudged l l') (hw : l.mailbox.waiting = none) (hs : Steady h)
    (hb : Beset h h') (kinds : PendingSet) (rest : List Delivery) :
    Nudged l (l'.call h' kinds .disable rest).1 ∧ (l'.call h' kinds .disable rest).2 = none := by
  obtain ⟨acts, hreaction, hacts⟩ := hb ⟨kinds, rest, l'.mailbox, l'.enabled⟩ .disable l'.state
  rw [hs.disable] at hreaction hacts
  have hstrays : ∀ a ∈ acts, a = .post .disable := fun a ha => by
    have hdropped := List.filter_eq_nil_iff.mp hacts a ha
    simpa using hdropped
  rw [Loop.call]
  dsimp only
  rw [hreaction]
  exact ⟨hl.strays hw hstrays, rfl⟩

/-- The callbacks of a cycle, of which the second loop may have one more for a stray request. -/
theorem deliver (hl : Nudged l l') (hw : l.mailbox.waiting = none) (hs : Steady h)
    (hb : Beset h h') (kinds kinds' : PendingSet) {ds ds' : List Delivery}
    (hds : ds' = ds ∨ ds' = ds ++ [.disable]) (hok : (deliver h kinds ds l).2 = none) :
    Nudged (deliver h kinds ds l).1 (Loop.deliver h' kinds' ds' l').1 ∧
      (Loop.deliver h' kinds' ds' l').2 = none := by
  induction ds generalizing l l' ds' with
  | nil =>
    rcases hds with rfl | rfl
    · exact ⟨hl, rfl⟩
    · obtain ⟨hcalled, hdone⟩ := hl.call_disable hw hs hb kinds' []
      rw [List.nil_append, (deliver_cons_of_success h' hdone).1]
      exact ⟨hcalled, rfl⟩
  | cons d ds ih =>
    obtain ⟨rest, rfl, hrest⟩ :
        ∃ rest, ds' = d :: rest ∧ (rest = ds ∨ rest = ds ++ [.disable]) := by
      rcases hds with rfl | rfl
      · exact ⟨ds, rfl, .inl rfl⟩
      · exact ⟨ds ++ [.disable], rfl, .inr rfl⟩
    obtain ⟨hcalled, hsame⟩ := hl.call hw hs hb kinds kinds' d ds rest
    cases hdone : (l.call h kinds d ds).2 with
    | some e =>
      rw [(deliver_cons_of_failure h hdone).1] at hok
      cases hok
    | none =>
      have hdone' : (l'.call h' kinds' d rest).2 = none := hsame.trans hdone
      rw [(deliver_cons_of_success h hdone).1] at hok ⊢
      rw [(deliver_cons_of_success h' hdone').1]
      exact ih hcalled (waiting_call hw h kinds d ds) hrest hok

end Nudged

/-- A loop whose callbacks all succeed when it drains what is pending now. -/
def Serves (h : Handler σ ε) (l : Loop σ) : Prop :=
  (deliver h l.taken.kinds l.taken.deliveries l.drained).2 = none

namespace Nudged

/-- **A cycle of both loops.** -/
theorem dispatched (hl : Nudged l l') (hw : l.mailbox.waiting = none) (hs : Steady h)
    (hb : Beset h h') (hok : l.Serves h) :
    Nudged (l.dispatched h) (l'.dispatched h') ∧ l'.Serves h' := by
  obtain ⟨x, hx⟩ := hl.mailbox
  have hview : l'.taken.view = l.taken.view := by
    rw [taken, hx]
    exact Mailbox.fill_nudged l.mailbox x hl.view
  have hdrained : Nudged l.drained l'.drained := by
    refine ⟨⟨{ x with noted := false }, ?_⟩, congrArg View.reset hview, hl.enabled, hl.state⟩
    rw [drained, hx]
    exact Mailbox.take_nudged l.mailbox x l.consumer.view l'.consumer.view
  refine hdrained.deliver hw hs hb l.taken.kinds l'.taken.kinds ?_ hok
  rw [taken, taken, hx]
  exact Mailbox.deliveries_nudged l.mailbox x hl.view

/-- **A cycle of the second loop alone**, for a stray request that found the mailbox empty. -/
theorem idle (hl : Nudged l l') (hw : l.mailbox.waiting = none) (hp : l.mailbox.pending = ∅)
    (hs : Steady h) (hb : Beset h h') : Nudged l (l'.dispatched h') ∧ l'.Serves h' := by
  obtain ⟨x, hx⟩ := hl.mailbox
  have hview : l'.taken.view.reset = l.consumer.view.reset := by
    rw [taken, hx]
    refine (congrArg View.reset (Mailbox.fill_nudged l.mailbox x hl.view)).trans ?_
    simp [Mailbox.fill, hp, View.reset, Snapshot.clear]
  have hdrained : Nudged l l'.drained := by
    refine ⟨⟨{ x with noted := false, drains := x.drains + 1 }, ?_⟩, hview, hl.enabled, hl.state⟩
    rw [drained, hx]
    exact Mailbox.take_nudged_of_empty hp x l'.consumer.view
  have hnone : (l.mailbox.take l.consumer.view).1.deliveries = [] := by
    rw [Drained.deliveries, Mailbox.kinds_take, hp]
    rfl
  have hdeliveries := Mailbox.deliveries_nudged l.mailbox x hl.view
  rw [hnone, ← hx] at hdeliveries
  exact hdrained.deliver hw hs hb ∅ l'.taken.kinds hdeliveries rfl

end Nudged

/-- A handler that leaves the flag alone does so in a cycle. -/
theorem enabled_dispatched_of_steady (hs : Steady h) (l : Loop σ) :
    (l.dispatched h).enabled = l.enabled := by
  rw [enabled_dispatched]
  have hnone (value : Bool) : .setEnabled value ∉ (l.round h).acts := fun hmem => by
    obtain ⟨scene, d, x, hact⟩ := exists_call_of_mem_acts hmem
    exact hs.flag scene d x value hact
  generalize (l.round h).acts = acts at hnone
  induction acts with
  | nil => rfl
  | cons a acts ih =>
    have hrest (value : Bool) : .setEnabled value ∉ acts := fun hmem =>
      hnone value (List.mem_cons_of_mem a hmem)
    cases a with
    | post sig => exact ih hrest
    | setEnabled value => exact absurd List.mem_cons_self (hnone value)

/-- A run of a loop that has nothing to drain leaves it as it is. -/
theorem run_of_rest (hw : l.mailbox.waiting = none) (hp : l.mailbox.hasPending = false)
    (limit : Nat) : (l.run h limit).1 = l := by
  cases limit with
  | zero => rfl
  | succ limit => rw [run_of_not_hasPending h hw hp]

/-- With the flag set, a run goes on after a cycle whose callbacks succeed. -/
theorem run_of_serves (hw : l.mailbox.waiting = none) (hp : l.mailbox.hasPending = true)
    (hok : l.Serves h) (henabled : (l.dispatched h).enabled = true) (limit : Nat) :
    l.run h (limit + 1) = (l.dispatched h).run h limit := by
  have hcycle : l.cycle h = (l.dispatched h, .dispatched l.taken.kinds) := by
    rw [cycle_of_hasPending h hw hp, show (deliver h _ _ _).2 = none from hok]
    rfl
  rw [run, hcycle]
  simp [henabled]

/-- A run that does not fail has a first cycle whose callbacks succeed. -/
theorem serves_of_run (hw : l.mailbox.waiting = none) (hp : l.mailbox.hasPending = true)
    {limit : Nat} (hok : ∀ e, (l.run h (limit + 1)).2 ≠ .failed e) : l.Serves h := by
  have hcycle := cycle_of_hasPending h hw hp
  rw [Serves]
  cases hdelivered : (deliver h l.taken.kinds l.taken.deliveries l.drained).2 with
  | none => rfl
  | some e =>
    rw [hdelivered] at hcycle
    refine absurd ?_ (hok e)
    rw [run, hcycle]
    rfl

/-- By itself and with the flag set, the loop comes to rest within so many cycles, and no callback
fails. -/
structure Settles (h : Handler σ ε) (limit : Nat) (l : Loop σ) : Prop where
  /-- No drain waits yet. -/
  waiting : l.mailbox.waiting = none
  /-- The flag is set. -/
  enabled : l.enabled = true
  /-- No callback fails. -/
  succeeds : ∀ e, (l.run h limit).2 ≠ .failed e
  /-- Nothing is left pending. -/
  rest : (l.run h limit).1.mailbox.hasPending = false

/-- What is left to do after a cycle takes a cycle less. -/
theorem Settles.dispatched {limit : Nat} (hl : l.Settles h limit) (hs : Steady h)
    (hp : l.mailbox.hasPending = true) :
    l.Serves h ∧ ∃ limit', limit = limit' + 1 ∧ l.run h limit = (l.dispatched h).run h limit' ∧
      (l.dispatched h).Settles h limit' := by
  cases limit with
  | zero => exact absurd (hl.rest.symm.trans hp) (by decide)
  | succ limit =>
    have hserves : l.Serves h := serves_of_run hl.waiting hp hl.succeeds
    have hstill : (l.dispatched h).enabled = true :=
      (enabled_dispatched_of_steady hs l).trans hl.enabled
    have hrun := run_of_serves hl.waiting hp hserves hstill limit
    exact ⟨hserves, limit, rfl, hrun, waiting_dispatched h hl.waiting, hstill,
      hrun ▸ hl.succeeds, hrun ▸ hl.rest⟩

namespace Nudged

variable {limit : Nat}

/-- A cycle of the second loop alone, which has nothing but a stray request to take. -/
theorem cycle_alone (hl : Nudged l l') (hw : l.mailbox.waiting = none) (henabled : l.enabled = true)
    (hs : Steady h) (hb : Beset h h') (hp : l.mailbox.hasPending = false)
    (hp' : l'.mailbox.hasPending = true) :
    Nudged l (l'.dispatched h') ∧
      ∀ n, l'.run h' (n + 1) = (l'.dispatched h').run h' n := by
  obtain ⟨hnext, hserves⟩ := hl.idle hw (Mailbox.hasPending_eq_false_iff.mp hp) hs hb
  have hstill : (l'.dispatched h').enabled = true := hnext.enabled.trans henabled
  exact ⟨hnext, run_of_serves (hl.waiting hw) hp' hserves hstill⟩

/-- A cycle of both loops. What the first has left to do takes a cycle less. -/
theorem cycle_both (hl : Nudged l l') (hsettles : l.Settles h limit) (hs : Steady h)
    (hb : Beset h h') (hp : l.mailbox.hasPending = true) :
    ∃ limit', limit = limit' + 1 ∧ l.run h limit = (l.dispatched h).run h limit' ∧
      (l.dispatched h).Settles h limit' ∧ Nudged (l.dispatched h) (l'.dispatched h') ∧
      ∀ n, l'.run h' (n + 1) = (l'.dispatched h').run h' n := by
  obtain ⟨hserves, limit', hlimit, hrun, hrest⟩ := hsettles.dispatched hs hp
  obtain ⟨hnext, hserves'⟩ := hl.dispatched hsettles.waiting hs hb hserves
  have hstill : (l'.dispatched h').enabled = true := hnext.enabled.trans hrest.enabled
  have hrun' := run_of_serves (hl.waiting hsettles.waiting) (hl.hasPending hp) hserves' hstill
  exact ⟨limit', hlimit, hrun, hrest, hnext, hrun'⟩

/-- **A cycle of the second loop** is one of the first too, or takes nothing but a stray request. -/
theorem cycle (hl : Nudged l l') (hsettles : l.Settles h limit) (hs : Steady h) (hb : Beset h h')
    (hp' : l'.mailbox.hasPending = true) :
    ∃ l₁ limit₁, (l₁.run h limit₁).1 = (l.run h limit).1 ∧ l₁.Settles h limit₁ ∧
      Nudged l₁ (l'.dispatched h') ∧ ∀ n, l'.run h' (n + 1) = (l'.dispatched h').run h' n := by
  cases hp : l.mailbox.hasPending with
  | false =>
    have hcycle := hl.cycle_alone hsettles.waiting hsettles.enabled hs hb hp hp'
    exact ⟨l, limit, rfl, hsettles, hcycle⟩
  | true =>
    obtain ⟨limit', -, hrun, hcycle⟩ := hl.cycle_both hsettles hs hb hp
    exact ⟨l.dispatched h, limit', congrArg Prod.fst hrun.symm, hcycle⟩

/-- **Stray requests among a run.** Let the first loop come to rest by itself. If others post stray
requests to the second loop's mailbox, between its attempts to drain and during its callbacks, it
comes to rest as well, and is still what the first is but for what stray requests do. It does not
exit.

The induction is on the interludes. An attempt of the second loop is a cycle, or waits. -/
theorem runAmid (hl : Nudged l l') (hsettles : l.Settles h limit) (hs : Steady h)
    (hb : Beset h h') {interludes : List (List Act)}
    (hstrays : ∀ interlude ∈ interludes, ∀ a ∈ interlude, a = .post .disable)
    (hfinished : ∀ left, l'.runAmid h' interludes ≠ (left, .unfinished)) :
    Nudged (l.run h limit).1 (l'.runAmid h' interludes).1 ∧
      ∃ left, l'.runAmid h' interludes = (left, .waiting) := by
  induction interludes generalizing l l' limit with
  | nil => exact absurd rfl (hfinished l')
  | cons interlude interludes ih =>
    replace hl := hl.strays hsettles.waiting (hstrays interlude List.mem_cons_self)
    replace hstrays : ∀ interlude ∈ interludes, ∀ a ∈ interlude, a = .post .disable :=
      fun interlude hmem => hstrays interlude (List.mem_cons_of_mem _ hmem)
    rw [Loop.runAmid] at hfinished ⊢
    generalize interlude.foldl Loop.perform l' = m at hl hfinished ⊢
    cases hp' : m.mailbox.hasPending with
    | false =>
      -- Both have to wait; the second tries again while there are interludes.
      rw [run_of_not_hasPending h' (hl.waiting hsettles.waiting) hp' 0] at hfinished ⊢
      dsimp only at hfinished ⊢
      split
      · rw [run_of_rest hsettles.waiting (hl.not_hasPending hp')]
        exact ⟨hl, m, rfl⟩
      · next hmore =>
        rw [if_neg hmore] at hfinished
        exact ih hl hsettles hstrays hfinished
    | true =>
      obtain ⟨l₁, limit₁, hsame, hsettles₁, hnext, hrun⟩ := hl.cycle hsettles hs hb hp'
      rw [hrun 0] at hfinished ⊢
      rw [← hsame]
      exact ih hnext hsettles₁ hstrays hfinished

/-- Once a stray request has been taken, and nothing else was pending, nothing is. -/
theorem not_hasPending_idle (hl : Nudged l l') (hp : l.mailbox.pending = ∅) (hs : Steady h) :
    (l'.dispatched h).mailbox.hasPending = false := by
  obtain ⟨x, hx⟩ := hl.mailbox
  have hnone : (l.mailbox.take l.consumer.view).1.deliveries = [] := by
    rw [Drained.deliveries, Mailbox.kinds_take, hp]
    rfl
  have hdeliveries := Mailbox.deliveries_nudged l.mailbox x hl.view
  rw [hnone, ← hx] at hdeliveries
  have hdispatched : l'.dispatched h = l'.drained := by
    rw [Loop.dispatched, taken]
    rcases hdeliveries with hnone | hone
    · rw [hnone]
      rfl
    · rw [hone, List.nil_append, Loop.deliver, Loop.call, hs.disable]
      rfl
  rw [hdispatched]
  rfl

/-- A loop that has nothing but a stray request to take comes to rest. -/
theorem exists_run_waits_of_rest (hl : Nudged l l') (hw : l.mailbox.waiting = none)
    (henabled : l.enabled = true) (hs : Steady h) (hb : Beset h h)
    (hp : l.mailbox.hasPending = false) : ∃ n left, l'.run h n = (left, .waiting) := by
  cases hp' : l'.mailbox.hasPending with
  | false => exact ⟨1, l', run_of_not_hasPending h (hl.waiting hw) hp' 0⟩
  | true =>
    obtain ⟨hnext, hrun⟩ := hl.cycle_alone hw henabled hs hb hp hp'
    have hrest := hl.not_hasPending_idle (Mailbox.hasPending_eq_false_iff.mp hp) hs
    exact ⟨2, _, (hrun 1).trans (run_of_not_hasPending h (hnext.waiting hw) hrest 0)⟩

/-- If no more stray requests come in, the second loop comes to rest by itself. -/
theorem exists_run_waits (hl : Nudged l l') (hsettles : l.Settles h limit) (hs : Steady h)
    (hb : Beset h h) : ∃ n left, l'.run h n = (left, .waiting) := by
  induction limit generalizing l l' with
  | zero =>
    exact hl.exists_run_waits_of_rest hsettles.waiting hsettles.enabled hs hb hsettles.rest
  | succ limit ih =>
    cases hp : l.mailbox.hasPending with
    | false => exact hl.exists_run_waits_of_rest hsettles.waiting hsettles.enabled hs hb hp
    | true =>
      obtain ⟨_, ⟨⟩, -, hsettles', hnext, hrun⟩ := hl.cycle_both hsettles hs hb hp
      obtain ⟨n, left, hrest⟩ := ih hnext hsettles'
      exact ⟨n + 1, left, (hrun n).trans hrest⟩

/-- **Stray requests do not keep a loop busy.** Once they have come in, it comes to rest. -/
theorem exists_runAmid_waits (hl : Nudged l l') (hsettles : l.Settles h limit) (hs : Steady h)
    (hb : Beset h h) {interludes : List (List Act)}
    (hstrays : ∀ interlude ∈ interludes, ∀ a ∈ interlude, a = .post .disable) :
    ∃ n left, l'.runAmid h (interludes ++ List.replicate n []) = (left, .waiting) := by
  induction interludes generalizing l l' limit with
  | nil =>
    obtain ⟨n, left, hrun⟩ := hl.exists_run_waits hsettles hs hb
    exact ⟨n, left, (runAmid_replicate h (hl.waiting hsettles.waiting) n).trans hrun⟩
  | cons interlude interludes ih =>
    replace hl := hl.strays hsettles.waiting (hstrays interlude List.mem_cons_self)
    replace hstrays : ∀ interlude ∈ interludes, ∀ a ∈ interlude, a = .post .disable :=
      fun interlude hmem => hstrays interlude (List.mem_cons_of_mem _ hmem)
    simp only [List.cons_append, Loop.runAmid]
    generalize interlude.foldl Loop.perform l' = m at hl ⊢
    cases hp' : m.mailbox.hasPending with
    | false =>
      obtain ⟨n, left, hrun⟩ := ih hl hsettles hstrays
      refine ⟨n, ?_⟩
      rw [run_of_not_hasPending h (hl.waiting hsettles.waiting) hp' 0]
      dsimp only
      split
      · exact ⟨m, rfl⟩
      · exact ⟨left, hrun⟩
    | true =>
      obtain ⟨l₁, limit₁, -, hsettles₁, hnext, hrun⟩ := hl.cycle hsettles hs hb hp'
      obtain ⟨n, left, hrest⟩ := ih hnext hsettles₁ hstrays
      refine ⟨n, left, ?_⟩
      rw [hrun 0]
      exact hrest

end Nudged

end Loop

end SerialBridge
