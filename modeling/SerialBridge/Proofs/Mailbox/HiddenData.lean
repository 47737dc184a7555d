import SerialBridge.Proofs.Dispatch.Cycle
import SerialBridge.Proofs.Mailbox.Conservation

/-!
# Superseded data is hidden

A mailbox keeps the values that newer reports replaced, and the bytes of longer messages, in its
storage until something is written over them. `Station.superseded_data_is_unobservable` says that
none of this can be seen. Two runs may differ in the values of reports that are **superseded**
before a drain takes them, and in what is cut off their messages; then their drains hand out the
same kinds in the same views, down to the storage, and the counters agree after every move.

Whether a value is superseded is told by the history that follows (`superseded`). Two mailboxes
**agree** for such a history if they differ in no value that it lets through (`Mailbox.Agrees`). One
signal takes agreement from its own history to the one after it (`Mailbox.Agrees.record`), and a
drain, which lets all values through, hands out the same from both (`Mailbox.Agrees.take`).

The signals that are replaced may be moves of their own or be posted by a handler that a consumer
calls. The two runs may therefore have different handlers, as long as those look at nothing that is
hidden (`Handler.Discreet`).
-/

namespace SerialBridge

/-! ### Runs that differ in hidden data -/

/-- Whether a value of the kind that is pending now is superseded in the history that follows: a
signal of the kind comes before any drain. -/
def superseded (k : EventKind) : List Entry → Bool
  | [] => false
  | .posted s :: later => s.kind = k || superseded k later
  | .drained _ :: _ => false

/-- The second signal may stand in the place of the first: it is of the same kind, its message is
longer than the capacity exactly if the first one's is, and as far as it is kept it says the same,
unless it is hidden. -/
structure Signal.Replaces (capacity : Nat) (hidden : Bool) (s t : Signal) : Prop where
  /-- The kind is the same. -/
  kind : s.kind = t.kind
  /-- Both are cut or neither. -/
  overflows : Entry.overflows capacity (.posted s) = Entry.overflows capacity (.posted t)
  /-- What is kept is the same. -/
  kept : hidden = false → s.cut capacity = t.cut capacity

theorem Signal.Replaces.refl (capacity : Nat) (hidden : Bool) (s : Signal) :
    s.Replaces capacity hidden s := ⟨rfl, rfl, fun _ => rfl⟩

/-- The second signals may stand in the place of the first ones, one by one, with this history after
them. -/
inductive Signal.ReplaceAll (capacity : Nat) (later : List Entry) :
    List Signal → List Signal → Prop
  /-- There are no signals left. -/
  | nil : ReplaceAll capacity later [] []
  /-- A signal is replaced. -/
  | cons {s t : Signal} {ss ts : List Signal}
    (hs : s.Replaces capacity (superseded s.kind (ss.map .posted ++ later)) t)
    (h : ReplaceAll capacity later ss ts) : ReplaceAll capacity later (s :: ss) (t :: ts)

theorem Signal.ReplaceAll.refl (capacity : Nat) (later : List Entry) (signals : List Signal) :
    ReplaceAll capacity later signals signals := by
  induction signals with
  | nil => exact .nil
  | cons s rest ih => exact .cons (.refl _ _ s) ih

/-- What can be seen of a mailbox without draining it. -/
structure Mailbox.Front where
  /-- Whether a drain would end at once. -/
  hasPending : Bool
  /-- Whether a drain has begun and not ended. -/
  isDraining : Bool
  /-- The longest message that is kept. -/
  capacity : Nat
  /-- The counters. -/
  tally : Tally

/-- Looks at a mailbox without draining it. -/
def Mailbox.front (m : Mailbox) : Front := ⟨m.hasPending, m.isDraining, m.capacity, m.tally⟩

/-- Of the mailbox that it is served from, a discreet handler sees no more than anybody can. -/
def Handler.Discreet {σ ε : Type} (h : Handler σ ε) : Prop :=
  ∀ (drained : PendingSet) (remaining : List Delivery) (m m' : Mailbox) (enabled : Bool)
    (d : Delivery) (state : σ), m.front = m'.front →
      h ⟨drained, remaining, m, enabled⟩ d state = h ⟨drained, remaining, m', enabled⟩ d state

/-- A move that lets a handler act lets a discreet one act. -/
def Move.Discreet : Move → Prop
  | .dispatch _ handler _ _ => handler.Discreet
  | _ => True

/-- The second run of moves differs from the first, which begins at the station, in hidden data
only. What is hidden is told by the history of the first. -/
inductive Station.SameButHidden : Station → List Move → List Move → Prop
  /-- There are no moves left. -/
  | nil (x : Station) : SameButHidden x [] []
  /-- A move is the same in both runs. -/
  | same {x : Station} {move : Move} {rest rest' : List Move}
    (h : SameButHidden (x.step move).1 rest rest') :
    SameButHidden x (move :: rest) (move :: rest')
  /-- A signal is replaced. It is hidden if it is superseded in the history that follows it. -/
  | replaced {x : Station} {s t : Signal} {rest rest' : List Move}
    (hs : s.Replaces x.mailbox.capacity
      (superseded s.kind (x.run (.post s :: rest)).2.tail) t)
    (h : SameButHidden (x.step (.post s)).1 rest rest') :
    SameButHidden x (.post s :: rest) (.post t :: rest')
  /-- Signals are replaced that the handler of a consumer posts. -/
  | relayed {x : Station} {σ ε σ' ε' : Type} {number : Nat} {enabled : Bool}
    {handler : Handler σ ε} {state : σ} {handler' : Handler σ' ε'} {state' : σ'}
    {rest rest' : List Move}
    (hposts : ∀ consumer, x.consumers[number]? = some consumer → x.mailbox.waiting = none →
      Signal.ReplaceAll x.mailbox.capacity
        ((x.step (.dispatch number handler enabled state)).1.run rest).2
        ((x.loop consumer enabled state).round handler).posts
        ((x.loop consumer enabled state').round handler').posts)
    (h : SameButHidden (x.step (.dispatch number handler enabled state)).1 rest rest') :
    SameButHidden x (.dispatch number handler enabled state :: rest)
      (.dispatch number handler' enabled state' :: rest')

/-- What drains handed out in the course of a history. -/
def handedOut (history : List Entry) : List Drained :=
  history.filterMap fun
    | .posted _ => none
    | .drained taken => some taken

theorem handedOut_append (xs ys : List Entry) :
    handedOut (xs ++ ys) = handedOut xs ++ handedOut ys := List.filterMap_append

@[simp] theorem handedOut_map_posted (signals : List Signal) :
    handedOut (signals.map .posted) = [] := by
  simp [handedOut]

/-! ### Mailboxes that agree -/

namespace Mailbox

/-- The mailboxes differ in nothing but what is in their slots. -/
structure Alike (m m' : Mailbox) : Prop where
  /-- The same kinds are pending. -/
  pending : m.pending = m'.pending
  /-- The counters agree. -/
  tally : m.tally = m'.tally
  /-- The same drain waits, if one does. -/
  waiting : m.waiting = m'.waiting
  /-- They keep messages of the same length. -/
  capacity : m.capacity = m'.capacity

/-- The mailboxes differ at most in values that the history does not let through: those of kinds
that are not pending, and those that are superseded. -/
structure Agrees (later : List Entry) (m m' : Mailbox) : Prop extends Alike m m' where
  /-- What stands in the slot of a kind is the same if it may be handed out. -/
  slots : ∀ k, k ∈ m.pending → superseded k later = false → m.slot k = m'.slot k

variable {m m' : Mailbox} {later : List Entry}

theorem Agrees.refl (later : List Entry) (m : Mailbox) : m.Agrees later m :=
  ⟨⟨rfl, rfl, rfl, rfl⟩, fun _ _ _ => rfl⟩

theorem Alike.hasPending (h : m.Alike m') : m.hasPending = m'.hasPending := by
  rw [Mailbox.hasPending, Mailbox.hasPending, h.pending]

/-- What can be seen without a drain does not include the slots. -/
theorem Alike.front (h : m.Alike m') : m.front = m'.front := by
  rw [Mailbox.front, Mailbox.front, h.hasPending, isDraining, isDraining, h.waiting, h.capacity,
    h.tally]

/-- A signal and one that replaces it are counted alike. -/
theorem Alike.tally_record (h : m.Alike m') {s t : Signal} {hidden : Bool}
    (hs : s.Replaces m.capacity hidden t) : (m.record s).tally = (m'.record t).tally := by
  have hkind := hs.kind
  cases s with
  | status code =>
    cases t with
    | status _ => simp only [Mailbox.record, PendingSet.record, Signal.kind, h.tally, h.pending]
    | message | disable => cases hkind
  | message p =>
    cases t with
    | message q =>
      -- Whether a message is cut is told by its length, of which the two are on the same side.
      have hcut (m : Mailbox) (p : List UInt8) :
          (0 < m.message.dropped p) = (m.capacity < p.length) := propext Nat.sub_pos_iff_lt
      have hoverflows : decide (m.capacity < p.length) = decide (m'.capacity < q.length) :=
        h.capacity ▸ hs.overflows
      simp only [Mailbox.record, PendingSet.record, Signal.kind, hcut, h.tally, h.pending,
        hoverflows]
    | status | disable => cases hkind
  | disable =>
    cases t with
    | disable => simp only [Mailbox.record, h.tally]
    | status | message => cases hkind

/-- A signal and one that replaces it leave alike mailboxes. -/
theorem Alike.record (h : m.Alike m') {s t : Signal} {hidden : Bool}
    (hs : s.Replaces m.capacity hidden t) : (m.record s).Alike (m'.record t) := by
  refine ⟨?_, h.tally_record hs, ?_, ?_⟩
  · rw [pending_record, pending_record, h.pending, hs.kind]
  · rw [waiting_record, waiting_record, h.waiting]
  · rw [capacity_record, capacity_record, h.capacity]

/-- A signal fills the slot of its kind and no other. -/
theorem slot_record (m : Mailbox) (s : Signal) (k : EventKind) :
    (m.record s).slot k = if s.kind = k then s.cut m.capacity else m.slot k := by
  cases s with
  | status code => cases k <;> rfl
  | message p =>
    cases k with
    | message => exact congrArg Signal.message (Snapshot.bytes_overwrite m.message p)
    | status | disable => rfl
  | disable => cases k <;> rfl

/-- **Recording.** Of the kind of the signal, the new values agree unless they are superseded; of
the other kinds, the values are those that agreed before. -/
theorem Agrees.record {s t : Signal} (h : m.Agrees (.posted s :: later) m')
    (hs : s.Replaces m.capacity (superseded s.kind later) t) :
    (m.record s).Agrees later (m'.record t) := by
  refine ⟨h.toAlike.record hs, fun k hk hlater => ?_⟩
  rw [slot_record, slot_record, ← hs.kind, ← h.capacity]
  by_cases hkind : s.kind = k
  · obtain rfl := hkind
    rw [if_pos rfl, if_pos rfl]
    exact hs.kept hlater
  · have hbefore : k ∈ m.pending := by
      rw [pending_record, PendingSet.mem_insert] at hk
      exact hk.resolve_right hkind
    have hthrough : superseded k (.posted s :: later) = false := by
      simp [superseded, hkind, hlater]
    rw [if_neg hkind, if_neg hkind]
    exact h.slots k hbefore hthrough

/-- Into a view go the values of the slots that are pending, and of a message its bytes only. -/
theorem fill_congr {v : View} (hpending : m.pending = m'.pending)
    (hslots : ∀ k, k ∈ m.pending → m.slot k = m'.slot k) : m.fill v = m'.fill v := by
  have hstatus : (if m.pending.contains .status then some m.status else none)
      = if m.pending.contains .status then some m'.status else none := by
    split
    · next hk => exact congrArg some (Signal.status.inj (hslots .status hk))
    · rfl
  have hmessage :
      (if m.pending.contains .message then v.reset.message.copyFrom m.message
        else v.reset.message)
        = if m.pending.contains .message then v.reset.message.copyFrom m'.message
          else v.reset.message := by
    split
    · next hk =>
      exact congrArg v.reset.message.overwrite (Signal.message.inj (hslots .message hk))
    · rfl
  rw [fill, fill, ← hpending, View.mk.injEq]
  exact ⟨hstatus, hmessage, rfl⟩

/-- **Draining.** A drain lets everything through that is pending, and so it hands out the same.
What it leaves behind agrees whatever follows. -/
theorem Agrees.take {taken : Drained} (h : m.Agrees (.drained taken :: later) m') (v : View)
    (future : List Entry) :
    (m.take v).1 = (m'.take v).1 ∧ (m.take v).2.Agrees future (m'.take v).2 := by
  -- A drain ends the history of what may be superseded, so all slots that are pending agree.
  have hfill : m.fill v = m'.fill v := fill_congr h.pending fun k hk => h.slots k hk rfl
  have htally : (m.take v).2.tally = (m'.take v).2.tally := by
    rw [Mailbox.take, Mailbox.take, h.tally]
  refine ⟨?_, ⟨rfl, htally, h.waiting, h.capacity⟩,
    fun k hk => absurd hk (PendingSet.not_mem_empty k)⟩
  rw [Mailbox.take, Mailbox.take, hfill, h.pending]

/-- A drain begins or ends to wait. -/
theorem Agrees.waiting_congr (h : m.Agrees later m') (w : Option View) :
    { m with waiting := w }.Agrees later { m' with waiting := w } := by
  have hslot (m : Mailbox) (k : EventKind) : { m with waiting := w }.slot k = m.slot k := by
    cases k <;> rfl
  refine ⟨⟨h.pending, h.tally, rfl, h.capacity⟩, fun k hk hlater => ?_⟩
  rw [hslot, hslot]
  exact h.slots k hk hlater

/-- Acts record what they post. -/
theorem foldl_perform (hw : m.waiting = none) (acts : List Act) :
    acts.foldl perform m = (SerialBridge.posts acts).foldl Mailbox.record m := by
  induction acts generalizing m with
  | nil => rfl
  | cons a acts ih =>
    cases a with
    | post s =>
      rw [List.foldl_cons, perform, post_eq_record hw]
      exact ih ((waiting_record m s).trans hw)
    | setEnabled value => exact ih hw

/-- Signals leave alike what was alike. -/
theorem Alike.recordAll (h : m.Alike m') (signals : List Signal) :
    (signals.foldl Mailbox.record m).Alike (signals.foldl Mailbox.record m') := by
  induction signals generalizing m m' with
  | nil => exact h
  | cons s rest ih => exact ih (h.record (.refl m.capacity false s))

/-- Signals and those that replace them keep the agreement about what follows. -/
theorem Agrees.recordAll {ss ts : List Signal} (h : m.Agrees (ss.map .posted ++ later) m')
    (hs : Signal.ReplaceAll m.capacity later ss ts) :
    (ss.foldl Mailbox.record m).Agrees later (ts.foldl Mailbox.record m') := by
  induction ss generalizing m m' ts with
  | nil =>
    cases hs
    exact h
  | cons s ss ih =>
    cases hs with
    | cons hst hrest =>
      have hnext := ih (h.record hst) (capacity_record m s ▸ hrest)
      exact hnext

end Mailbox

/-! ### Discreet handlers -/

/-- A discreet handler is called alike in alike loops. -/
theorem Handler.Discreet.callbacks_eq {σ ε : Type} {h : Handler σ ε} (hh : h.Discreet)
    (kinds : PendingSet) (ds : List Delivery) {l l' : Loop σ} (hm : l.mailbox.Alike l'.mailbox)
    (hw : l.mailbox.waiting = none) (henabled : l.enabled = l'.enabled)
    (hstate : l.state = l'.state) :
    Loop.callbacks h kinds ds l = Loop.callbacks h kinds ds l' := by
  induction ds generalizing l l' with
  | nil => rfl
  | cons d rest ih =>
    -- The handler sees only what is in front, and that is the same for both.
    have hreaction : h ⟨kinds, rest, l.mailbox, l.enabled⟩ d l.state
        = h ⟨kinds, rest, l'.mailbox, l'.enabled⟩ d l'.state := by
      rw [henabled, hstate]
      exact hh kinds rest _ _ _ d _ hm.front
    have hrest : Loop.callbacks h kinds rest (l.call h kinds d rest).1
        = Loop.callbacks h kinds rest (l'.call h kinds d rest).1 := by
      -- The acts that it answers with are then the same, and leave the loops alike.
      refine ih ?_ ?_ ?_ ?_
      · rw [Loop.call, Loop.call, ← hreaction, Loop.mailbox_performAll, Loop.mailbox_performAll,
          Mailbox.foldl_perform hw, Mailbox.foldl_perform (hm.waiting ▸ hw)]
        exact hm.recordAll _
      · rw [Loop.call, Loop.mailbox_performAll]
        exact Mailbox.waiting_performAll hw _
      · rw [Loop.call, Loop.call, ← hreaction, Loop.enabled_performAll, Loop.enabled_performAll,
          henabled]
      · rw [Loop.call, Loop.call, ← hreaction, Loop.state_performAll, Loop.state_performAll]
    rw [Loop.callbacks, Loop.callbacks, ← hreaction, hrest]

namespace Station

/-! ### Stations that agree -/

/-- The stations differ at most in values that the history does not let through. -/
structure Agrees (later : List Entry) (x x' : Station) : Prop where
  /-- The mailboxes agree. -/
  mailbox : x.mailbox.Agrees later x'.mailbox
  /-- The consumers have the same views. -/
  consumers : x.consumers = x'.consumers
  /-- The same consumer waits, if one does. -/
  waiter : x.waiter = x'.waiter

variable {x x' : Station} {later : List Entry}

theorem Agrees.refl (later : List Entry) (x : Station) : x.Agrees later x :=
  ⟨.refl later x.mailbox, rfl, rfl⟩

/-- What a move does to stations that agree: afterwards they agree about what follows, and drains
handed out the same. -/
structure StepsAlike (later : List Entry) (x x' : Station × List Entry) : Prop where
  /-- The stations agree. -/
  agrees : x.1.Agrees later x'.1
  /-- Drains handed out the same. -/
  handedOut : handedOut x.2 = handedOut x'.2

/-- What a waiting drain took goes to the same consumer. -/
theorem Agrees.wake (h : x.Agrees later x') {future : List Entry} {mailbox mailbox' : Mailbox}
    (hm : mailbox.Agrees future mailbox') (taken : Drained) :
    (x.wake taken mailbox).Agrees future (x'.wake taken mailbox') := by
  refine ⟨hm, ?_, rfl⟩
  rw [Station.wake, Station.wake, h.consumers, h.waiter]

/-- **A signal is posted**, to the one station that which replaces it. -/
theorem Agrees.post {s t : Signal} (h : x.Agrees ((x.post s).2 ++ later) x')
    (hs : s.Replaces x.mailbox.capacity (superseded s.kind ((x.post s).2.tail ++ later)) t) :
    StepsAlike later (x.post s) (x'.post t) := by
  cases hw : x.mailbox.waiting with
  | none =>
    have hw' : x'.mailbox.waiting = none := h.mailbox.waiting ▸ hw
    have hx : x.post s = ({ x with mailbox := x.mailbox.record s }, [.posted s]) := by
      rw [Station.post, Mailbox.post_eq_record hw]
    have hx' : x'.post t = ({ x' with mailbox := x'.mailbox.record t }, [.posted t]) := by
      rw [Station.post, Mailbox.post_eq_record hw']
    rw [hx] at h hs
    rw [hx, hx']
    exact ⟨⟨h.mailbox.record hs, h.consumers, h.waiter⟩, rfl⟩
  | some v =>
    have hw' : x'.mailbox.waiting = some v := h.mailbox.waiting ▸ hw
    have hpost (x : Station) (s : Signal) (hw : x.mailbox.waiting = some v) :
        x.post s = (x.wake (({ x.mailbox with waiting := none }.record s).take v).1
            (({ x.mailbox with waiting := none }.record s).take v).2,
          [.posted s, .drained (({ x.mailbox with waiting := none }.record s).take v).1]) := by
      rw [Station.post, Mailbox.post_of_waiting hw]
    rw [hpost x s hw] at h hs
    rw [hpost x s hw, hpost x' t hw']
    -- The drain that waits lets the signal through at once.
    have hrecord := (h.mailbox.waiting_congr none).record hs
    obtain ⟨htaken, hrest⟩ := hrecord.take v later
    rw [← htaken]
    exact ⟨h.wake hrest _, rfl⟩

/-- **A drain begins.** -/
theorem Agrees.conclude {waiter : Option Nat} {v : View}
    (h : x.Agrees ((x.conclude waiter (x.mailbox.drainInto v)).2 ++ later) x') :
    StepsAlike later (x.conclude waiter (x.mailbox.drainInto v))
      (x'.conclude waiter (x'.mailbox.drainInto v)) := by
  by_cases hw : x.mailbox.waiting = none
  · have hw' : x'.mailbox.waiting = none := h.mailbox.waiting ▸ hw
    cases hp : x.mailbox.hasPending with
    | true =>
      have hp' : x'.mailbox.hasPending = true := h.mailbox.hasPending ▸ hp
      rw [conclude_of_hasPending hw hp] at h ⊢
      obtain ⟨htaken, hrest⟩ := h.mailbox.take v later
      rw [conclude_of_hasPending hw' hp', ← htaken]
      exact ⟨⟨hrest, h.consumers, h.waiter⟩, rfl⟩
    | false =>
      have hp' : x'.mailbox.hasPending = false := h.mailbox.hasPending ▸ hp
      rw [conclude_of_not_hasPending hw hp] at h ⊢
      rw [conclude_of_not_hasPending hw' hp']
      exact ⟨⟨h.mailbox.waiting_congr (some v), h.consumers, rfl⟩, rfl⟩
  · have hw' : x'.mailbox.waiting ≠ none := h.mailbox.waiting ▸ hw
    rw [conclude_of_waiting hw] at h ⊢
    rw [conclude_of_waiting hw']
    exact ⟨h, rfl⟩

section Dispatch

variable {σ ε σ' ε' : Type} {handler : Handler σ ε} {handler' : Handler σ' ε'} {consumer : Consumer}
  {enabled : Bool} {state : σ} {state' : σ'} {number : Nat}

/-- A consumer that finds something hands out the same in both. A discreet handler posts in the
second what it would post in the first. -/
theorem Agrees.dispatched (hw : x.mailbox.waiting = none) (hd : handler'.Discreet) :
    let l := x.loop consumer enabled state
    let l' := x'.loop consumer enabled state'
    x.Agrees (.drained l.taken :: (l.round handler).posts.map .posted ++ later) x' →
    Signal.ReplaceAll x.mailbox.capacity later (l.round handler).posts
      ((x.loop consumer enabled state').round handler').posts →
    StepsAlike later
      ({ x with
          mailbox := (l.dispatched handler).mailbox
          consumers := x.consumers.set number (l.dispatched handler).consumer },
        .drained l.taken :: (l.round handler).posts.map .posted)
      ({ x' with
          mailbox := (l'.dispatched handler').mailbox
          consumers := x'.consumers.set number (l'.dispatched handler').consumer },
        .drained l'.taken :: (l'.round handler').posts.map .posted) := by
  intro l l' h hreplace
  obtain ⟨htaken, hdrained⟩ :=
    h.mailbox.take consumer.view ((l.round handler).posts.map .posted ++ later)
  have hl : l.taken = l'.taken := htaken
  have hposts : ((x.loop consumer enabled state').round handler').posts
      = (l'.round handler').posts := by
    -- A discreet handler is called alike, since what was taken is the same and the mailboxes look
    -- the same.
    have hcallbacks : Loop.callbacks handler' l.taken.kinds l.taken.deliveries
          (x.loop consumer enabled state').drained
        = Loop.callbacks handler' l.taken.kinds l.taken.deliveries l'.drained :=
      hd.callbacks_eq l.taken.kinds l.taken.deliveries hdrained.toAlike hw rfl rfl
    rw [Round.posts, Round.posts, Round.acts, Round.acts, Loop.round, Loop.round, ← hl]
    exact congrArg (fun cs => SerialBridge.posts (cs.flatMap (·.acts))) hcallbacks
  rw [hposts] at hreplace
  refine ⟨⟨?_, ?_, h.waiter⟩, ?_⟩
  · have hfirst : (l.mailbox.take l.consumer.view).2.waiting = none := hw
    have hsecond : (l'.mailbox.take l'.consumer.view).2.waiting = none := hdrained.waiting ▸ hw
    dsimp only
    rw [Loop.mailbox_dispatched, Loop.mailbox_dispatched, Mailbox.foldl_perform hfirst,
      Mailbox.foldl_perform hsecond]
    exact hdrained.recordAll hreplace
  · dsimp only
    rw [Loop.consumer_dispatched, Loop.consumer_dispatched, hl, h.consumers]
    rfl
  · have honly (taken : Drained) (signals : List Signal) :
        SerialBridge.handedOut (.drained taken :: signals.map .posted) = [taken] :=
      congrArg (taken :: ·) (handedOut_map_posted signals)
    rw [honly, honly, hl]

/-- **A consumer makes a cycle.** What a discreet handler posts in the second may stand in the place
of what the handler posts in the first. -/
theorem Agrees.dispatch
    (h : x.Agrees ((x.dispatch number handler enabled state).2 ++ later) x')
    (hd : handler'.Discreet)
    (hreplace : ∀ consumer, x.consumers[number]? = some consumer → x.mailbox.waiting = none →
      Signal.ReplaceAll x.mailbox.capacity later
        ((x.loop consumer enabled state).round handler).posts
        ((x.loop consumer enabled state').round handler').posts) :
    StepsAlike later (x.dispatch number handler enabled state)
      (x'.dispatch number handler' enabled state') := by
  cases hc : x.consumers[number]? with
  | none =>
    have hc' : x'.consumers[number]? = none := h.consumers ▸ hc
    have hx : x.dispatch number handler enabled state = (x, []) := by rw [Station.dispatch, hc]
    have hx' : x'.dispatch number handler' enabled state' = (x', []) := by
      rw [Station.dispatch, hc']
    rw [hx] at h ⊢
    rw [hx']
    exact ⟨h, rfl⟩
  | some consumer =>
    have hc' : x'.consumers[number]? = some consumer := h.consumers ▸ hc
    by_cases hw : x.mailbox.waiting = none
    · have hw' : x'.mailbox.waiting = none := h.mailbox.waiting ▸ hw
      cases hp : x.mailbox.hasPending with
      | true =>
        have hp' : x'.mailbox.hasPending = true := h.mailbox.hasPending ▸ hp
        rw [dispatch_of_hasPending hc hw hp] at h ⊢
        rw [dispatch_of_hasPending hc' hw' hp']
        exact h.dispatched hw hd (hreplace consumer hc hw)
      | false =>
        have hp' : x'.mailbox.hasPending = false := h.mailbox.hasPending ▸ hp
        rw [dispatch_of_not_hasPending hc hw hp] at h ⊢
        rw [dispatch_of_not_hasPending hc' hw' hp']
        exact h.conclude
    · have hw' : x'.mailbox.waiting ≠ none := h.mailbox.waiting ▸ hw
      rw [dispatch_of_waiting hc hw] at h ⊢
      rw [dispatch_of_waiting hc' hw']
      exact ⟨h, rfl⟩

end Dispatch

/-- **One move** that is the same in both. -/
theorem Agrees.step {move : Move} (h : x.Agrees ((x.step move).2 ++ later) x')
    (hd : move.Discreet) : StepsAlike later (x.step move) (x'.step move) := by
  have hfresh : x'.mailbox.freshView = x.mailbox.freshView := by
    unfold Mailbox.freshView
    congr 1
    exact h.mailbox.capacity.symm
  cases move with
  | post s => exact h.post (.refl _ _ s)
  | drain =>
    have hdrain : x'.step .drain = x'.conclude none (x'.mailbox.drainInto x.mailbox.freshView) :=
      congrArg (fun v => x'.conclude none (x'.mailbox.drainInto v)) hfresh
    rw [hdrain]
    exact h.conclude
  | drainInto v => exact h.conclude
  | enlist =>
    refine ⟨⟨h.mailbox, ?_, h.waiter⟩, rfl⟩
    rw [Station.step, Station.step, h.consumers, Consumer.ofMailbox, Consumer.ofMailbox, hfresh]
  | dispatch number handler enabled state => exact h.dispatch hd fun _ _ _ => .refl _ _ _

theorem StepsAlike.cons (move move' : Move) {rest rest' : List Move} {between : List Entry}
    (hstep : StepsAlike between (x.step move) (x'.step move'))
    (hrest : StepsAlike later ((x.step move).1.run rest) ((x'.step move').1.run rest')) :
    StepsAlike later (x.run (move :: rest)) (x'.run (move' :: rest')) := by
  refine ⟨hrest.agrees, ?_⟩
  rw [Station.run, Station.run, handedOut_append, handedOut_append, hstep.handedOut,
    hrest.handedOut]

/-- What follows a signal in the history of a run. -/
theorem tail_run_post (x : Station) (s : Signal) (rest : List Move) :
    (x.run (.post s :: rest)).2.tail = (x.post s).2.tail ++ ((x.post s).1.run rest).2 := by
  refine List.tail_append_of_ne_nil ?_
  rw [step, Station.post]
  rcases x.mailbox.post s with ⟨mailbox, _ | taken⟩
  · exact List.cons_ne_nil _ _
  · exact List.cons_ne_nil _ _

/-- **A run** of moves that differ in hidden data only, up to any move. -/
theorem SameButHidden.run {moves moves' : List Move} (h : x.SameButHidden moves moves')
    (hd : ∀ move ∈ moves', move.Discreet) (ha : x.Agrees (x.run moves).2 x') (n : Nat) :
    ∃ later, StepsAlike later (x.run (moves.take n)) (x'.run (moves'.take n)) := by
  -- On the two runs side by side: each move keeps the agreement about the history that is left.
  induction h generalizing x' n with
  | nil x => exact ⟨[], by simpa [Station.run] using ha, by simp [Station.run]⟩
  | @same x move rest rest' _ ih =>
    cases n with
    | zero => exact ⟨_, ha, rfl⟩
    | succ n =>
      have hstep := Agrees.step ha (hd move List.mem_cons_self)
      obtain ⟨later, hrest⟩ := ih (fun m hm => hd m (List.mem_cons_of_mem _ hm)) hstep.agrees n
      exact ⟨later, StepsAlike.cons move move hstep hrest⟩
  | @replaced x s t rest rest' hs _ ih =>
    cases n with
    | zero => exact ⟨_, ha, rfl⟩
    | succ n =>
      rw [tail_run_post] at hs
      have hstep := Agrees.post ha hs
      obtain ⟨later, hrest⟩ := ih (fun m hm => hd m (List.mem_cons_of_mem _ hm)) hstep.agrees n
      exact ⟨later, StepsAlike.cons (.post s) (.post t) hstep hrest⟩
  | @relayed x _ _ _ _ number enabled handler state handler' state' rest rest' hposts _ ih =>
    cases n with
    | zero => exact ⟨_, ha, rfl⟩
    | succ n =>
      have hstep := Agrees.dispatch ha (hd (.dispatch number handler' enabled state')
        List.mem_cons_self) hposts
      obtain ⟨later, hrest⟩ := ih (fun m hm => hd m (List.mem_cons_of_mem _ hm)) hstep.agrees n
      exact ⟨later, StepsAlike.cons (.dispatch number handler enabled state)
        (.dispatch number handler' enabled state') hstep hrest⟩

/-- **Superseded data is unobservable.** Take any mailbox with its consumers, and two runs of moves
that differ only in the values of reports that are superseded before a drain takes them, and in what
is cut off messages that are too long, whether a producer posts them or a handler; a message that is
too long stays so, and one that is not does not become it. The handlers of the second run see no
more of the mailbox than anybody else. Then, after as many moves as one likes:

* Drains handed out the same kinds in the same views, down to the whole storage of the message.
* The mailboxes look the same from outside, their counters included.
* The consumers have the same views and made as many cycles. -/
theorem superseded_data_is_unobservable (x : Station) {moves moves' : List Move}
    (h : x.SameButHidden moves moves') (hd : ∀ move ∈ moves', move.Discreet) (n : Nat) :
    let first := x.run (moves.take n)
    let second := x.run (moves'.take n)
    handedOut first.2 = handedOut second.2 ∧
      first.1.mailbox.tally = second.1.mailbox.tally ∧
      first.1.mailbox.front = second.1.mailbox.front ∧
      first.1.consumers = second.1.consumers := by
  intro first second
  obtain ⟨later, hsteps⟩ := h.run hd (.refl _ x) n
  have hmailbox := hsteps.agrees.mailbox.toAlike
  exact ⟨hsteps.handedOut, hmailbox.tally, hmailbox.front, hsteps.agrees.consumers⟩

/-- A handler that posts a status in every callback. -/
def relay (code : Int32) : Handler Unit Empty :=
  fun _ _ state => { state, acts := [.post (.status code)] }

/-- A status and a message of one run are superseded and replaced in the other, and so are the
statuses that a handler posts; of the last message only the end is different. The mailboxes differ
for a while, but what the drains hand out does not. -/
theorem superseded_secrets_are_unobservable :
    let x := Station.ofCapacity 2 Nat.two_pos
    let moves : List Move :=
      [.enlist, .post (.message [1, 2]), .post (.status 1), .post (.message [7]), .post (.status 2),
        .dispatch 0 (relay 3) true (), .post (.status 4), .post (.message [4, 5, 6]), .drain]
    let moves' : List Move :=
      [.enlist, .post (.message [8]), .post (.status 9), .post (.message [7]), .post (.status 2),
        .dispatch 0 (relay 8) true (), .post (.status 4), .post (.message [4, 5, 0, 0]), .drain]
    x.SameButHidden moves moves' ∧ (∀ move ∈ moves', move.Discreet) ∧
      (x.run (moves.take 4)).1.mailbox ≠ (x.run (moves'.take 4)).1.mailbox ∧
      handedOut (x.run moves).2 = handedOut (x.run moves').2 ∧
      (handedOut (x.run moves').2).map (·.view.latest 4) = [[7], [4, 5]] := by
  intro x moves moves'
  have hsame : x.SameButHidden moves moves' := by
    refine .same <| .replaced ?_ <| .replaced ?_ <| .same <| .same <| .relayed ?_ <| .same <|
      .replaced ?_ <| .same <| .nil _
    · exact ⟨rfl, rfl, fun h => absurd h (by decide)⟩
    · exact ⟨rfl, rfl, fun h => absurd h (by decide)⟩
    · intro consumer hc _
      cases hc
      subst x
      change Signal.ReplaceAll _ _ [.status 3, .status 3] [.status 8, .status 8]
      refine .cons ⟨rfl, rfl, fun h => absurd h (by decide)⟩ ?_
      exact .cons ⟨rfl, rfl, fun h => absurd h (by decide)⟩ .nil
    · exact ⟨rfl, by decide, fun _ => by decide⟩
  have hdiscreet : ∀ move ∈ moves', move.Discreet := by
    have hrelay : Handler.Discreet (relay 8) := fun _ _ _ _ _ _ _ _ => rfl
    simp only [moves', List.forall_mem_cons, Move.Discreet, hrelay, true_and]
    exact nofun
  have hhanded := (superseded_data_is_unobservable x hsame hdiscreet 9).1
  exact ⟨hsame, hdiscreet, by decide, hhanded, by decide⟩

end Station

end SerialBridge
