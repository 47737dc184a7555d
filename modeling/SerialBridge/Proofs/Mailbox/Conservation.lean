import Mathlib.Data.List.Basic
import Mathlib.Data.UInt
import SerialBridge.Dispatch.Scripted
import SerialBridge.Proofs.Mailbox.DrainHistory

/-!
# The counters of a mailbox balance

A mailbox counts what is posted to it, what a newer report replaces, what is cut off, and how often
it is drained. `Station.counters_balance` compares the counters with the history of the mailbox:
whatever is posted is **taken by a drain, replaced, or pending**, and nothing is counted twice.
Every drain is a consumer's cycle or a direct one.

Two invariants carry this, one for the mailbox alone (`Mailbox.Tallied`) and one for the mailbox
with its consumers (`Station.Tallied`, `Station.Tallied.invariant`). The counters are machine words;
the history is counted in natural numbers, and the two agree up to wrapping around.
-/

namespace SerialBridge

/-! ### Counting a history -/

namespace Entry

/-- Whether the entry posts a signal of the kind. -/
def posts (k : EventKind) : Entry → Bool
  | .posted s => s.kind = k
  | .drained _ => false

/-- Whether the entry is a drain that took the kind. -/
def takes (k : EventKind) : Entry → Bool
  | .posted _ => false
  | .drained taken => taken.kinds.contains k

/-- Whether the entry posts a message that is longer than the capacity. -/
def overflows (capacity : Nat) : Entry → Bool
  | .posted (.message payload) => capacity < payload.length
  | _ => false

end Entry

theorem countP_snoc {α : Type} (p : α → Bool) (xs : List α) (x : α) :
    (xs ++ [x]).countP p = xs.countP p + (p x).toNat := by
  rw [List.countP_append, List.countP_singleton]
  cases p x <;> rfl

/-! ### The mailbox -/

namespace Mailbox

variable {m : Mailbox} {capacity : Nat} {history : List Entry}

/-- How many signals of the kind were **replaced**: no drain took them, and they are not pending. -/
def replaced (m : Mailbox) (history : List Entry) (k : EventKind) : Nat :=
  history.countP (Entry.posts k) - history.countP (Entry.takes k) - (m.pending.contains k).toNat

/-- The mailbox has the given capacity, and its counters agree with the history. -/
structure Tallied (m : Mailbox) (capacity : Nat) (history : List Entry) : Prop where
  /-- The mailbox has the capacity with which it was made. -/
  capacity_eq : m.capacity = capacity
  /-- Status reports are counted. -/
  statusReports : m.tally.statusReports = .ofNat (history.countP (Entry.posts .status))
  /-- Message reports are counted. -/
  messageReports : m.tally.messageReports = .ofNat (history.countP (Entry.posts .message))
  /-- Disable requests are counted. -/
  disableRequests : m.tally.disableRequests = .ofNat (history.countP (Entry.posts .disable))
  /-- What was taken and what is pending was posted. -/
  le : ∀ k, history.countP (Entry.takes k) + (m.pending.contains k).toNat
    ≤ history.countP (Entry.posts k)
  /-- Replaced values are counted, and disable requests have none. -/
  superseded : m.tally.superseded
    = .ofNat (m.replaced history .status + m.replaced history .message)
  /-- Messages that were cut are counted. -/
  truncated : m.tally.truncated = .ofNat (history.countP (Entry.overflows capacity))
  /-- Drains are counted. -/
  drains : m.tally.drains = .ofNat (history.countP Entry.isDrain)
  /-- Every drain took something. -/
  taken : ∀ d, .drained d ∈ history → d.kinds ≠ ∅

theorem increment_eq_ofNat (b : Bool) : increment b = .ofNat b.toNat := by cases b <;> rfl

/-- A report supersedes what is pending of its kind. A disable request supersedes nothing. -/
theorem superseded_record (m : Mailbox) (s : Signal) :
    (m.record s).tally.superseded = m.tally.superseded
      + .ofNat (if s.kind = .disable then 0 else (m.pending.contains s.kind).toNat) := by
  cases s with
  | status code => exact congrArg (_ + ·) (increment_eq_ofNat _)
  | message p => exact congrArg (_ + ·) (increment_eq_ofNat _)
  | disable => exact (UInt64.add_zero _).symm

theorem superseded_post_disable (m : Mailbox) :
    (m.post .disable).1.tally.superseded = m.tally.superseded := by
  cases hw : m.waiting with
  | none => rw [post_eq_record hw]; rfl
  | some v => rw [post_of_waiting hw]; rfl

/-- A payload is cut exactly if it is longer than the capacity. -/
theorem truncated_record (m : Mailbox) (s : Signal) :
    (m.record s).tally.truncated
      = m.tally.truncated + .ofNat (Entry.overflows m.capacity (.posted s)).toNat := by
  cases s with
  | status code => exact (UInt64.add_zero _).symm
  | message p =>
    have hcut : (0 < m.message.dropped p) = (m.capacity < p.length) :=
      propext Nat.sub_pos_iff_lt
    change m.tally.truncated + increment (decide (0 < m.message.dropped p)) = _
    rw [increment_eq_ofNat]
    simp only [hcut, Entry.overflows]
  | disable => exact (UInt64.add_zero _).symm

/-- A newer signal replaces one that is pending, and one of its own kind only. -/
theorem replaced_record (h : m.Tallied capacity history) (s : Signal) (k : EventKind) :
    (m.record s).replaced (history ++ [.posted s]) k
      = m.replaced history k + if s.kind = k then (m.pending.contains k).toNat else 0 := by
  have hle := h.le k
  simp only [replaced, countP_snoc, Entry.posts, Entry.takes, pending_record,
    PendingSet.contains_insert]
  by_cases hk : s.kind = k
  · simp only [hk, decide_true, Bool.or_true, Bool.toNat_true, Bool.toNat_false, if_true]
    omega
  · simp [hk]

/-- A drain replaces nothing. -/
theorem replaced_take (v : View) (k : EventKind) :
    (m.take v).2.replaced (history ++ [.drained (m.take v).1]) k = m.replaced history k := by
  simp only [replaced, countP_snoc, Entry.posts, Entry.takes, pending_take, kinds_take,
    PendingSet.contains_empty, Bool.toNat_false]
  omega

namespace Tallied

theorem blank (h : 0 < capacity) : (Mailbox.blank capacity h).Tallied capacity [] where
  capacity_eq := Snapshot.capacity_blank capacity h
  statusReports := rfl
  messageReports := rfl
  disableRequests := rfl
  le := fun k => by simp [Mailbox.blank]
  superseded := by simp [replaced, Mailbox.blank]
  truncated := rfl
  drains := rfl
  taken := nofun

/-- A drain that begins or ends to wait changes no counter. -/
theorem waiting (h : m.Tallied capacity history) (w : Option View) :
    { m with waiting := w }.Tallied capacity history :=
  ⟨h.capacity_eq, h.statusReports, h.messageReports, h.disableRequests, h.le, h.superseded,
    h.truncated, h.drains, h.taken⟩

/-- **Posting.** -/
theorem record (h : m.Tallied capacity history) (s : Signal) :
    (m.record s).Tallied capacity (history ++ [.posted s]) := by
  have hcount (k : EventKind) : (history ++ [Entry.posted s]).countP (Entry.posts k)
      = history.countP (Entry.posts k) + (decide (s.kind = k)).toNat := countP_snoc _ _ _
  refine ⟨(capacity_record m s).trans h.capacity_eq, ?_, ?_, ?_, fun k => ?_, ?_, ?_, ?_,
    fun d hd => ?_⟩
  · rw [hcount, UInt64.ofNat_add, ← h.statusReports]
    cases s <;> simp [Mailbox.record, Signal.kind]
  · rw [hcount, UInt64.ofNat_add, ← h.messageReports]
    cases s <;> simp [Mailbox.record, Signal.kind]
  · rw [hcount, UInt64.ofNat_add, ← h.disableRequests]
    cases s <;> simp [Mailbox.record, Signal.kind]
  · have hk := h.le k
    rw [hcount, countP_snoc, pending_record, PendingSet.contains_insert]
    by_cases hs : s.kind = k
    · simp only [hs, Entry.takes, decide_true, Bool.or_true, Bool.toNat_true, Bool.toNat_false]
      omega
    · simpa [hs, Entry.takes] using hk
  · rw [superseded_record, h.superseded, ← UInt64.ofNat_add, replaced_record h, replaced_record h]
    congr 1
    cases s with
    | status code => simp only [Signal.kind, reduceCtorEq, if_true, if_false]; omega
    | message p => simp only [Signal.kind, reduceCtorEq, if_true, if_false]; omega
    | disable => rfl
  · rw [truncated_record, h.capacity_eq, countP_snoc, UInt64.ofNat_add, ← h.truncated]
  · rw [countP_snoc, UInt64.ofNat_add, ← h.drains]
    cases s <;> simp [Mailbox.record, Entry.isDrain]
  · rcases List.mem_append.mp hd with hd | hd
    · exact h.taken d hd
    · cases List.mem_singleton.mp hd

/-- **Draining** a mailbox that has something pending. -/
theorem take (h : m.Tallied capacity history) (hp : m.hasPending = true) (v : View) :
    (m.take v).2.Tallied capacity (history ++ [.drained (m.take v).1]) := by
  have hposts (k : EventKind) : (history ++ [Entry.drained (m.take v).1]).countP (Entry.posts k)
      = history.countP (Entry.posts k) := countP_snoc _ _ _
  refine ⟨h.capacity_eq, ?_, ?_, ?_, fun k => ?_, ?_, ?_, ?_, fun d hd => ?_⟩
  · rw [hposts]; exact h.statusReports
  · rw [hposts]; exact h.messageReports
  · rw [hposts]; exact h.disableRequests
  · rw [hposts, countP_snoc, pending_take, PendingSet.contains_empty]
    exact h.le k
  · rw [replaced_take, replaced_take]
    exact h.superseded
  · rw [countP_snoc]
    exact h.truncated
  · rw [countP_snoc, UInt64.ofNat_add, ← h.drains]
    rfl
  · rcases List.mem_append.mp hd with hd | hd
    · exact h.taken d hd
    · obtain rfl := Entry.drained.inj (List.mem_singleton.mp hd)
      intro hempty
      rw [kinds_take] at hempty
      simp [hasPending, hempty] at hp

end Tallied

end Mailbox

/-! ### The consumers -/

/-- The cycles that consumers made, all together. -/
def totalCycles (consumers : List Consumer) : UInt64 := (consumers.map (·.cycles)).sum

/-- If one consumer has made a further cycle, all together have. -/
theorem totalCycles_modify {consumers : List Consumer} {number : Nat} {c : Consumer}
    {f : Consumer → Consumer} (hc : consumers[number]? = some c)
    (hf : (f c).cycles = c.cycles + 1) :
    totalCycles (consumers.modify number f) = totalCycles consumers + 1 := by
  induction consumers generalizing number with
  | nil => simp at hc
  | cons d rest ih =>
    cases number with
    | zero =>
      obtain rfl : d = c := by simpa using hc
      simp only [totalCycles, List.modify_zero_cons, List.map_cons, List.sum_cons, hf]
      ac_rfl
    | succ number =>
      have hc' : rest[number]? = some c := by simpa using hc
      have hrest := ih hc'
      simp only [totalCycles, List.modify_succ_cons, List.map_cons, List.sum_cons] at hrest ⊢
      rw [hrest]
      ac_rfl

namespace Station

theorem mailbox_post (x : Station) (s : Signal) : (x.post s).1.mailbox = (x.mailbox.post s).1 := by
  rw [Station.post]
  rcases x.mailbox.post s with ⟨mailbox, _ | taken⟩ <;> rfl

/-- The counters of mailbox and consumers agree with the history, in which there were the given
number of direct drains. -/
structure Tallied (x : Station) (capacity : Nat) (history : List Entry) (direct : Nat) : Prop where
  /-- The mailbox agrees with the history. -/
  mailbox : x.mailbox.Tallied capacity history
  /-- Every drain was direct or the cycle of a consumer. -/
  cycles : x.mailbox.tally.drains = totalCycles x.consumers + .ofNat direct
  /-- A consumer that waits is one of those that were made. -/
  waiter : x.mailbox.waiting ≠ none → ∀ n, x.waiter = some n → n < x.consumers.length

namespace Tallied

variable {x : Station} {capacity : Nat} {history : List Entry} {d : Nat}

theorem ofCapacity (h : 0 < capacity) : (Station.ofCapacity capacity h).Tallied capacity [] 0 :=
  ⟨.blank h, rfl, fun hw => absurd rfl hw⟩

/-- What happens to a station keeps it, whatever the views. -/
theorem invariant (capacity : Nat) :
    Invariant (fun _ => True) fun x history d => x.Tallied capacity history d where
  fresh _ := trivial
  record {x _ _} h hw s := by
    have hdrains : (x.mailbox.record s).tally.drains = x.mailbox.tally.drains := by cases s <;> rfl
    refine ⟨h.mailbox.record s, hdrains.trans h.cycles, fun hne => ?_⟩
    rw [Mailbox.waiting_record] at hne
    exact absurd hw hne
  take {x _ d} h hw hp v _ := by
    refine ⟨h.mailbox.take hp v, ?_, fun hne => absurd hw hne⟩
    change x.mailbox.tally.drains + 1 = totalCycles x.consumers + UInt64.ofNat (d + 1)
    rw [h.cycles, UInt64.ofNat_add]
    ac_rfl
  serve {x _ d} h hw hp number c hc := by
    refine ⟨h.mailbox.take hp c.view, ?_, fun hne => absurd hw hne⟩
    change x.mailbox.tally.drains + 1
      = totalCycles (x.consumers.set number _) + UInt64.ofNat d
    rw [h.cycles, List.set_eq_modify, totalCycles_modify hc rfl]
    ac_rfl
  wait h _ _ _ _ := ⟨h.mailbox.waiting _, h.cycles, fun _ n hn => nomatch hn⟩
  attend h _ _ number _ hc := by
    refine ⟨h.mailbox.waiting _, h.cycles, fun _ n hn => ?_⟩
    obtain rfl := Option.some.inj hn
    exact (List.getElem?_eq_some_iff.mp hc).1
  complete {x _ d} h v hw s := by
    have htake := ((h.mailbox.waiting none).record s).take (Mailbox.hasPending_record _ s) v
    have hdrains : (({ x.mailbox with waiting := none }.record s).take v).2.tally.drains
        = x.mailbox.tally.drains + 1 := by cases s <;> rfl
    have hquiet : (({ x.mailbox with waiting := none }.record s).take v).2.waiting = none :=
      Mailbox.waiting_record _ s
    rw [List.append_assoc] at htake
    refine ⟨htake, hdrains.trans ?_, fun hne => absurd hquiet hne⟩
    rw [h.cycles]
    cases hwaiter : x.waiter with
    | none =>
      -- The drain was a direct one.
      simp only [wake, hwaiter]
      change _ = _ + UInt64.ofNat (d + 1)
      rw [UInt64.ofNat_add]
      ac_rfl
    | some n =>
      have hn : n < x.consumers.length := h.waiter (by simp [hw]) n hwaiter
      simp only [wake, hwaiter]
      rw [totalCycles_modify (List.getElem?_eq_getElem hn) rfl]
      change _ = _ + UInt64.ofNat d
      ac_rfl
  enlist {x _ _} h := by
    refine ⟨h.mailbox, ?_, fun hw n hn => ?_⟩
    · rw [h.cycles]
      simp [totalCycles, Consumer.ofMailbox]
    · rw [List.length_append]
      exact Nat.lt_add_right _ (h.waiter hw n hn)

end Tallied

/-- **The counters balance.** For every capacity and every run of moves:

* Reports and requests are counted as they are posted.
* Of each kind, what drains took and what is pending was posted. Of the kinds with a value, the
  rest was replaced and is counted as superseded, and nothing else is: a disable request replaces
  nothing.
* Messages that are longer than the capacity are counted as truncated.
* Drains are counted as they come to their end, and none of them took nothing. They are the cycles
  of all consumers together with the direct drains. -/
theorem counters_balance {capacity : Nat} (hpos : 0 < capacity) (moves : List Move) :
    let x := ((ofCapacity capacity hpos).run moves).1
    let history := ((ofCapacity capacity hpos).run moves).2
    let tally := x.mailbox.tally
    let posted (k : EventKind) := history.countP (Entry.posts k)
    let taken (k : EventKind) := history.countP (Entry.takes k)
    let pending (k : EventKind) := (x.mailbox.pending.contains k).toNat
    (tally.statusReports = .ofNat (posted .status) ∧
        tally.messageReports = .ofNat (posted .message) ∧
        tally.disableRequests = .ofNat (posted .disable)) ∧
      (∀ k, taken k + pending k ≤ posted k) ∧
      tally.superseded = .ofNat ((posted .status - taken .status - pending .status)
        + (posted .message - taken .message - pending .message)) ∧
      (x.step (.post .disable)).1.mailbox.tally.superseded = tally.superseded ∧
      tally.truncated = .ofNat (history.countP (Entry.overflows capacity)) ∧
      tally.drains = .ofNat (history.countP Entry.isDrain) ∧
      (∀ d, .drained d ∈ history → d.kinds ≠ ∅) ∧
      tally.drains = totalCycles x.consumers
        + .ofNat ((ofCapacity capacity hpos).directDrains moves) := by
  intro x history tally posted taken pending
  have h : x.Tallied capacity history ((ofCapacity capacity hpos).directDrains moves) := by
    simpa using (Tallied.invariant capacity).run (.ofCapacity hpos) moves fun _ _ => trivial
  have hm := h.mailbox
  have hrequest : (x.step (.post .disable)).1.mailbox.tally.superseded = tally.superseded := by
    rw [step, mailbox_post, Mailbox.superseded_post_disable]
  exact ⟨⟨hm.statusReports, hm.messageReports, hm.disableRequests⟩, hm.le, hm.superseded, hrequest,
    hm.truncated, hm.drains, hm.taken, h.cycles⟩

/-- Two statuses and a message that is too long are drained directly. A consumer then waits, and a
disable request completes its cycle. -/
theorem counters_balance_after_a_wait :
    let moves : List Move := [.post (.status 1), .post (.status 2), .post (.message [7, 8, 9]),
      .drain, .enlist, .dispatch 0 Scripted.HandlerScript.listen true {}, .post .disable]
    let x := ((ofCapacity 2 Nat.two_pos).run moves).1
    x.mailbox.tally = ⟨2, 1, 1, 1, 1, 2⟩ ∧ totalCycles x.consumers = 1 ∧
      x.mailbox.tally.drains = totalCycles x.consumers
        + .ofNat ((ofCapacity 2 Nat.two_pos).directDrains moves) := by
  intro moves x
  obtain ⟨-, -, -, -, -, -, -, hcycles⟩ := counters_balance Nat.two_pos moves
  exact ⟨by decide, by decide, hcycles⟩

end Station

end SerialBridge
