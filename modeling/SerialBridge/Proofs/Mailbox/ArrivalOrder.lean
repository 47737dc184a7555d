import Mathlib.Data.List.Induction
import SerialBridge.Proofs.Dispatch.Cycle

/-!
# The order of arrival across kinds

Producers of different kinds may overtake each other on the way to a mailbox. It makes no
difference: two sequences of signals that agree **kind by kind** leave the same mailbox, down to
stale bytes and counters, and the next cycle makes the same calls
(`Mailbox.arrival_order_across_kinds_is_irrelevant`).

Two signals of different kinds commute (`Mailbox.record_comm`), so the first signal of a sequence
can be brought to the front of any other sequence that agrees with it (`foldl_record_middle`). What
is outstanding is then told without any order among the kinds (`Mailbox.Holds.outstanding_eq`).
-/

namespace SerialBridge

/-- The signals of one kind, in the order in which they were posted. -/
def ofKind (k : EventKind) (signals : List Signal) : List Signal :=
  signals.filter fun s => s.kind = k

/-- The sequences have the same signals of each kind, in the same order. How signals of different
kinds stand to each other is left open. -/
def AgreeByKind (xs ys : List Signal) : Prop := ∀ k, ofKind k xs = ofKind k ys

/-! ### Sequences that agree kind by kind -/

namespace AgreeByKind

variable {s : Signal} {xs ys : List Signal}

theorem eq_nil (h : AgreeByKind [] ys) : ys = [] := by
  refine List.eq_nil_iff_forall_not_mem.mpr fun t ht => ?_
  have hmem : t ∈ ofKind t.kind ys := List.mem_filter.mpr ⟨ht, by simp⟩
  rw [← h] at hmem
  cases hmem

/-- The first signal of one sequence stands in the other as well, with no signal of its kind before
it. Without it the sequences agree still. -/
theorem exists_split (h : AgreeByKind (s :: xs) ys) :
    ∃ before after, ys = before ++ s :: after ∧ (∀ t ∈ before, t.kind ≠ s.kind) ∧
      AgreeByKind xs (before ++ after) := by
  have hs : ofKind s.kind ys = s :: ofKind s.kind xs := by
    rw [← h, ofKind, List.filter_cons_of_pos (by simp)]
    rfl
  obtain ⟨before, after, rfl, hbefore, -, hafter⟩ := List.filter_eq_cons_iff.mp hs
  have hskip : ∀ t ∈ before, t.kind ≠ s.kind := by simpa using hbefore
  refine ⟨before, after, rfl, hskip, fun k => ?_⟩
  -- Of its own kind the signal comes first in both; of any other kind it makes no difference.
  by_cases hk : s.kind = k
  · subst hk
    have hnone : ofKind s.kind before = [] := List.filter_eq_nil_iff.mpr (by simpa using hskip)
    have hsplit : ofKind s.kind (before ++ after)
        = ofKind s.kind before ++ ofKind s.kind after := List.filter_append ..
    rw [hsplit, hnone, List.nil_append]
    exact hafter.symm
  · have hall := h k
    simpa [ofKind, hk] using hall

end AgreeByKind

namespace Mailbox

variable {m : Mailbox}

/-! ### Signals of different kinds commute -/

/-- A status and a message have different slots and bits, and the counters they share are sums. -/
theorem record_status_message (m : Mailbox) (code : Int32) (p : List UInt8) :
    (m.record (.status code)).record (.message p)
      = (m.record (.message p)).record (.status code) := by
  have hpending := m.pending.insert_comm .status .message
  -- Both may supersede something, and the one counter for that is added to in either order.
  have hsuperseded (a b : UInt64) : m.tally.superseded + a + b = m.tally.superseded + b + a := by
    ac_rfl
  simp only [record, PendingSet.record, Signal.kind, PendingSet.contains_insert, hpending,
    hsuperseded (increment (m.pending.contains .status)), reduceCtorEq, decide_false, Bool.or_false]
  rfl

/-- A disable request has no slot, only a bit and a counter. -/
theorem record_disable (m : Mailbox) {s : Signal} (h : s.kind ≠ .disable) :
    (m.record s).record .disable = (m.record .disable).record s := by
  have hpending := m.pending.insert_comm s.kind .disable
  cases s with
  | status code => simp_all [record, PendingSet.record, Signal.kind, PendingSet.contains_insert]
  | message p =>
    simp_all only [record, PendingSet.record, Signal.kind, PendingSet.contains_insert,
      reduceCtorEq, decide_false, Bool.or_false]
    rfl
  | disable => exact absurd rfl h

/-- **Commuting.** Each of the two finds its own kind, slot and counters as the other left them. -/
theorem record_comm (m : Mailbox) {s t : Signal} (h : s.kind ≠ t.kind) :
    (m.record s).record t = (m.record t).record s := by
  cases s with
  | status code =>
    cases t with
    | status _ => exact absurd rfl h
    | message p => exact m.record_status_message code p
    | disable => exact m.record_disable h
  | message p =>
    cases t with
    | status code => exact (m.record_status_message code p).symm
    | message _ => exact absurd rfl h
    | disable => exact m.record_disable h
  | disable => exact (m.record_disable h.symm).symm

/-- While no drain waits, posting is recording. -/
theorem postAll_eq_foldl_record (hw : m.waiting = none) (signals : List Signal) :
    m.postAll signals = signals.foldl record m := by
  induction signals generalizing m with
  | nil => rfl
  | cons s rest ih =>
    have hrest := ih ((waiting_record m s).trans hw)
    rw [postAll, List.foldl_cons, post_eq_record hw]
    exact hrest

/-- Posting changes neither the capacity nor that no drain waits. -/
theorem postAll_fields (hw : m.waiting = none) (signals : List Signal) :
    (m.postAll signals).capacity = m.capacity ∧ (m.postAll signals).waiting = none := by
  rw [postAll_eq_foldl_record hw]
  refine List.foldlRecOn signals
    (motive := fun m' => m'.capacity = m.capacity ∧ m'.waiting = none) record ⟨rfl, hw⟩ ?_
  intro m' ⟨hcapacity, hwaiting⟩ s _
  exact ⟨(capacity_record m' s).trans hcapacity, (waiting_record m' s).trans hwaiting⟩

/-- A signal may as well be recorded before others that are not of its kind. -/
theorem foldl_record_middle (m : Mailbox) {s : Signal} {before : List Signal}
    (h : ∀ t ∈ before, t.kind ≠ s.kind) (after : List Signal) :
    (before ++ s :: after).foldl record m = (s :: (before ++ after)).foldl record m := by
  induction before generalizing m with
  | nil => rfl
  | cons t before ih =>
    have ht : t.kind ≠ s.kind := h t List.mem_cons_self
    have hrest := ih (m.record t) fun u hu => h u (List.mem_cons_of_mem t hu)
    calc (t :: before ++ s :: after).foldl record m
        = (before ++ after).foldl record ((m.record t).record s) := hrest
      _ = (before ++ after).foldl record ((m.record s).record t) := by rw [record_comm m ht]

/-- Sequences that agree kind by kind are recorded alike. -/
theorem foldl_record_congr {xs ys : List Signal} (h : AgreeByKind xs ys) (m : Mailbox) :
    xs.foldl record m = ys.foldl record m := by
  induction xs generalizing m ys with
  | nil => rw [h.eq_nil]
  | cons s xs ih =>
    -- Bring the signal to the front of the other sequence, and what follows agrees again.
    obtain ⟨before, after, rfl, hbefore, hrest⟩ := h.exists_split
    rw [foldl_record_middle m hbefore]
    exact ih hrest (m.record s)

/-! ### What is outstanding -/

/-- What stands in the slot of a kind, if the kind is pending, is the latest signal of the kind. -/
theorem Holds.slot_eq {signals : List Signal} (h : m.Holds signals) (k : EventKind) :
    (if k ∈ m.pending then some (m.slot k) else none)
      = (ofKind k signals).getLast?.map (Signal.cut m.capacity) := by
  -- A kind is pending if a signal of it came, and then the last of these stands in its slot.
  by_cases hk : ∃ s ∈ signals, s.kind = k
  · obtain ⟨before, s, after, rfl, hs, hafter⟩ := exists_last_of_kind hk
    have hlast : (ofKind k (before ++ s :: after)).getLast? = some s := by
      have hnone : ofKind k after = [] := List.filter_eq_nil_iff.mpr (by simpa using hafter)
      have hone : ofKind k (s :: after) = s :: ofKind k after :=
        List.filter_cons_of_pos (by simpa using hs)
      rw [ofKind, List.filter_append, ← ofKind, ← ofKind, hone, hnone]
      exact List.getLast?_concat
    rw [if_pos ((h.kinds k).mpr hk), hlast, Option.map_some]
    refine congrArg some ?_
    cases s with
    | status code =>
      obtain rfl := hs
      have hcode := (latest_eq_some_iff Signal.isSome_status?_iff).mpr
        ⟨before, .status code, after, rfl, rfl, hafter⟩
      exact congrArg Signal.status (h.status code hcode)
    | message p =>
      obtain rfl := hs
      have hp := (latest_eq_some_iff Signal.isSome_payload?_iff).mpr
        ⟨before, .message p, after, rfl, rfl, hafter⟩
      exact congrArg Signal.message (h.message p hp)
    | disable =>
      obtain rfl := hs
      rfl
  · have hnone : ofKind k signals = [] :=
      List.filter_eq_nil_iff.mpr fun s hs hkind => hk ⟨s, hs, by simpa using hkind⟩
    rw [if_neg (mt (h.kinds k).mp hk), hnone]
    rfl

/-- **What is outstanding** is the latest signal of each kind, in dispatch order and as far as the
mailbox has room for it. -/
theorem Holds.outstanding_eq {signals : List Signal} (h : m.Holds signals) :
    m.outstanding = EventKind.dispatchOrder.filterMap fun k =>
      (ofKind k signals).getLast?.map (Signal.cut m.capacity) := by
  have hdue : m.outstanding
      = EventKind.dispatchOrder.filterMap fun k =>
          if k ∈ m.pending then some (m.slot k) else none := by
    rw [Mailbox.outstanding_eq, ← List.filterMap_eq_map, PendingSet.toList, List.filterMap_filter]
    rfl
  rw [hdue]
  exact congrArg (fun due => EventKind.dispatchOrder.filterMap due) (funext h.slot_eq)

/-- Posting adds to what was outstanding. -/
theorem holds_postAll (hw : m.waiting = none) (signals : List Signal) :
    (m.postAll signals).Holds (m.outstanding ++ signals) := by
  rw [postAll_eq_foldl_record hw]
  induction signals using List.reverseRecOn with
  | nil =>
    rw [List.append_nil]
    exact m.holds_outstanding
  | append_singleton signals s ih =>
    rw [List.foldl_append, ← List.append_assoc]
    exact ih.record s

end Mailbox

/-- What the calls of a cycle hand over begins what was outstanding, cut to the consumer's room. -/
theorem Loop.signals_calls_prefix {σ ε : Type} (h : Handler σ ε) {l : Loop σ}
    (hw : l.mailbox.waiting = none) :
    (l.calls h).map (·.delivery.signal)
      <+: l.mailbox.outstanding.map (Signal.cut l.consumer.view.room) := by
  cases hp : l.mailbox.hasPending with
  | false =>
    have hidle := cycle_of_not_hasPending h.logged (l := l.logging) hw hp
    rw [calls, hidle]
    exact List.nil_prefix
  | true =>
    have hmade : (l.calls h).map (·.delivery) <+: l.taken.deliveries := by
      rw [calls_eq h hw hp]
      rcases cycle_cases h hw hp with ⟨-, hall, -⟩ | ⟨e, -, -, -, undelivered, -, -, -, hall⟩
      · exact hall ▸ List.prefix_rfl
      · exact ⟨undelivered, hall.symm⟩
    have hsignals := hmade.map Delivery.signal
    rw [List.map_map, taken, Mailbox.signals_deliveries_take] at hsignals
    exact hsignals

namespace Mailbox

/-- **The order of arrival across kinds is irrelevant.** Take any mailbox whose drain does not wait,
and two sequences of signals that agree kind by kind.

* Either sequence leaves the same mailbox: the same pending set, status, storage of the message with
  its stale bytes, and counters.
* What is then outstanding is told by the kinds apart: in dispatch order, the latest signal of each
  kind among those that were outstanding before and those that were posted, as far as the mailbox
  has room for it.
* Any consumer's next cycle makes the same calls in the same order, and ends alike. What the calls
  hand over begins what is outstanding, cut to the room of the consumer. -/
theorem arrival_order_across_kinds_is_irrelevant (m : Mailbox) (hd : m.isDraining = false)
    {xs ys : List Signal} (h : AgreeByKind xs ys) :
    m.postAll xs = m.postAll ys ∧
      ((m.postAll xs).outstanding = EventKind.dispatchOrder.filterMap fun k =>
        (ofKind k (m.outstanding ++ xs)).getLast?.map (Signal.cut m.capacity)) ∧
      ∀ {σ ε : Type} (handler : Handler σ ε) (consumer : Consumer) (enabled : Bool) (state : σ),
        let first : Loop σ := { mailbox := m.postAll xs, consumer, enabled, state }
        let second : Loop σ := { mailbox := m.postAll ys, consumer, enabled, state }
        first.calls handler = second.calls handler ∧
          first.cycle handler = second.cycle handler ∧
          (second.calls handler).map (·.delivery.signal)
            <+: (m.postAll xs).outstanding.map (Signal.cut consumer.view.room) := by
  have hw : m.waiting = none := by simpa [isDraining] using hd
  have hsame : m.postAll xs = m.postAll ys := by
    rw [postAll_eq_foldl_record hw, postAll_eq_foldl_record hw, foldl_record_congr h]
  obtain ⟨hcapacity, hwaiting⟩ := postAll_fields hw xs
  refine ⟨hsame, ?_, ?_⟩
  · have hdue := (holds_postAll hw xs).outstanding_eq
    rw [hcapacity] at hdue
    exact hdue
  · intro σ ε handler consumer enabled state first second
    have hloops : first = second := congrArg (Loop.mk · consumer enabled state) hsame
    rw [← hloops]
    exact ⟨rfl, rfl, Loop.signals_calls_prefix handler hwaiting⟩

/-- A mailbox has a status pending. Two statuses, two messages and a disable request come in, in an
order and in a quite different one. -/
theorem arrival_order_of_five_signals_is_irrelevant :
    let m := (Mailbox.blank 3 (by decide)).postAll [.status 4]
    let xs : List Signal :=
      [.message [7, 8, 9, 6], .status 1, .disable, .message [5], .status 2]
    let ys : List Signal :=
      [.status 1, .status 2, .message [7, 8, 9, 6], .message [5], .disable]
    m.isDraining = false ∧ AgreeByKind xs ys ∧ m.postAll xs = m.postAll ys ∧
      (m.postAll ys).outstanding = [.status 2, .message [5], .disable] := by
  intro m xs ys
  have hagree : AgreeByKind xs ys := by
    intro k
    cases k <;> rfl
  obtain ⟨hsame, hdue, -⟩ := arrival_order_across_kinds_is_irrelevant m rfl hagree
  rw [← hsame]
  exact ⟨rfl, hagree, rfl, hdue.trans (by decide)⟩

end Mailbox

end SerialBridge
