import Mathlib.Data.List.Basic
import SerialBridge.Dispatch.Scripted
import SerialBridge.Proofs.Dispatch.Projection
import SerialBridge.Proofs.Dispatch.Round

/-!
# One cycle

What a cycle of the dispatch loop owes its handler is settled when its drain ends: the signals
that were outstanding at that moment, in dispatch order, as far as the consumer has room for them.
`Loop.cycle_dispatches_what_was_due` says that these are delivered up to the first callback that
fails, whatever the callbacks post meanwhile, and that what they post is left for the next cycle.

Which callbacks a cycle makes is observed from outside. A handler that is `logged` does what it
did before and writes every call down (`projects_logged`), and `Loop.calls` is what such a handler
has written after a cycle. The callbacks of the round are these calls (`Loop.calls_eq`).
-/

namespace SerialBridge

variable {σ ε : Type}

/-! ### Handlers that log their calls -/

/-- A handler that also keeps a list of its calls, each with what was done in it and how it
ended. -/
def Handler.logged (h : Handler σ ε) : Handler (σ × List (Callback ε)) ε := fun scene d x =>
  let r := h scene d x.1
  { state := (r.state, x.2 ++ [⟨d, r.acts, r.failure⟩])
    acts := r.acts
    failure := r.failure }

/-- The list has no influence on what the handler does. -/
theorem projects_logged (h : Handler σ ε) : Projects Prod.fst h.logged h := fun _ _ _ => rfl

namespace Loop

/-- The loop of a handler that has logged nothing yet. -/
def logging (l : Loop σ) : Loop (σ × List (Callback ε)) where
  mailbox := l.mailbox
  consumer := l.consumer
  enabled := l.enabled
  state := (l.state, [])

/-- The calls that a handler gets in a cycle, in order. -/
def calls (h : Handler σ ε) (l : Loop σ) : List (Callback ε) :=
  (l.logging.cycle h.logged).1.state.2

/-- What a callback posts leaves the state of its handler alone. -/
theorem state_performAll (acts : List Act) (l : Loop σ) :
    (acts.foldl perform l).state = l.state := by
  induction acts generalizing l with
  | nil => rfl
  | cons a acts ih => exact ih _

/-- A log grows by the callbacks that are made. -/
theorem log_deliver (h : Handler σ ε) (kinds : PendingSet) (ds : List Delivery)
    (l : Loop (σ × List (Callback ε))) :
    (deliver h.logged kinds ds l).1.state.2
      = l.state.2 ++ callbacks h kinds ds (l.map Prod.fst) := by
  induction ds generalizing l with
  | nil => exact (List.append_nil _).symm
  | cons d rest ih =>
    -- The loop that logs and the loop that does not stay images of each other, so that the
    -- callbacks of the one can be told by those of the other.
    have hcall := call_map (projects_logged h) kinds d rest l
    have hlog : (l.call h.logged kinds d rest).1.state.2 = l.state.2 ++
        [⟨d, (h ⟨kinds, rest, l.mailbox, l.enabled⟩ d l.state.1).acts,
          (h ⟨kinds, rest, l.mailbox, l.enabled⟩ d l.state.1).failure⟩] := by
      rw [call, state_performAll]
      rfl
    cases he : (h ⟨kinds, rest, l.mailbox, l.enabled⟩ d l.state.1).failure with
    | some e =>
      rw [(deliver_cons_of_failure h.logged he).1,
        (deliver_cons_of_failure h (l := l.map Prod.fst) he).2, hlog, he]
      rfl
    | none =>
      rw [(deliver_cons_of_success h.logged he).1,
        (deliver_cons_of_success h (l := l.map Prod.fst) he).2, ih, hlog, he, hcall,
        List.append_assoc]
      rfl

/-- **The calls of a cycle** are the callbacks of its round. -/
theorem calls_eq (h : Handler σ ε) {l : Loop σ} (hw : l.mailbox.waiting = none)
    (hp : l.mailbox.hasPending = true) : l.calls h = (l.round h).callbacks := by
  have hcycle := cycle_of_hasPending h.logged (l := l.logging) hw hp
  rw [calls, hcycle]
  exact log_deliver h _ _ l.logging.drained

end Loop

/-! ### What a cycle owes -/

/-- The signal that a callback hands over. -/
def Delivery.signal : Delivery → Signal
  | .status code => .status code
  | .message snapshot => .message snapshot.bytes
  | .disable => .disable

/-- A signal as far as there is room for it. Only messages take room. -/
def Signal.cut (room : Nat) : Signal → Signal
  | .message payload => .message (payload.take room)
  | s => s

namespace Mailbox

/-- The signal that stands for a kind, if the kind is pending. -/
def slot (m : Mailbox) : EventKind → Signal
  | .status => .status m.status
  | .message => .message m.message.bytes
  | .disable => .disable

theorem outstanding_eq (m : Mailbox) : m.outstanding = m.pending.toList.map m.slot := rfl

/-- What a drain delivers is what was outstanding, in dispatch order. -/
theorem signals_deliveries_take (m : Mailbox) (v : View) :
    (m.take v).1.deliveries.map Delivery.signal = m.outstanding.map (Signal.cut v.room) := by
  have hdue : ∀ k ∈ m.pending.toList,
      ((m.take v).1.view.delivery? k).map Delivery.signal
        = (some ∘ Signal.cut v.room ∘ m.slot) k := by
    intro k hk
    have hc : m.pending.contains k = true := PendingSet.mem_toList.mp hk
    -- A message is stored in the view, which may cut it; the other kinds come through as they are.
    cases k with
    | status => simp [take, fill, View.delivery?, hc, Delivery.signal, Signal.cut, slot]
    | message =>
      simp [take, fill, View.delivery?, View.message?, View.reset, hc, Delivery.signal, Signal.cut,
        View.room, slot]
    | disable => rfl
  rw [Drained.deliveries, List.map_filterMap, kinds_take, List.filterMap_congr hdue,
    List.filterMap_eq_map, outstanding_eq, List.map_map]

/-- A view with room for every message cuts nothing off. -/
theorem cut_outstanding {m : Mailbox} {room : Nat} (h : m.capacity ≤ room) :
    m.outstanding.map (Signal.cut room) = m.outstanding := by
  have hslot : ∀ k, (Signal.cut room ∘ m.slot) k = m.slot k := by
    intro k
    have hlen : m.message.bytes.length ≤ m.capacity :=
      (Snapshot.length_bytes m.message).symm ▸ m.message.length_le
    cases k with
    | status => rfl
    | message => exact congrArg Signal.message (List.take_of_length_le (Nat.le_trans hlen h))
    | disable => rfl
  rw [outstanding_eq, List.map_map, funext hslot]

/-- Acts that are carried out while no drain waits end no drain. -/
theorem drains_performAll {m : Mailbox} (hw : m.waiting = none) (acts : List Act) :
    (acts.foldl perform m).tally.drains = m.tally.drains := by
  induction acts generalizing m with
  | nil => rfl
  | cons a acts ih =>
    cases a with
    | post s =>
      -- A report completes a drain only if one waits, so here it is recorded and that is all.
      have hs : m.perform (.post s) = m.record s := by rw [perform, post_eq_record hw]
      rw [List.foldl_cons, hs, ih ((waiting_record m s).trans hw)]
      cases s <;> rfl
    | setEnabled value => exact ih hw

end Mailbox

/-! ### The cycle -/

namespace Loop

/-- **A cycle dispatches what was due when its drain ended.** Take any mailbox that has something
pending and that nobody else drains, any consumer and any handler. What is due are the outstanding
signals in dispatch order, messages cut to the room of the consumer's view, and `calls` are the
calls that the handler gets.

* Either the calls hand over all that is due, none fails, and the cycle answers with the pending
  set; or the last call fails, and it alone, the cycle answers with its error, and what was to
  follow is not delivered.
* A consumer with room for every message is handed the outstanding signals as they were.
* The consumer has the view of this drain, and made one cycle more; the mailbox was drained once
  more.
* The mailbox holds exactly what the calls posted, and this is what the next cycle takes. -/
theorem cycle_dispatches_what_was_due (h : Handler σ ε) (l : Loop σ)
    (hd : l.mailbox.isDraining = false) (hp : l.mailbox.hasPending = true) :
    let after := (l.cycle h).1
    let calls := l.calls h
    let due := l.mailbox.outstanding.map (Signal.cut l.consumer.view.room)
    let reports := posts (calls.flatMap (·.acts))
    (((l.cycle h).2 = .dispatched l.mailbox.pending ∧ calls.map (·.delivery.signal) = due ∧
          ∀ c ∈ calls, c.failure = none) ∨
        ∃ e earlier last undelivered, (l.cycle h).2 = .failed e ∧ calls = earlier ++ [last] ∧
          last.failure = some e ∧ (∀ c ∈ earlier, c.failure = none) ∧
          due = calls.map (·.delivery.signal) ++ undelivered) ∧
      (l.mailbox.capacity ≤ l.consumer.view.room → due = l.mailbox.outstanding) ∧
      (∃ taken mailbox, l.mailbox.drainInto l.consumer.view = .took taken mailbox ∧
        after.consumer = { view := taken.view, cycles := l.consumer.cycles + 1 }) ∧
      after.mailbox.tally.drains = l.mailbox.tally.drains + 1 ∧
      after.mailbox.Holds reports ∧ after.taken.Coalesces after.room reports := by
  intro after calls due reports
  have hw : l.mailbox.waiting = none := by simpa [Mailbox.isDraining] using hd
  have hcalls : calls = (l.round h).callbacks := calls_eq h hw hp
  have hsignals : calls.map (·.delivery.signal)
      = ((l.round h).callbacks.map (·.delivery)).map Delivery.signal := by
    rw [hcalls, List.map_map]
    rfl
  have hafter : after = l.dispatched h := congrArg Prod.fst (cycle_of_hasPending h hw hp)
  have hdue : due = (l.round h).taken.deliveries.map Delivery.signal :=
    (Mailbox.signals_deliveries_take l.mailbox l.consumer.view).symm
  have hdrain := Mailbox.drainInto_of_hasPending hw hp l.consumer.view
  have hreports : reports = (l.round h).posts :=
    congrArg (fun cs => posts (cs.flatMap (·.acts))) hcalls
  have hholds : after.mailbox.Holds reports := by
    rw [hafter, hreports]
    exact holds_dispatched h hw
  refine ⟨?_, Mailbox.cut_outstanding, ⟨l.taken, _, hdrain, ?_⟩, ?_, hholds, coalesces_taken hholds⟩
  -- All callbacks of the round succeed, or the last one fails and the rest is undelivered.
  · rw [hsignals, hdue, hcalls]
    rcases cycle_cases h hw hp with
      ⟨hcycle, hall, hok⟩ | ⟨e, hcycle, earlier, last, undelivered, hsplit, hlast, hok, hall⟩
    · exact .inl ⟨by rw [hcycle]; rfl, by rw [hall], hok⟩
    · refine .inr ⟨e, earlier, last, undelivered.map Delivery.signal, by rw [hcycle], hsplit, hlast,
        hok, ?_⟩
      rw [hall, List.map_append]
  · rw [hafter, consumer_dispatched]
  · rw [hafter, mailbox_dispatched, Mailbox.drains_performAll (m := (l.mailbox.take _).2) hw]
    rfl

/-- A loop that finds one signal of each kind, in a consumer whose view has served before. The
script answers the status with newer reports, and fails on the message. -/
def overtaken : Loop Scripted.HandlerScript where
  mailbox := (Mailbox.blank 2 Nat.two_pos).postAll [.message [7, 8, 9], .disable, .status 1]
  consumer := { view :=
    { status := some 4, message := .overwrite (.blank 2 Nat.two_pos) [6], hasMessage := true } }
  enabled := true
  state :=
    { turns := [{ acts := [.post (.status 5), .post (.message [1])] },
        { acts := [.post .disable], failure := some "full" }] }

/-- The newer reports are not delivered by the cycle that was under way, and neither is the disable
request. -/
theorem cycle_dispatches_before_a_failure :
    let calls := overtaken.calls Scripted.HandlerScript.play
    let after := overtaken.cycle Scripted.HandlerScript.play
    overtaken.mailbox.isDraining = false ∧ overtaken.mailbox.hasPending = true ∧
      calls.map (·.delivery.signal) = [.status 1, .message [7, 8]] ∧ after.2 = .failed "full" ∧
      after.1.mailbox.Holds [.status 5, .message [1], .disable] := by
  intro calls after
  obtain ⟨-, -, -, -, hholds, -⟩ :=
    cycle_dispatches_what_was_due Scripted.HandlerScript.play overtaken rfl rfl
  have hcalls : calls.map (·.delivery.signal) = [.status 1, .message [7, 8]] := rfl
  have hfailed : after.2 = .failed "full" := rfl
  exact ⟨rfl, rfl, hcalls, hfailed, hholds⟩

end Loop

end SerialBridge
