import SerialBridge.Proofs.Dispatch.Cycle
import SerialBridge.Proofs.Dispatch.Interludes

/-!
# The loop makes no idle cycles

The dispatch loop may run for ever, since callbacks refill the mailbox that they are served from
and a disable request that is seen with the flag set does not end it. It does not do so for
nothing. A drain needs something pending and leaves nothing pending, so between two drains somebody
posts: every cycle but the first is **paid for** by a post of its own.

The measure is `Mailbox.due`, the number of drains that the mailbox is good for. A post raises it by
one at most (`Mailbox.due_performAll`), and a cycle takes it down to what its own callbacks post
(`Loop.due_dispatched`). `Loop.cycles_are_paid_for` counts the rounds of a run among others with it,
and follows for the loop by itself that it comes to an end or waits once its callbacks have posted
for the last time.
-/

namespace SerialBridge

/-! ### What a mailbox is good for -/

/-- The number of drains that end without a further post: one if something is pending. -/
def Mailbox.due (m : Mailbox) : Nat := m.hasPending.toNat

/-- Acts make one drain due, at most, for each signal that they post. -/
theorem Mailbox.due_performAll (acts : List Act) (m : Mailbox) :
    (acts.foldl perform m).due ≤ m.due + (posts acts).length := by
  induction acts generalizing m with
  | nil => exact Nat.le_refl _
  | cons a acts ih =>
    have hrest := ih (m.perform a)
    cases a with
    | post s =>
      have hone : (m.perform (.post s)).due ≤ 1 := Bool.toNat_le _
      have hlen : (posts (.post s :: acts)).length = (posts acts).length + 1 := rfl
      rw [List.foldl_cons]
      omega
    | setEnabled value => exact hrest

namespace Moment

/-- Whether a moment is a wait. -/
def isWait : Moment → Bool
  | .waited => true
  | _ => false

/-- What is posted in the course of moments, by whomever, in order. -/
def posted (moments : List Moment) : List Signal := posts (acts moments)

theorem posted_append (xs ys : List Moment) : posted (xs ++ ys) = posted xs ++ posted ys := by
  rw [posted, acts_append, posts, List.filterMap_append]
  rfl

theorem posted_outside (acts : List Act) : posted (acts.map .outside) = posts acts := by
  rw [posted, acts_map_outside]

theorem posted_moments {ε : Type} (r : Round ε) : posted r.moments = r.posts := by
  rw [posted, Round.acts_moments]
  rfl

/-- What others do is no wait. -/
theorem countP_isWait_outside (acts : List Act) : (acts.map outside).countP isWait = 0 := by
  simp [List.countP_map, Function.comp_def, isWait]

/-- Nothing in a round is a wait. -/
theorem countP_isWait_moments {ε : Type} (r : Round ε) : r.moments.countP isWait = 0 := by
  simp [Round.moments, List.countP_map, Function.comp_def, isWait]

end Moment

namespace Loop

variable {σ ε : Type} (h : Handler σ ε)

theorem due_performAll (acts : List Act) (l : Loop σ) :
    (acts.foldl perform l).mailbox.due ≤ l.mailbox.due + (posts acts).length := by
  rw [mailbox_performAll]
  exact Mailbox.due_performAll acts l.mailbox

/-- After a cycle, a drain is due only if the callbacks posted something. -/
theorem due_dispatched (l : Loop σ) :
    (l.dispatched h).mailbox.due ≤ (l.round h).posts.length := by
  have hacts := Mailbox.due_performAll (l.round h).acts (l.mailbox.take l.consumer.view).2
  have hdrained : (l.mailbox.take l.consumer.view).2.due = 0 := rfl
  rw [mailbox_dispatched]
  rw [hdrained, Nat.zero_add] at hacts
  exact hacts

/-- **No cycle is idle.** A cycle that drains something makes a callback. -/
theorem callbacks_ne_nil {l : Loop σ} (hp : l.mailbox.hasPending = true) :
    (l.round h).callbacks ≠ [] := by
  have hdue : l.taken.deliveries ≠ [] := by
    intro hnil
    have hmap := l.mailbox.signals_deliveries_take l.consumer.view
    have hnone : l.mailbox.outstanding.map (Signal.cut l.consumer.view.room) = [] := by
      rw [← hmap]
      exact List.map_eq_nil_iff.mpr hnil
    exact l.mailbox.holds_outstanding.hasPending_iff.mp hp (List.map_eq_nil_iff.mp hnone)
  obtain ⟨d, rest, hds⟩ := List.exists_cons_of_ne_nil hdue
  change callbacks h l.taken.kinds l.taken.deliveries l.drained ≠ []
  rw [hds, callbacks]
  exact List.cons_ne_nil _ _

/-! ### The rounds of a run among others -/

variable (interludes : List (List Act)) (l : Loop σ)

/-- **Every round is paid for**, by what was pending at the start or by a post of its own. -/
theorem length_roundsAmid_le :
    (l.roundsAmid h interludes).length
      ≤ l.mailbox.due + (Moment.posted (l.moments h interludes)).length := by
  induction interludes generalizing l with
  | nil => exact Nat.zero_le _
  | cons interlude rest ih =>
    have hdue := due_performAll interlude l
    cases attempt h interlude l with
    | refused _ _ hrounds _ =>
      rw [hrounds]
      exact Nat.zero_le _
    | waits _ _ hrounds hmoments =>
      have hrest := ih (interlude.foldl perform l)
      have hwait : Moment.posted (.waited :: (interlude.foldl perform l).moments h rest)
          = Moment.posted ((interlude.foldl perform l).moments h rest) := rfl
      rw [hrounds, hmoments, Moment.posted_append, Moment.posted_outside, hwait,
        List.length_append]
      omega
    | ends hp _ _ _ hrounds hmoments =>
      have hone : (interlude.foldl perform l).mailbox.due = 1 := congrArg Bool.toNat hp
      rw [hrounds, hmoments, Moment.posted_append, Moment.posted_outside, List.length_append,
        List.length_singleton]
      omega
    | continues hp _ _ hrounds hmoments =>
      -- The drain of this round was due; the one after it has to be paid for by its callbacks.
      have hone : (interlude.foldl perform l).mailbox.due = 1 := congrArg Bool.toNat hp
      have hnext := due_dispatched h (interlude.foldl perform l)
      have hrest := ih ((interlude.foldl perform l).dispatched h)
      rw [hrounds, hmoments, Moment.posted_append, Moment.posted_append, Moment.posted_outside,
        Moment.posted_moments, List.length_append, List.length_append, List.length_cons]
      omega

/-- The consumer counts the rounds. -/
theorem cycles_runAmid :
    (l.runAmid h interludes).1.consumer.cycles
      = l.consumer.cycles + .ofNat (l.roundsAmid h interludes).length := by
  induction interludes generalizing l with
  | nil => exact (UInt64.add_zero _).symm
  | cons interlude rest ih =>
    have hcycles : (interlude.foldl perform l).consumer.cycles = l.consumer.cycles := by
      rw [consumer_performAll]
    cases attempt h interlude l with
    | refused _ hrun hrounds _ =>
      rw [hrun, hrounds, hcycles]
      exact (UInt64.add_zero _).symm
    | waits _ hrun hrounds _ =>
      have hrest := ih (interlude.foldl perform l)
      rw [hrun, hrounds, ← hcycles, ← hrest]
      split
      · next hlast => rw [List.isEmpty_iff.mp hlast]; rfl
      · rfl
    | ends _ _ _ hrun hrounds _ =>
      rw [hrun, hrounds, consumer_dispatched, hcycles]
      rfl
    | continues _ _ hrun hrounds _ =>
      rw [hrun, hrounds, ih, consumer_dispatched, hcycles, List.length_cons, Nat.add_comm,
        UInt64.ofNat_add, UInt64.add_assoc]
      rfl

/-- While the run goes on, every attempt is a round or a wait. -/
theorem length_interludes_eq (hend : (l.runAmid h interludes).2 = .unfinished ∨
      (l.runAmid h interludes).2 = .waiting) :
    interludes.length = (l.roundsAmid h interludes).length
      + (l.moments h interludes).countP Moment.isWait := by
  induction interludes generalizing l with
  | nil => rfl
  | cons interlude rest ih =>
    cases attempt h interlude l with
    | refused _ hrun _ _ =>
      rw [hrun] at hend
      exact hend.elim nofun nofun
    | waits _ hrun hrounds hmoments =>
      have hrest : rest.length = ((interlude.foldl perform l).roundsAmid h rest).length
          + ((interlude.foldl perform l).moments h rest).countP Moment.isWait := by
        cases rest with
        | nil => rfl
        | cons next rest => exact ih _ (by rwa [hrun] at hend)
      rw [hrounds, hmoments, List.countP_append, Moment.countP_isWait_outside,
        List.countP_cons_of_pos rfl, List.length_cons]
      omega
    | ends _ _ hended hrun _ _ =>
      -- A run that has failed or exited neither goes on nor waits.
      rw [hrun] at hend
      rcases hended with ⟨e, rfl⟩ | ⟨rfl, -⟩
      · exact hend.elim nofun nofun
      · exact hend.elim nofun nofun
    | continues _ _ hrun hrounds hmoments =>
      rw [hrun] at hend
      have hrest := ih _ hend
      rw [hrounds, hmoments, List.countP_append, List.countP_append, Moment.countP_isWait_outside,
        Moment.countP_isWait_moments, List.length_cons, List.length_cons]
      omega

/-- In every round of a run among others a callback is made. -/
theorem callbacks_ne_nil_of_mem {r : Round ε} (hr : r ∈ l.roundsAmid h interludes) :
    r.callbacks ≠ [] := by
  induction interludes generalizing l with
  | nil => cases hr
  | cons interlude rest ih =>
    cases attempt h interlude l with
    | refused _ _ hrounds _ =>
      rw [hrounds] at hr
      cases hr
    | waits _ _ hrounds _ =>
      rw [hrounds] at hr
      exact ih _ hr
    | ends hp _ _ _ hrounds _ =>
      rw [hrounds] at hr
      obtain rfl := List.mem_singleton.mp hr
      exact callbacks_ne_nil h hp
    | continues hp _ _ hrounds _ =>
      rw [hrounds] at hr
      rcases List.mem_cons.mp hr with rfl | hr
      · exact callbacks_ne_nil h hp
      · exact ih _ hr

/-! ### The loop by itself -/

variable {l}

theorem rounds_of_not_hasPending (hw : l.mailbox.waiting = none) (hp : l.mailbox.hasPending = false)
    (limit : Nat) : l.rounds h limit = [] := by
  cases limit with
  | zero => rfl
  | succ limit => rw [rounds, cycle_of_not_hasPending h hw hp]

/-- The rounds of a run are its first, and those that follow if that did not end the run. -/
theorem rounds_succ (l : Loop σ) (limit : Nat) :
    l.rounds h (limit + 1) =
      match l.run h 1 with
      | (_, .refused) => []
      | (_, .waiting) => []
      | (_, .exited) => [l.round h]
      | (_, .failed _) => [l.round h]
      | (l', .unfinished) => l.round h :: l'.rounds h limit := by
  rw [rounds, run]
  rcases l.cycle h with ⟨l', _ | _ | kinds | e⟩
  · rfl
  · rfl
  · cases hexit : kinds.contains .disable && !l'.enabled with
    | true => simp only [hexit, if_true]
    | false => simp only [hexit, Bool.false_eq_true, if_false]; rfl
  · rfl

/-- Among others who do nothing, the loop makes the rounds that it makes by itself, and only its
callbacks post. -/
theorem roundsAmid_replicate (hw : l.mailbox.waiting = none) (limit : Nat) :
    l.roundsAmid h (List.replicate limit []) = l.rounds h limit ∧
      Moment.posted (l.moments h (List.replicate limit []))
        = (l.rounds h limit).flatMap Round.posts := by
  have hlone (r : Round ε) : Moment.posted r.moments = [r].flatMap Round.posts := by
    rw [Moment.posted_moments, List.flatMap_singleton]
  induction limit generalizing l with
  | zero => exact ⟨rfl, rfl⟩
  | succ limit ih =>
    rw [List.replicate_succ]
    cases hp : l.mailbox.hasPending with
    | false =>
      have hrest := ih hw
      rw [rounds_of_not_hasPending h hw hp] at hrest ⊢
      rw [roundsAmid, moments, List.foldl_nil, run_of_not_hasPending h hw hp 0]
      exact hrest
    | true =>
      rw [rounds_succ, roundsAmid, moments, List.foldl_nil]
      cases l.begins h hw hp 0 with
      | fails e _ hrun _ =>
        rw [hrun]
        exact ⟨rfl, hlone _⟩
      | exits _ _ hrun _ =>
        rw [hrun]
        exact ⟨rfl, hlone _⟩
      | continues _ _ hrun _ =>
        obtain ⟨hrounds, hposted⟩ := ih (waiting_dispatched h hw)
        rw [hrun]
        refine ⟨congrArg (l.round h :: ·) hrounds, ?_⟩
        change Moment.posted
            ((l.round h).moments ++ (l.dispatched h).moments h (List.replicate limit []))
          = (l.round h :: (l.dispatched h).rounds h limit).flatMap Round.posts
        rw [Moment.posted_append, Moment.posted_moments, List.flatMap_cons, hposted]

/-- How a run can end that is given a number of cycles to make. If they do not suffice, it has made
them all. -/
theorem run_cases (hw : l.mailbox.waiting = none) (limit : Nat) :
    ((l.run h limit).2 = .unfinished ∧ (l.rounds h limit).length = limit) ∨
      (l.run h limit).2 = .exited ∨ (∃ e, (l.run h limit).2 = .failed e) ∨
      ((l.run h limit).2 = .waiting ∧ (l.run h limit).1.mailbox.hasPending = false) := by
  induction limit generalizing l with
  | zero => exact .inl ⟨rfl, rfl⟩
  | succ limit ih =>
    cases hp : l.mailbox.hasPending with
    | false =>
      rw [run_of_not_hasPending h hw hp]
      exact .inr (.inr (.inr ⟨rfl, hp⟩))
    | true =>
      cases l.begins h hw hp limit with
      | fails e _ hrun _ => exact .inr (.inr (.inl ⟨e, by rw [hrun]⟩))
      | exits _ _ hrun _ => exact .inr (.inl (by rw [hrun]))
      | continues _ _ hrun hrounds =>
        rw [hrun, hrounds]
        rcases ih (waiting_dispatched h hw) with ⟨hend, hlen⟩ | hend
        · exact .inl ⟨hend, congrArg (· + 1) hlen⟩
        · exact .inr hend

/-- **The cycles of the loop are paid for.** Take the loop in any state, with any handler.

* In a run among others, who post and set the flag as they like, there are at most as many rounds
  as signals are posted, by callbacks or others, and one more if something was pending at the start.
  The consumer counts the rounds, a callback is made in each, and as long as the run goes on every
  attempt to drain that is no round waits.
* If the callbacks of the loop by itself post only so many signals, however long it runs, then after
  so many cycles and one more it has exited, has failed, or waits on an empty mailbox; or it never
  began, since somebody else was draining the mailbox. -/
theorem cycles_are_paid_for (h : Handler σ ε) (l : Loop σ) :
    (∀ interludes,
      let rounds := l.roundsAmid h interludes
      let trace := l.moments h interludes
      let final := l.runAmid h interludes
      rounds.length ≤ (if l.mailbox.hasPending then 1 else 0) + (Moment.posted trace).length ∧
        final.1.consumer.cycles = l.consumer.cycles + .ofNat rounds.length ∧
        (∀ r ∈ rounds, r.callbacks ≠ []) ∧
        (final.2 = .unfinished ∨ final.2 = .waiting →
          interludes.length = rounds.length + trace.countP Moment.isWait)) ∧
    ∀ bound, (∀ limit, ((l.rounds h limit).flatMap Round.posts).length ≤ bound) →
      let final := l.run h (bound + 2)
      (l.rounds h (bound + 2)).length ≤ bound + 1 ∧
        (final.2 = .exited ∨ (∃ e, final.2 = .failed e) ∨
          (final.2 = .waiting ∧ final.1.mailbox.hasPending = false) ∨
          (final.2 = .refused ∧ l.mailbox.isDraining = true)) := by
  have hdue : l.mailbox.due = if l.mailbox.hasPending then 1 else 0 := by
    cases hp : l.mailbox.hasPending <;> simp [Mailbox.due, hp]
  constructor
  · intro interludes rounds trace final
    exact ⟨hdue ▸ length_roundsAmid_le h interludes l, cycles_runAmid h interludes l,
      fun r hr => callbacks_ne_nil_of_mem h interludes l hr, length_interludes_eq h interludes l⟩
  · intro bound hbound final
    by_cases hw : l.mailbox.waiting = none
    · obtain ⟨hrounds, hposted⟩ := roundsAmid_replicate h hw (bound + 2)
      have hpaid := length_roundsAmid_le h (List.replicate (bound + 2) []) l
      have hdrains : l.mailbox.due ≤ 1 := Bool.toNat_le _
      have hposts := hbound (bound + 2)
      rw [hrounds, hposted] at hpaid
      refine ⟨by omega, ?_⟩
      rcases run_cases h hw (bound + 2) with ⟨-, hlen⟩ | hend | hend | hend
      · omega
      · exact .inl hend
      · exact .inr (.inl hend)
      · exact .inr (.inr (.inl hend))
    · have hrun := run_of_waiting h hw (bound + 1)
      have hnone : l.rounds h (bound + 2) = [] := by rw [rounds, cycle_of_waiting h hw]
      refine ⟨by rw [hnone]; exact Nat.zero_le _, .inr (.inr (.inr ⟨congrArg Prod.snd hrun, ?_⟩))⟩
      exact Option.isSome_iff_ne_none.mpr hw

/-- A loop that finds a status, and a script that answers the status with a message and the message
with nothing. -/
def answering : Loop Scripted.HandlerScript :=
  let mailbox := (Mailbox.blank 2 Nat.two_pos).postAll [.status 1]
  { mailbox, consumer := .ofMailbox mailbox, enabled := true
    state := { turns := [{ acts := [.post (.message [1])] }] } }

/-- Its callbacks post once, so that it waits after two cycles. Among others who ask for a disable
in the meantime it makes three. -/
theorem answering_cycles_are_paid_for :
    (∀ limit,
        ((answering.rounds Scripted.HandlerScript.play limit).flatMap Round.posts).length ≤ 1) ∧
      (answering.run Scripted.HandlerScript.play 3).2 = .waiting ∧
      (answering.rounds Scripted.HandlerScript.play 3).length ≤ 2 ∧
      (answering.roundsAmid Scripted.HandlerScript.play [[], [], [.post .disable]]).length ≤ 3 := by
  obtain ⟨hamid, halone⟩ := cycles_are_paid_for Scripted.HandlerScript.play answering
  have hbound : ∀ limit,
      ((answering.rounds Scripted.HandlerScript.play limit).flatMap Round.posts).length ≤ 1 := by
    intro limit
    match limit with
    | 0 => decide
    | 1 => decide
    | 2 => decide
    | limit + 3 => exact Nat.le_refl 1
  obtain ⟨hpaid, -⟩ := hamid [[], [], [.post .disable]]
  exact ⟨hbound, rfl, (halone 1 hbound).1, hpaid⟩

end Loop

end SerialBridge
