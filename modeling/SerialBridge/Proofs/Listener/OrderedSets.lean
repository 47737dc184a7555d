import Mathlib.Data.Finset.Card
import Mathlib.Data.List.Induction
import SerialBridge.Proofs.Listener.Notification

/-!
# The lists of listeners as ordered sets

Listeners are added, removed, counted and notified, by somebody outside and by listeners that are
called, at any depth. Every such request, with its answer, is a `Move` from one registry to the
next. `Conduct.onRecord` and its companions do what `Conduct.perform` and its companions do, and
keep a record of the moves.

`Audience.lists_stay_ordered_sets` says what holds at every moment of such a record, also after a
listener has broken off. The lists are **ordered sets by identity**: nobody is on a list twice,
and whoever is on it stands where the move has put it that registered it last. One move can do no
more than its request says (`Move.Lawful`); this is the step from which everything else follows by
induction on the record.

Moves have a depth like calls. What a notification does to the registry by itself, and not by the
calls that it makes, is to take listeners off its own list.
-/

namespace SerialBridge

/-! ### Moves -/

namespace Registry

/-- What is asked of the registry, with the answer. -/
inductive Request where
  /-- To add a listener. The answer says whether it is now registered. -/
  | add (kind : ListenerKind) (id : String) (answer : Bool)
  /-- To remove a listener. The answer says whether it was registered. -/
  | remove (kind : ListenerKind) (id : String) (answer : Bool)
  /-- To count listeners. -/
  | count (kind : ListenerKind) (answer : Nat)
  /-- To take off a listener that has answered a notification that it is disconnected. -/
  | dismiss (kind : ListenerKind) (id : String)
deriving DecidableEq

/-- A request, and what it does to the registry. -/
structure Move where
  /-- How many notifications are under way for whose listeners the request is made. -/
  depth : Nat
  /-- The request. -/
  request : Request
  /-- The registry when it is made. -/
  before : Registry
  /-- The registry afterwards. -/
  after : Registry

/-- The list of one kind is left alone. -/
def Move.Spares (m : Move) (k : ListenerKind) : Prop := m.after.entries k = m.before.entries k

/-- **What a move can do.** A listener is added at the end, unless it is on its list, and then
nothing happens; it is registered in either case, and the answer is always yes. A listener is
removed without a change for the others, and the answer is whether it was on the list. The list of
the other kind is left alone. -/
def Move.Lawful (m : Move) : Prop :=
  match m.request with
  | .add k id answer =>
    answer = true ∧ id ∈ m.after.entries k ∧
      m.after.entries k
        = (if id ∈ m.before.entries k then m.before.entries k else m.before.entries k ++ [id]) ∧
      ∀ j ≠ k, m.Spares j
  | .remove k id answer =>
    (answer = true ↔ id ∈ m.before.entries k) ∧ id ∉ m.after.entries k ∧
      m.after.entries k = (m.before.entries k).filter (· ≠ id) ∧ ∀ j ≠ k, m.Spares j
  | .count k answer => answer = m.before.count k ∧ m.after = m.before
  | .dismiss k id =>
    id ∉ m.after.entries k ∧ m.after.entries k = (m.before.entries k).filter (· ≠ id) ∧
      ∀ j ≠ k, m.Spares j

/-- The moves lead from one registry to another, each from where the one before it has led, and all
of them are of a certain sort. -/
inductive Leads (P : Move → Prop) : Registry → List Move → Registry → Prop where
  /-- Nothing is done. -/
  | nil {r : Registry} : Leads P r [] r
  /-- A move is made, and others after it. -/
  | cons {m : Move} {ms : List Move} {r : Registry} (hm : P m) (h : Leads P m.after ms r) :
    Leads P m.before (m :: ms) r

namespace Leads

variable {P Q : Move → Prop} {r r' r'' : Registry} {ms ms' : List Move}

theorem eq_of_nil (h : Leads P r [] r') : r' = r := by
  cases h
  rfl

theorem append (h : Leads P r ms r') (h' : Leads P r' ms' r'') : Leads P r (ms ++ ms') r'' := by
  induction h with
  | nil => exact h'
  | cons hm _ ih => exact .cons hm (ih h')

theorem mono (h : Leads P r ms r') (hPQ : ∀ m, P m → Q m) : Leads Q r ms r' := by
  induction h with
  | nil => exact .nil
  | cons hm _ ih => exact .cons (hPQ _ hm) ih

theorem split (h : Leads P r (ms ++ ms') r'') : ∃ r', Leads P r ms r' ∧ Leads P r' ms' r'' := by
  induction ms generalizing r with
  | nil => exact ⟨r, .nil, h⟩
  | cons m ms ih =>
    cases h with
    | cons hm h =>
      obtain ⟨r', hms, hms'⟩ := ih h
      exact ⟨r', .cons hm hms, hms'⟩

theorem of_mem (h : Leads P r ms r') : ∀ m ∈ ms, P m := by
  induction h with
  | nil => nofun
  | cons hm _ ih => exact List.forall_mem_cons.mpr ⟨hm, ih⟩

/-- A list that every move leaves alone is the same in the end. -/
theorem entries_eq {k : ListenerKind} (h : Leads P r ms r') (hspares : ∀ m ∈ ms, m.Spares k) :
    r'.entries k = r.entries k := by
  induction h with
  | nil => rfl
  | cons _ _ ih =>
    obtain ⟨hm, hms⟩ := List.forall_mem_cons.mp hspares
    exact (ih hms).trans hm

end Leads

/-! #### Each request is answered lawfully -/

section

variable (depth : Nat) (r : Registry) (k : ListenerKind) (id : String)

/-- Whoever is registered already keeps the place, and anybody else comes last. -/
theorem lawful_add : (Move.mk depth (.add k id true) r (r.add k id)).Lawful := by
  refine ⟨rfl, ?_, r.entries_add_self k id, fun j hj => r.entries_add_of_ne hj.symm id⟩
  change id ∈ (r.add k id).entries k
  rw [entries_add_self]
  split
  · assumption
  · exact List.mem_concat_self

theorem notMem_entries_remove : id ∉ (r.remove k id).entries k := by
  rw [entries_remove_self]
  exact fun h => of_decide_eq_true (List.mem_filter.mp h).2 rfl

/-- The answer tells whether the listener was registered. -/
theorem lawful_remove :
    (Move.mk depth (.remove k id (decide (id ∈ r.entries k))) r (r.remove k id)).Lawful :=
  ⟨decide_eq_true_iff, r.notMem_entries_remove k id, r.entries_remove_self k id,
    fun _ hj => r.entries_remove_of_ne hj.symm id⟩

theorem lawful_count : (Move.mk depth (.count k (r.count k)) r r).Lawful := ⟨rfl, rfl⟩

theorem lawful_dismiss : (Move.mk depth (.dismiss k id) r (r.remove k id)).Lawful :=
  ⟨r.notMem_entries_remove k id, r.entries_remove_self k id,
    fun _ hj => r.entries_remove_of_ne hj.symm id⟩

end

/-! ### Ordered sets -/

/-- The move registers a listener that was not registered. -/
def Move.Registers (m : Move) (k : ListenerKind) (id : String) : Prop :=
  (∃ answer, m.request = .add k id answer) ∧ id ∉ m.before.entries k

/-- Of all moves that registered the listener, the last stands at this place. -/
def RegisteredAt (past : List Move) (k : ListenerKind) (id : String) (place : Nat) : Prop :=
  (∃ m, past[place]? = some m ∧ m.Registers k id) ∧
    ∀ m ∈ past.drop (place + 1), ¬m.Registers k id

/-- The listeners on the list stand in the order of the moves that have registered them last. -/
def InOrder (past : List Move) (k : ListenerKind) (ids : List String) : Prop :=
  ∃ place : String → Nat, (∀ id ∈ ids, RegisteredAt past k id (place id)) ∧
    ids.Pairwise fun x y => place x < place y

/-- The lists are ordered sets by identity, after these moves. -/
structure IsOrderedSet (r : Registry) (past : List Move) : Prop where
  /-- Nobody is on a list twice. -/
  nodup : r.Nodup
  /-- The number of listeners is that of different ones. -/
  count : ∀ k, r.count k = (r.entries k).toFinset.card
  /-- They stand in the order of the moves that have registered them last. -/
  ordered : ∀ k, InOrder past k (r.entries k)

variable {past : List Move} {m : Move} {k : ListenerKind} {id : String} {place : Nat}

theorem RegisteredAt.lt (h : RegisteredAt past k id place) : place < past.length := by
  obtain ⟨⟨m, hm, -⟩, -⟩ := h
  exact (List.getElem?_eq_some_iff.mp hm).1

/-- The last registration stays where it is as long as there is no new one. -/
theorem RegisteredAt.concat (h : RegisteredAt past k id place) (hm : ¬m.Registers k id) :
    RegisteredAt (past ++ [m]) k id place := by
  have hlt := h.lt
  obtain ⟨⟨q, hq, hregisters⟩, hlater⟩ := h
  refine ⟨⟨q, ?_, hregisters⟩, ?_⟩
  · rw [List.getElem?_append_left hlt]
    exact hq
  · rw [List.drop_append_of_le_length hlt]
    exact List.forall_mem_append.mpr ⟨hlater, List.forall_mem_singleton.mpr hm⟩

/-- A registration that is made now is the last. -/
theorem registeredAt_concat_self (hm : m.Registers k id) :
    RegisteredAt (past ++ [m]) k id past.length := by
  refine ⟨⟨m, List.getElem?_concat_length, hm⟩, ?_⟩
  rw [List.drop_of_length_le (by simp)]
  nofun

/-- Some of them stand in the same order, after a move that registers none of them. -/
theorem InOrder.concat {ids ids' : List String} (h : InOrder past k ids)
    (hsub : ids'.Sublist ids) (hm : ∀ id ∈ ids', ¬m.Registers k id) :
    InOrder (past ++ [m]) k ids' := by
  obtain ⟨place, hplace, hlt⟩ := h
  exact ⟨place, fun id hid => (hplace id (hsub.subset hid)).concat (hm id hid), hlt.sublist hsub⟩

/-- Whoever is registered by the last move stands behind all others. -/
theorem InOrder.concat_registered {ids : List String} (h : InOrder past k ids)
    (hm : m.Registers k id) (hids : ∀ other ∈ ids, ¬m.Registers k other) :
    InOrder (past ++ [m]) k (ids ++ [id]) := by
  obtain ⟨place, hplace, hlt⟩ := h
  have hid : id ∉ ids := fun hid => hids id hid hm
  have hsame {other : String} (hother : other ∈ ids) :
      Function.update place id past.length other = place other :=
    Function.update_of_ne (fun heq => hid (by rw [← heq]; exact hother)) _ _
  -- The newcomer gets the place of the last move, and the others keep theirs.
  refine ⟨Function.update place id past.length, ?_, List.pairwise_append.mpr ⟨?_, ?_, ?_⟩⟩
  · refine List.forall_mem_append.mpr ⟨fun other hother => ?_, List.forall_mem_singleton.mpr ?_⟩
    · rw [hsame hother]
      exact (hplace other hother).concat (hids other hother)
    · rw [Function.update_self]
      exact registeredAt_concat_self hm
  · exact hlt.imp_of_mem fun hx hy hxy => by rwa [hsame hx, hsame hy]
  · exact List.pairwise_singleton _ _
  · intro other hother last hlast
    obtain rfl := List.mem_singleton.mp hlast
    rw [hsame hother, Function.update_self]
    exact (hplace other hother).lt

/-- Nobody is registered by a move who is registered. -/
theorem Move.not_registers_of_mem (hid : id ∈ m.before.entries k) : ¬m.Registers k id :=
  fun h => h.2 hid

/-- A list that is left alone keeps its order. -/
theorem InOrder.spared (h : InOrder past k (m.before.entries k)) (hm : m.Spares k) :
    InOrder (past ++ [m]) k (m.after.entries k) := by
  rw [hm]
  exact h.concat (List.Sublist.refl _) fun id hid => Move.not_registers_of_mem hid

/-- A listener that is added comes last or, if it was there, stays where it was. -/
theorem InOrder.added {j : ListenerKind} (h : InOrder past k (m.before.entries k)) {answer : Bool}
    (hm : m.request = .add j id answer)
    (hafter : m.after.entries j
      = if id ∈ m.before.entries j then m.before.entries j else m.before.entries j ++ [id])
    (hothers : ∀ i ≠ j, m.Spares i) : InOrder (past ++ [m]) k (m.after.entries k) := by
  by_cases hj : k = j
  · subst hj
    by_cases hid : id ∈ m.before.entries k
    · exact h.spared (hafter.trans (if_pos hid))
    · rw [hafter, if_neg hid]
      exact h.concat_registered ⟨⟨answer, hm⟩, hid⟩ fun _ hother =>
        Move.not_registers_of_mem hother
  · exact h.spared (hothers k hj)

/-- A listener that is removed leaves the others in their order. -/
theorem InOrder.removed {j : ListenerKind} (h : InOrder past k (m.before.entries k))
    (hafter : m.after.entries j = (m.before.entries j).filter (· ≠ id))
    (hothers : ∀ i ≠ j, m.Spares i) : InOrder (past ++ [m]) k (m.after.entries k) := by
  by_cases hj : k = j
  · subst hj
    rw [hafter]
    exact h.concat List.filter_sublist fun other hother =>
      Move.not_registers_of_mem (List.mem_filter.mp hother).1
  · exact h.spared (hothers k hj)

/-- **One move** keeps the order. -/
theorem InOrder.step (h : InOrder past k (m.before.entries k)) (hm : m.Lawful) :
    InOrder (past ++ [m]) k (m.after.entries k) := by
  -- A request changes at most one list, and is an addition to it or a removal.
  obtain ⟨depth, request, before, after⟩ := m
  cases request with
  | add j id answer =>
    obtain ⟨-, -, hafter, hothers⟩ := hm
    exact h.added rfl hafter hothers
  | remove j id answer =>
    obtain ⟨-, -, hafter, hothers⟩ := hm
    exact h.removed hafter hothers
  | count j answer => exact h.spared (congrArg (entries · k) hm.2)
  | dismiss j id =>
    obtain ⟨-, hafter, hothers⟩ := hm
    exact h.removed hafter hothers

/-- **All moves** do, from the empty registry on. -/
theorem Leads.inOrder {r : Registry} (h : Leads Move.Lawful {} past r) (k : ListenerKind) :
    InOrder past k (r.entries k) := by
  -- From the end of the past, which is where places are given.
  induction past using List.reverseRecOn generalizing r with
  | nil =>
    obtain rfl := h.eq_of_nil
    exact ⟨fun _ => 0, by cases k <;> nofun, by cases k <;> exact .nil⟩
  | append_singleton past m ih =>
    obtain ⟨q, hpast, hlast⟩ := h.split
    cases hlast with
    | cons hm hnil =>
      obtain rfl := hnil.eq_of_nil
      exact (ih hpast).step hm

/-- Places are different, so the list that they order has nobody twice. -/
theorem Leads.isOrderedSet {r : Registry} (h : Leads Move.Lawful {} past r) :
    r.IsOrderedSet past := by
  have hnodup : r.Nodup := fun k => by
    obtain ⟨place, -, hlt⟩ := h.inOrder k
    exact hlt.imp fun hxy heq => Nat.ne_of_lt hxy (congrArg place heq)
  exact ⟨hnodup, fun k => (List.toFinset_card_of_nodup (hnodup k)).symm, h.inOrder⟩

end Registry

open Registry

/-! ### Conducts on record -/

variable {σ ε : Type}

/-- Puts moves in front of a record. -/
def precede {α : Type} (ms : List Move) (recorded : α × List Move) : α × List Move :=
  (recorded.1, ms ++ recorded.2)

/-- How a note is told, on record. -/
abbrev Telling (σ ε : Type) :=
  Note → Audience σ ε → (Audience σ ε × Option Crash) × List Move

/-- Carries out a conduct, on record. -/
def Conduct.onRecord (depth : Nat) (nested : Telling σ ε) :
    Conduct σ ε → Audience σ ε → (Audience σ ε × CallEnd) × List Move
  | .finish failure, a => ((a, .returned failure), [])
  | .panic, a => ((a, .crashed .panicked), [])
  | .add k id next, a =>
    precede [⟨depth, .add k id true, a.registry, a.registry.add k id⟩]
      ((next true).onRecord depth nested { a with registry := a.registry.add k id })
  | .remove k id next, a =>
    let answer := decide (id ∈ a.registry.entries k)
    precede [⟨depth, .remove k id answer, a.registry, a.registry.remove k id⟩]
      ((next answer).onRecord depth nested { a with registry := a.registry.remove k id })
  | .count k next, a =>
    let answer := a.registry.count k
    precede [⟨depth, .count k answer, a.registry, a.registry⟩]
      ((next answer).onRecord depth nested a)
  | .notify note next, a =>
    match nested note a with
    | ((a, none), ms) => precede ms (next.onRecord depth nested a)
    | ((a, some cause), ms) => ((a, .crashed cause), ms)
  | .effect e next, a => next.onRecord depth nested { a with effects := a.effects ++ [e] }
  | .recall next, a => (next a.memory).onRecord depth nested a
  | .remember memory next, a => next.onRecord depth nested { a with memory }

namespace Audience

/-- The move that follows from a listener's answer, if one does. -/
def dismissal (depth : Nat) (kind : ListenerKind) (id : String) (failure : Option BridgeError)
    (r : Registry) : List Move :=
  if failure = some .listenerDisconnected then [⟨depth, .dismiss kind id, r, r.remove kind id⟩]
  else []

/-- Calls listeners, on record. -/
def tellEachOnRecord (b : Behaviour σ ε) (nested : Telling σ ε) (depth : Nat) (note : Note) :
    List String → Audience σ ε → (Audience σ ε × Option Crash) × List Move
  | [], a => ((a, none), [])
  | id :: rest, a =>
    match (b id note).onRecord (depth + 1) nested (a.enter (.called depth id note)) with
    | ((a, .crashed cause), ms) => ((a, some cause), ms)
    | ((a, .returned failure), ms) =>
      precede (ms ++ dismissal depth note.kind id failure a.registry)
        (tellEachOnRecord b nested depth note rest
          ((a.heed note.kind id failure).enter (.returned depth id failure)))

/-- Notifies listeners, on record. -/
def notifyOnRecord (b : Behaviour σ ε) : Nat → Nat → Telling σ ε
  | 0, _, _, a => ((a, some .nestedTooDeep), [])
  | limit + 1, depth, note, a =>
    tellEachOnRecord b (notifyOnRecord b limit (depth + 1)) depth note
      (a.registry.entries note.kind) a

/-- Carries out a conduct on behalf of somebody outside the audience, on record. -/
def performOnRecord (b : Behaviour σ ε) (limit : Nat) (c : Conduct σ ε) (a : Audience σ ε) :
    (Audience σ ε × CallEnd) × List Move :=
  c.onRecord 0 (notifyOnRecord b limit 0) a

/-- Carries out conducts on behalf of somebody outside the audience, one after the other and
whether they return or not, on record. -/
def performAllOnRecord (b : Behaviour σ ε) (limit : Nat) :
    List (Conduct σ ε) → Audience σ ε → Audience σ ε × List Move
  | [], a => (a, [])
  | c :: cs, a =>
    let recorded := a.performOnRecord b limit c
    precede recorded.2 (performAllOnRecord b limit cs recorded.1.1)

/-! #### The record changes nothing -/

/-- Conducts do what they do whether or not a record is kept. -/
theorem fst_onRecord (depth : Nat) (nested : Telling σ ε) (c : Conduct σ ε) (a : Audience σ ε) :
    (c.onRecord depth nested a).1 = c.perform (fun note a => (nested note a).1) a := by
  -- On the conduct, since each of its steps is at most one move.
  induction c generalizing a with
  | finish failure => rfl
  | panic => rfl
  | add k id next ih => exact ih true _
  | remove k id next ih => exact ih _ _
  | count k next ih => exact ih _ a
  | notify note next ih =>
    rw [Conduct.onRecord, Conduct.perform]
    generalize nested note a = told
    obtain ⟨⟨a', _ | cause⟩, ms⟩ := told
    · exact ih a'
    · rfl
  | effect e next ih => exact ih _
  | «recall» next ih => exact ih _ a
  | remember memory next ih => exact ih _

theorem fst_tellEachOnRecord (b : Behaviour σ ε) (nested : Telling σ ε) (depth : Nat)
    (note : Note) (ids : List String) (a : Audience σ ε) :
    (tellEachOnRecord b nested depth note ids a).1
      = tellEach b (fun note a => (nested note a).1) depth note ids a := by
  induction ids generalizing a with
  | nil => rfl
  | cons id rest ih =>
    -- The call is the same on both sides, and it decides whether the others are called.
    have hcall := fst_onRecord (depth + 1) nested (b id note)
      (a.enter (.called depth id note))
    rw [tellEachOnRecord, tellEach, ← hcall]
    generalize (b id note).onRecord (depth + 1) nested _ = called
    obtain ⟨⟨a', failure | cause⟩, ms⟩ := called
    · exact ih _
    · rfl

theorem fst_notifyOnRecord (b : Behaviour σ ε) (limit depth : Nat) (note : Note)
    (a : Audience σ ε) :
    (notifyOnRecord b limit depth note a).1 = notifyWithin b limit depth note a := by
  induction limit generalizing depth note a with
  | zero => rfl
  | succ limit ih =>
    have hnested : (fun note a => (notifyOnRecord b limit (depth + 1) note a).1)
        = notifyWithin b limit (depth + 1) := funext₂ fun note a => ih (depth + 1) note a
    rw [notifyOnRecord, notifyWithin, fst_tellEachOnRecord, hnested]

theorem fst_performOnRecord (b : Behaviour σ ε) (limit : Nat) (c : Conduct σ ε)
    (a : Audience σ ε) : (a.performOnRecord b limit c).1 = a.perform b limit c := by
  have hnested : (fun note a => (notifyOnRecord b limit 0 note a).1) = notifyWithin b limit 0 :=
    funext₂ fun note a => fst_notifyOnRecord b limit 0 note a
  rw [performOnRecord, fst_onRecord, hnested, perform]

theorem fst_performAllOnRecord (b : Behaviour σ ε) (limit : Nat) (cs : List (Conduct σ ε))
    (a : Audience σ ε) :
    (performAllOnRecord b limit cs a).1 = cs.foldl (fun a c => (a.perform b limit c).1) a := by
  induction cs generalizing a with
  | nil => rfl
  | cons c cs ih =>
    rw [performAllOnRecord, List.foldl_cons, ← fst_performOnRecord]
    exact ih _

/-! #### What is on record -/

/-- A move that is made within calls at this depth, or deeper. -/
def Acts (depth : Nat) (m : Move) : Prop := m.Lawful ∧ depth ≤ m.depth

/-- A move that a notification makes by itself, or one that is made deeper. -/
def Tells (depth : Nat) (note : Note) (m : Move) : Prop :=
  m.Lawful ∧ (m.depth = depth ∧ (∃ id, m.request = .dismiss note.kind id) ∨ depth < m.depth)

/-- A notification is itself made within a call, or outside all calls. -/
theorem Tells.acts {depth : Nat} {note : Note} {m : Move} (h : Tells depth note m) :
    Acts depth m :=
  ⟨h.1, h.2.elim (fun h => h.1.ge) Nat.le_of_lt⟩

theorem Acts.tells {depth : Nat} {note : Note} {m : Move} (h : Acts (depth + 1) m) :
    Tells depth note m :=
  ⟨h.1, .inr h.2⟩

/-- The moves of a conduct lead from one registry to the other, if those of the notifications in it
do. -/
theorem leads_onRecord {depth : Nat} {nested : Telling σ ε}
    (hnested : ∀ note a, Leads (Acts depth) a.registry (nested note a).2
      (nested note a).1.1.registry)
    (c : Conduct σ ε) (a : Audience σ ε) :
    Leads (Acts depth) a.registry (c.onRecord depth nested a).2
      (c.onRecord depth nested a).1.1.registry := by
  induction c generalizing a with
  | finish failure => exact .nil
  | panic => exact .nil
  | add k id next ih =>
    exact .cons (m := ⟨depth, .add k id true, a.registry, a.registry.add k id⟩)
      ⟨lawful_add depth a.registry k id, Nat.le_refl depth⟩
      (ih true { a with registry := a.registry.add k id })
  | remove k id next ih =>
    exact .cons (m := ⟨depth, .remove k id _, a.registry, a.registry.remove k id⟩)
      ⟨lawful_remove depth a.registry k id, Nat.le_refl depth⟩
      (ih _ { a with registry := a.registry.remove k id })
  | count k next ih =>
    exact .cons (m := ⟨depth, .count k _, a.registry, a.registry⟩)
      ⟨lawful_count depth a.registry k, Nat.le_refl depth⟩ (ih _ a)
  | notify note next ih =>
    have htold := hnested note a
    rw [Conduct.onRecord]
    generalize nested note a = told at htold ⊢
    obtain ⟨⟨a', _ | cause⟩, ms⟩ := told
    · exact htold.append (ih a')
    · exact htold
  | effect e next ih => exact ih { a with effects := a.effects ++ [e] }
  | «recall» next ih => exact ih _ a
  | remember memory next ih => exact ih { a with memory }

/-- A listener that is disconnected is dismissed from the list of the kind that was notified. -/
theorem leads_dismissal (depth : Nat) (note : Note) (id : String) (failure : Option BridgeError)
    (a : Audience σ ε) :
    Leads (Tells depth note) a.registry (dismissal depth note.kind id failure a.registry)
      (a.heed note.kind id failure).registry := by
  rw [dismissal, heed]
  split
  · exact .cons (m := ⟨depth, .dismiss note.kind id, a.registry, a.registry.remove note.kind id⟩)
      ⟨lawful_dismiss depth a.registry note.kind id, .inl ⟨rfl, id, rfl⟩⟩ .nil
  · exact .nil

theorem leads_tellEachOnRecord (b : Behaviour σ ε) {nested : Telling σ ε} {depth : Nat}
    (hnested : ∀ note a, Leads (Acts (depth + 1)) a.registry (nested note a).2
      (nested note a).1.1.registry)
    (note : Note) (ids : List String) (a : Audience σ ε) :
    Leads (Tells depth note) a.registry (tellEachOnRecord b nested depth note ids a).2
      (tellEachOnRecord b nested depth note ids a).1.1.registry := by
  induction ids generalizing a with
  | nil => exact .nil
  | cons id rest ih =>
    have hcall := (leads_onRecord hnested (b id note) (a.enter (.called depth id note))).mono
      fun _ hm => (hm.tells : Tells depth note _)
    rw [tellEachOnRecord]
    generalize (b id note).onRecord (depth + 1) nested _ = called at hcall ⊢
    obtain ⟨⟨a', failure | cause⟩, ms⟩ := called
    -- First come the moves of the call, then what follows from its answer, then the other calls.
    · exact (hcall.append (leads_dismissal depth note id failure a')).append
        (ih ((a'.heed note.kind id failure).enter (.returned depth id failure)))
    · exact hcall

/-- By itself, a notification dismisses listeners of its kind; all else is done in its calls. -/
theorem leads_notifyOnRecord (b : Behaviour σ ε) (limit depth : Nat) (note : Note)
    (a : Audience σ ε) :
    Leads (Tells depth note) a.registry (notifyOnRecord b limit depth note a).2
      (notifyOnRecord b limit depth note a).1.1.registry := by
  induction limit generalizing depth note a with
  | zero => exact .nil
  | succ limit ih =>
    exact leads_tellEachOnRecord b
      (fun note a => (ih (depth + 1) note a).mono fun _ => Tells.acts) note _ a

theorem leads_performOnRecord (b : Behaviour σ ε) (limit : Nat) (c : Conduct σ ε)
    (a : Audience σ ε) :
    Leads Move.Lawful a.registry (a.performOnRecord b limit c).2
      (a.performOnRecord b limit c).1.1.registry :=
  (leads_onRecord
    (fun note a => (leads_notifyOnRecord b limit 0 note a).mono fun _ => Tells.acts) c a).mono
    fun _ hm => hm.1

theorem leads_performAllOnRecord (b : Behaviour σ ε) (limit : Nat) (cs : List (Conduct σ ε))
    (a : Audience σ ε) :
    Leads Move.Lawful a.registry (performAllOnRecord b limit cs a).2
      (performAllOnRecord b limit cs a).1.registry := by
  induction cs generalizing a with
  | nil => exact .nil
  | cons c cs ih => exact (leads_performOnRecord b limit c a).append (ih _)

/-- A notification changes the list of the other kind only by what is done in its calls. -/
theorem exists_deeper_of_entries_ne {b : Behaviour σ ε} {limit depth : Nat} {note : Note}
    {a : Audience σ ε} {k : ListenerKind} (hk : k ≠ note.kind)
    (hchanged : (notifyOnRecord b limit depth note a).1.1.registry.entries k
      ≠ a.registry.entries k) :
    ∃ m ∈ (notifyOnRecord b limit depth note a).2, depth < m.depth ∧ ¬m.Spares k := by
  have hleads := leads_notifyOnRecord b limit depth note a
  by_contra hnone
  refine hchanged (hleads.entries_eq fun m hm => ?_)
  by_contra hspares
  -- By itself the notification dismisses listeners of its own kind only.
  obtain ⟨hlawful, ⟨-, id, hrequest⟩ | hdeep⟩ := hleads.of_mem m hm
  · rw [Move.Lawful, hrequest] at hlawful
    exact hspares (hlawful.2.2 k hk)
  · exact hnone ⟨m, hm, hdeep, hspares⟩

/-- **The lists stay ordered sets.** Let anybody do anything, any number of times, with a registry
that is empty at first, and listeners do anything when they are called, notifications within
notifications included. The record that is kept of it changes nothing. At every moment of it the
moves so far have led from the empty registry to one whose lists are ordered sets by identity, and
those to come lead from there to the registry in the end; each of them is lawful. At whatever depth
listeners of one kind are notified, the list of the other kind is changed only by what is done in
their calls. -/
theorem lists_stay_ordered_sets (b : Behaviour σ ε) (limit : Nat) (cs : List (Conduct σ ε))
    (memory : σ) :
    let start : Audience σ ε := { memory }
    let recorded := performAllOnRecord b limit cs start
    recorded.1 = cs.foldl (fun a c => (a.perform b limit c).1) start ∧
      (∀ past future, recorded.2 = past ++ future →
        ∃ r : Registry, Leads Move.Lawful {} past r ∧ r.IsOrderedSet past ∧
          Leads Move.Lawful r future recorded.1.registry) ∧
      ∀ (limit depth : Nat) (note : Note) (a : Audience σ ε),
        let told := notifyOnRecord b limit depth note a
        told.1 = notifyWithin b limit depth note a ∧
          Leads Move.Lawful a.registry told.2 told.1.1.registry ∧
          ∀ k ≠ note.kind, told.1.1.registry.entries k ≠ a.registry.entries k →
            ∃ m ∈ told.2, depth < m.depth ∧ ¬m.Spares k := by
  intro start recorded
  have hleads : Leads Move.Lawful {} recorded.2 recorded.1.registry :=
    leads_performAllOnRecord b limit cs start
  refine ⟨fst_performAllOnRecord b limit cs start, fun past future hmoves => ?_,
    fun limit depth note a => ⟨fst_notifyOnRecord b limit depth note a,
      (leads_notifyOnRecord b limit depth note a).mono fun _ hm => hm.1,
      fun k hk hchanged => exists_deeper_of_entries_ne hk hchanged⟩⟩
  rw [hmoves] at hleads
  obtain ⟨r, hpast, hfuture⟩ := hleads.split
  exact ⟨r, hpast, hpast.isOrderedSet, hfuture⟩

/-- A listener that registers itself anew is moved to the end; one that is disconnected is gone. -/
example :
    let b : Behaviour Unit Unit := fun id _ =>
      if id = "a" then .remove .status "a" fun _ => .add .status "a" fun _ => .finish none
      else .finish (some .listenerDisconnected)
    let recorded := performAllOnRecord b 1
      [.add .status "a" fun _ => .add .status "b" fun _ => .finish none,
        .notify (.status .started) (.finish none)] { memory := () }
    recorded.1.registry = ⟨["a"], []⟩ ∧
      recorded.2.map (fun m => (m.depth, m.request))
        = [(0, .add .status "a" true), (0, .add .status "b" true), (1, .remove .status "a" true),
          (1, .add .status "a" true), (0, .dismiss .status "b")] := by
  decide

end Audience

end SerialBridge
