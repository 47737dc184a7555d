import Mathlib.Data.List.Induction
import SerialBridge.Proofs.Listener.Unfolding

/-!
# Who stays registered

What listeners do to the registry while they are called is a list of `Edit`s: the listeners that
they add and remove themselves, and those that the notifications bring about which they start. A
notification is told listener by listener; a `Turn` has the edits of one call and its answer, and a
listener that answers that it is disconnected is taken off after its edits.

`Audience.settles_registry` says that the registry which a notification leaves is the one before
it with its turns taken in their order, and draws the conclusions for single listeners. Two facts
about edits carry them. Whoever is not removed stands in front, in the old order, and all others
were added since (`Registry.exists_entries_editAll`); and a listener that was off the list is on it
again only because an edit put it at the end (`Registry.putAtEnd_of_mem`).
-/

namespace SerialBridge

/-! ### Edits -/

/-- A change of the registry that somebody asks for. -/
inductive Edit where
  /-- A listener is added. -/
  | add (kind : ListenerKind) (id : String)
  /-- A listener is removed. -/
  | remove (kind : ListenerKind) (id : String)
deriving DecidableEq

namespace Registry

/-- The registry after an edit. -/
def edit (r : Registry) : Edit → Registry
  | .add k id => r.add k id
  | .remove k id => r.remove k id

/-- The registry after several edits, one after the other. -/
def editAll (r : Registry) (es : List Edit) : Registry := es.foldl edit r

/-- The registered listeners of one kind that none of the edits removes, in their order. -/
def lasting (r : Registry) (k : ListenerKind) (es : List Edit) : List String :=
  (r.entries k).filter (Edit.remove k · ∉ es)

/-- Among the edits is one that puts the listener at the end of its list, and it is not removed
again. In the end there stand before it those that were on the list then and have not been removed
since, and behind it only such as were added since. -/
def PutAtEnd (r : Registry) (k : ListenerKind) (id : String) (es : List Edit) : Prop :=
  ∃ before after, es = before ++ .add k id :: after ∧ id ∉ (r.editAll before).entries k ∧
    .remove k id ∉ after ∧ ∃ new, (∀ other ∈ new, .add k other ∈ after) ∧
      (r.editAll es).entries k = (r.editAll before).lasting k after ++ id :: new

variable (r : Registry) (k : ListenerKind)

@[simp] theorem editAll_nil : r.editAll [] = r := rfl

@[simp] theorem editAll_cons (e : Edit) (es : List Edit) :
    r.editAll (e :: es) = (r.edit e).editAll es := rfl

@[simp] theorem editAll_append (es es' : List Edit) :
    r.editAll (es ++ es') = (r.editAll es).editAll es' :=
  List.foldl_append

/-- Whoever is on a list after an edit was put there by it, or was there and is not removed by it.
-/
theorem mem_entries_edit {id : String} {e : Edit} :
    id ∈ (r.edit e).entries k ↔ e = .add k id ∨ id ∈ r.entries k ∧ e ≠ .remove k id := by
  cases e with
  | add j other =>
    by_cases hj : j = k
    · subst hj
      rw [edit, entries_add_self]
      split <;> grind
    · rw [edit, entries_add_of_ne r hj]
      grind
  | remove j other =>
    by_cases hj : j = k
    · subst hj
      rw [edit, entries_remove_self]
      grind
    · rw [edit, entries_remove_of_ne r hj]
      grind

/-! #### Listeners that last -/

theorem lasting_nil : r.lasting k [] = r.entries k :=
  List.filter_eq_self.mpr fun _ _ => decide_eq_true List.not_mem_nil

/-- Nobody is removed by an edit that does not remove from this list. -/
theorem lasting_concat {e : Edit} (he : ∀ id, e ≠ .remove k id) (es : List Edit) :
    r.lasting k (es ++ [e]) = r.lasting k es :=
  List.filter_congr fun id _ => by simp [(he id).symm]

/-- Whoever is removed does not last. -/
theorem lasting_concat_remove (es : List Edit) (id : String) :
    r.lasting k (es ++ [.remove k id]) = (r.lasting k es).filter (· ≠ id) := by
  rw [lasting, lasting, List.filter_filter]
  exact List.filter_congr fun other _ => by simp [and_comm]

/-- **The old order is kept**: listeners that are not removed stay in front, in their order, and
everybody behind them was added. -/
theorem exists_entries_editAll (es : List Edit) :
    ∃ new, (r.editAll es).entries k = r.lasting k es ++ new ∧
      ∀ id ∈ new, .add k id ∈ es := by
  -- From the end of the edits, where the latest one changes the list last.
  induction es using List.reverseRecOn with
  | nil => exact ⟨[], by rw [lasting_nil, List.append_nil]; rfl, nofun⟩
  | append_singleton es e ih =>
    obtain ⟨new, hentries, hnew⟩ := ih
    have hnew' : ∀ id ∈ new, .add k id ∈ es ++ [e] :=
      fun id hid => List.mem_append_left _ (hnew id hid)
    rw [editAll_append, editAll_cons, editAll_nil]
    cases e with
    | add j id =>
      have hother : ∀ other, Edit.add j id ≠ .remove k other := fun _ => nofun
      rw [r.lasting_concat k hother, edit]
      by_cases hj : j = k
      · subst hj
        rw [entries_add_self]
        split
        · exact ⟨new, hentries, hnew'⟩
        · refine ⟨new ++ [id], by rw [hentries, List.append_assoc], fun other hother => ?_⟩
          rcases List.mem_append.mp hother with hother | hother
          · exact hnew' other hother
          · exact List.mem_singleton.mp hother ▸ List.mem_concat_self
      · exact ⟨new, (entries_add_of_ne _ hj id).trans hentries, hnew'⟩
    | remove j id =>
      rw [edit]
      by_cases hj : j = k
      · subst hj
        refine ⟨new.filter (· ≠ id), ?_, fun other hother =>
          hnew' other (List.mem_filter.mp hother).1⟩
        rw [entries_remove_self, hentries, List.filter_append, lasting_concat_remove]
      · have hother : ∀ other, Edit.remove j id ≠ .remove k other := by
          rintro other ⟨⟩
          exact hj rfl
        rw [r.lasting_concat k hother]
        exact ⟨new, (entries_remove_of_ne _ hj id).trans hentries, hnew'⟩

variable {r k}

/-- A listener that is registered after the edits but was not before has been added by one of them,
and is not removed again. -/
theorem exists_last_add {id : String} {es : List Edit} (hoff : id ∉ r.entries k)
    (hon : id ∈ (r.editAll es).entries k) :
    ∃ before after, es = before ++ .add k id :: after ∧
      id ∉ (r.editAll before).entries k ∧ .remove k id ∉ after := by
  induction es using List.reverseRecOn with
  | nil => exact absurd hon hoff
  | append_singleton es e ih =>
    rw [editAll_append, editAll_cons, editAll_nil, mem_entries_edit] at hon
    by_cases hes : id ∈ (r.editAll es).entries k
    · obtain ⟨before, after, rfl, hoff', hkept⟩ := ih hes
      refine ⟨before, after ++ [e], by simp, hoff', fun hgone => ?_⟩
      rcases List.mem_append.mp hgone with hgone | hgone
      · exact hkept hgone
      · obtain rfl : e = .remove k id := (List.mem_singleton.mp hgone).symm
        exact hon.elim nofun (·.2 rfl)
    · obtain rfl : e = .add k id := hon.resolve_right fun h => hes h.1
      exact ⟨es, [], rfl, hes, List.not_mem_nil⟩

/-- It has been put at the end. -/
theorem putAtEnd_of_mem {id : String} {es : List Edit} (hoff : id ∉ r.entries k)
    (hon : id ∈ (r.editAll es).entries k) : r.PutAtEnd k id es := by
  obtain ⟨before, after, rfl, hoff', hkept⟩ := exists_last_add hoff hon
  obtain ⟨new, hentries, hnew⟩ :=
    ((r.editAll before).add k id).exists_entries_editAll k after
  refine ⟨before, after, rfl, hoff', hkept, new, hnew, ?_⟩
  have hadded : ((r.editAll before).add k id).lasting k after
      = (r.editAll before).lasting k after ++ [id] := by
    rw [lasting, entries_add_self, if_neg hoff', List.filter_append, lasting]
    simp [hkept]
  rw [editAll_append, editAll_cons, edit, hentries, hadded, List.append_assoc]
  rfl

/-- A listener that is removed is off the list, and on it in the end only if it was added at the end
again. -/
theorem putAtEnd_of_removed {id : String} {before after es : List Edit}
    (hes : es = before ++ .remove k id :: after) :
    let q := r.editAll (before ++ [.remove k id])
    id ∉ q.entries k ∧ (id ∈ (r.editAll es).entries k → q.PutAtEnd k id after) := by
  subst hes
  have hoff : id ∉ (r.editAll (before ++ [.remove k id])).entries k := by
    rw [editAll_append, editAll_cons, editAll_nil, mem_entries_edit]
    exact fun h => h.elim nofun (·.2 rfl)
  refine ⟨hoff, fun hon => putAtEnd_of_mem hoff ?_⟩
  rwa [← editAll_append, List.append_assoc]

end Registry

/-! ### Turns -/

/-- What a listener has done to the registry when it was its turn to be called, and what it
answered. -/
structure Turn where
  /-- The listener. -/
  id : String
  /-- The edits of the call, in order. -/
  edits : List Edit
  /-- The answer. -/
  failure : Option BridgeError

/-- The registry after a turn: a listener that is disconnected is taken off after its edits. -/
def Registry.takeTurn (k : ListenerKind) (r : Registry) (t : Turn) : Registry :=
  (r.editAll t.edits).heed k t.id t.failure

/-- The edits of a turn, and the one that follows from the answer. -/
def Turn.allEdits (k : ListenerKind) (t : Turn) : List Edit :=
  if t.failure = some .listenerDisconnected then t.edits ++ [.remove k t.id] else t.edits

/-- A turn is its edits, the one that follows from the answer included. -/
theorem Registry.takeTurn_eq (k : ListenerKind) (r : Registry) (t : Turn) :
    r.takeTurn k t = r.editAll (t.allEdits k) := by
  rw [takeTurn, heed, Turn.allEdits]
  split
  · exact (r.editAll_append t.edits [.remove k t.id]).symm
  · rfl

theorem Registry.foldl_takeTurn (k : ListenerKind) (r : Registry) (ts : List Turn) :
    ts.foldl (takeTurn k) r = r.editAll (ts.flatMap (Turn.allEdits k)) := by
  induction ts generalizing r with
  | nil => rfl
  | cons t ts ih =>
    rw [List.foldl_cons, List.flatMap_cons, editAll_append, ih, takeTurn_eq]

variable {σ ε : Type}

/-- The edits of a conduct, in order. Those of its notifications are left to `nestedEdits`. -/
def Conduct.edits (nested : Note → Audience σ ε → Audience σ ε × Option Crash)
    (nestedEdits : Note → Audience σ ε → List Edit) : Conduct σ ε → Audience σ ε → List Edit
  | .finish _, _ => []
  | .panic, _ => []
  | .add k id next, a =>
    .add k id :: (next true).edits nested nestedEdits { a with registry := a.registry.add k id }
  | .remove k id next, a =>
    .remove k id :: (next (decide (id ∈ a.registry.entries k))).edits nested nestedEdits
      { a with registry := a.registry.remove k id }
  | .count k next, a => (next (a.registry.count k)).edits nested nestedEdits a
  | .notify note next, a =>
    nestedEdits note a ++
      match nested note a with
      | (a, none) => next.edits nested nestedEdits a
      | (_, some _) => []
  | .effect e next, a => next.edits nested nestedEdits { a with effects := a.effects ++ [e] }
  | .recall next, a => (next a.memory).edits nested nestedEdits a
  | .remember memory next, a => next.edits nested nestedEdits { a with memory }

/-- What an entry says that a listener answered, if a notification at this depth called it. -/
def JournalEntry.answeredAt? (depth : Nat) : JournalEntry → Option (String × Option BridgeError)
  | .called .. => none
  | .returned d id failure => if d = depth then some (id, failure) else none

theorem JournalEntry.answeredAt?_of_deeper {depth : Nat} {e : JournalEntry}
    (h : depth + 1 ≤ e.depth) : e.answeredAt? depth = none := by
  cases e with
  | called d id note => rfl
  | returned d id failure => exact if_neg (Nat.ne_of_gt h)

namespace Audience

/-- The answers that notifications at this depth got, in order. -/
def answersAt (depth : Nat) (a : Audience σ ε) : List (String × Option BridgeError) :=
  a.journal.filterMap (JournalEntry.answeredAt? depth)

/-- What stands deeper is no answer to a notification at this depth. -/
theorem Grows.answersAt_eq {depth : Nat} {a a' : Audience σ ε} (h : Grows (depth + 1) a a') :
    a'.answersAt depth = a.answersAt depth := by
  obtain ⟨new, hnew, hdeeper⟩ := h.journal
  have hnone : new.filterMap (JournalEntry.answeredAt? depth) = [] :=
    List.filterMap_eq_nil_iff.mpr fun e he => JournalEntry.answeredAt?_of_deeper (hdeeper e he)
  rw [answersAt, hnew, List.filterMap_append, hnone, List.append_nil]
  rfl

theorem answersAt_enter_called (depth : Nat) (id : String) (note : Note) (a : Audience σ ε) :
    (a.enter (.called depth id note)).answersAt depth = a.answersAt depth := by
  simp [answersAt, enter, JournalEntry.answeredAt?]

theorem answersAt_enter_returned (depth : Nat) (id : String) (failure : Option BridgeError)
    (a : Audience σ ε) :
    (a.enter (.returned depth id failure)).answersAt depth
      = a.answersAt depth ++ [(id, failure)] := by
  simp [answersAt, enter, JournalEntry.answeredAt?]

theorem answersAt_heed (depth : Nat) (a : Audience σ ε) (k : ListenerKind) (id : String)
    (failure : Option BridgeError) : (a.heed k id failure).answersAt depth = a.answersAt depth := by
  rw [answersAt, journal_heed]
  rfl

/-- The turns of a notification that calls these listeners. -/
def turnsEach (b : Behaviour σ ε) (nested : Note → Audience σ ε → Audience σ ε × Option Crash)
    (nestedEdits : Note → Audience σ ε → List Edit) (depth : Nat) (note : Note) :
    List String → Audience σ ε → List Turn
  | [], _ => []
  | id :: rest, a =>
    match (b id note).perform nested (a.enter (.called depth id note)) with
    | (_, .crashed _) => []
    | (a', .returned failure) =>
      ⟨id, (b id note).edits nested nestedEdits (a.enter (.called depth id note)), failure⟩ ::
        turnsEach b nested nestedEdits depth note rest
          ((a'.heed note.kind id failure).enter (.returned depth id failure))

/-- The turns of a notification. -/
def turnsWithin (b : Behaviour σ ε) : Nat → Nat → Note → Audience σ ε → List Turn
  | 0, _, _, _ => []
  | limit + 1, depth, note, a =>
    turnsEach b (notifyWithin b limit (depth + 1))
      (fun note a => (turnsWithin b limit (depth + 1) note a).flatMap (Turn.allEdits note.kind))
      depth note (a.registry.entries note.kind) a

/-- The second audience has come from the first in these turns, one for each of the listeners. -/
structure TakesTurns (depth : Nat) (note : Note) (ids : List String) (a a' : Audience σ ε)
    (ts : List Turn) : Prop where
  /-- Each listener has its turn. -/
  ids : ts.map Turn.id = ids
  /-- The answers are those that the journal has of this notification. -/
  answers : a'.answersAt depth = a.answersAt depth ++ ts.map fun t => (t.id, t.failure)
  /-- The registry has come about in these turns. -/
  registry : a'.registry = ts.foldl (Registry.takeTurn note.kind) a.registry

/-- If a conduct comes to its end, the registry has come about by its edits. -/
theorem registry_perform {nested : Note → Audience σ ε → Audience σ ε × Option Crash}
    {nestedEdits : Note → Audience σ ε → List Edit}
    (hnested : ∀ note a, (nested note a).2 = none →
      (nested note a).1.registry = a.registry.editAll (nestedEdits note a))
    (c : Conduct σ ε) (a : Audience σ ε) (failure : Option BridgeError)
    (h : (c.perform nested a).2 = .returned failure) :
    (c.perform nested a).1.registry = a.registry.editAll (c.edits nested nestedEdits a) := by
  induction c generalizing a with
  | finish failure => rfl
  | panic => cases h
  | add k id next ih => exact ih true _ h
  | remove k id next ih => exact ih _ _ h
  | count k next ih => exact ih _ a h
  | notify note next ih =>
    have htold := hnested note a
    rw [Conduct.perform] at h ⊢
    rw [Conduct.edits, Registry.editAll_append]
    generalize nested note a = answer at h htold ⊢
    obtain ⟨told, _ | cause⟩ := answer
    · rw [← htold rfl]
      exact ih told h
    · cases h
  | effect e next ih => exact ih _ h
  | «recall» next ih => exact ih _ a h
  | remember memory next ih => exact ih _ h

/-- A notification that comes to its end has gone on in turns. -/
theorem takesTurns_turnsEach {b : Behaviour σ ε} {depth : Nat}
    {nested : Note → Audience σ ε → Audience σ ε × Option Crash}
    {nestedEdits : Note → Audience σ ε → List Edit}
    (hgrows : ∀ note a, Grows (depth + 1) a (nested note a).1)
    (hnested : ∀ note a, (nested note a).2 = none →
      (nested note a).1.registry = a.registry.editAll (nestedEdits note a))
    {note : Note} {ids : List String} {a : Audience σ ε}
    (h : (tellEach b nested depth note ids a).2 = none) :
    TakesTurns depth note ids a (tellEach b nested depth note ids a).1
      (turnsEach b nested nestedEdits depth note ids a) := by
  induction ids generalizing a with
  | nil => exact ⟨rfl, (List.append_nil _).symm, rfl⟩
  | cons id rest ih =>
    have hgrown := grows_perform hgrows (b id note) (a.enter (.called depth id note))
    have hregistry := registry_perform hnested (b id note) (a.enter (.called depth id note))
    rw [tellEach] at h ⊢
    rw [turnsEach]
    generalize (b id note).perform nested (a.enter (.called depth id note)) = called
      at h hgrown hregistry ⊢
    obtain ⟨a', failure | cause⟩ := called
    · obtain ⟨hids, hanswers, hrest⟩ := ih h
      refine ⟨congrArg (id :: ·) hids, ?_, ?_⟩
      · -- What the call brings about stands deeper, so that only its own answer counts.
        have hbefore : a'.answersAt depth = a.answersAt depth :=
          hgrown.answersAt_eq.trans (answersAt_enter_called depth id note a)
        rw [hanswers, answersAt_enter_returned, answersAt_heed, hbefore, List.append_assoc]
        rfl
      · refine hrest.trans ?_
        rw [List.foldl_cons, Registry.takeTurn, enter, registry_heed, hregistry failure rfl]
        rfl
    · cases h

/-- At every depth, a notification that comes to its end has gone on in turns. -/
theorem takesTurns_turnsWithin {b : Behaviour σ ε} {limit depth : Nat} {note : Note}
    {a : Audience σ ε} (h : (notifyWithin b limit depth note a).2 = none) :
    TakesTurns depth note (a.registry.entries note.kind) a (notifyWithin b limit depth note a).1
      (turnsWithin b limit depth note a) := by
  induction limit generalizing depth note a with
  | zero => cases h
  | succ limit ih =>
    -- The turns within the calls are those of notifications one level deeper, with one level less
    -- to go.
    refine takesTurns_turnsEach (grows_notifyWithin b limit (depth + 1)) (fun note a h => ?_) h
    rw [(ih h).registry, Registry.foldl_takeTurn]

/-! ### Who is registered in the end -/

/-- What a notification has made of the registry, told in turns. -/
structure Settles (depth : Nat) (note : Note) (a a' : Audience σ ε) (ts : List Turn) : Prop
    extends TakesTurns depth note (a.registry.entries note.kind) a a' ts where
  /-- A listener that is disconnected is off the list when its turn is over, even if it has just
  added itself; and it is on the list in the end only if a later turn put it at the end. -/
  disconnected : ∀ {before after : List Turn} {t : Turn}, ts = before ++ t :: after →
    t.failure = some .listenerDisconnected →
      let r := (before ++ [t]).foldl (Registry.takeTurn note.kind) a.registry
      t.id ∉ r.entries note.kind ∧ (t.id ∈ a'.registry.entries note.kind →
        r.PutAtEnd note.kind t.id (after.flatMap (Turn.allEdits note.kind)))
  /-- The same holds of everybody who is removed at any time, by a call or because another
  notification has found it disconnected. -/
  removed : ∀ {before after : List Edit} {k : ListenerKind} {id : String},
    ts.flatMap (Turn.allEdits note.kind) = before ++ .remove k id :: after →
      let r := a.registry.editAll (before ++ [.remove k id])
      id ∉ r.entries k ∧ (id ∈ a'.registry.entries k → r.PutAtEnd k id after)
  /-- The listeners that are registered at any time and not removed any more keep their order.
  Whoever stands behind them was added after that time. -/
  kept : ∀ {before after : List Edit}, ts.flatMap (Turn.allEdits note.kind) = before ++ after →
    ∀ k, ∃ new, a'.registry.entries k = (a.registry.editAll before).lasting k after ++ new ∧
      ∀ id ∈ new, .add k id ∈ after

/-- **Who stays registered**: the registry after a notification is the one before it with the turns
of the listeners that were registered at its beginning taken in their order. A listener is removed
for its answer only if this is that it is disconnected. The listeners only have to return, and
notifications have to come to their ends within the limit. -/
theorem settles_registry {b : Behaviour σ ε} (hb : ∀ id note, (b id note).Returns)
    {a : Audience σ ε} {limit depth : Nat} {note : Note}
    (hdeep : (notifyWithin b limit depth note a).2 ≠ some .nestedTooDeep) :
    (notifyWithin b limit depth note a).2 = none ∧
      Settles depth note a (notifyWithin b limit depth note a).1
        (turnsWithin b limit depth note a) := by
  have hnone := ((passes_notifyWithin hb limit depth note a).resolve_left hdeep).1
  have hturns := takesTurns_turnsWithin hnone
  generalize (notifyWithin b limit depth note a).1 = a' at hturns
  generalize turnsWithin b limit depth note a = ts at hturns
  have hregistry : a'.registry = a.registry.editAll (ts.flatMap (Turn.allEdits note.kind)) :=
    hturns.registry.trans (Registry.foldl_takeTurn note.kind a.registry ts)
  refine ⟨hnone, hturns, ?_, ?_, ?_⟩
  · rintro before after t rfl hgone
    have hlast : t.allEdits note.kind = t.edits ++ [.remove note.kind t.id] := if_pos hgone
    have hedits : (before ++ t :: after).flatMap (Turn.allEdits note.kind)
        = before.flatMap (Turn.allEdits note.kind) ++ t.edits ++
          .remove note.kind t.id :: after.flatMap (Turn.allEdits note.kind) := by
      simp [hlast]
    have hoff := Registry.putAtEnd_of_removed (r := a.registry) hedits
    rw [Registry.foldl_takeTurn, hregistry]
    simpa [hlast] using hoff
  · intro before after k id hes
    rw [hregistry]
    exact Registry.putAtEnd_of_removed hes
  · intro before after hes k
    rw [hregistry, hes, Registry.editAll_append]
    exact Registry.exists_entries_editAll _ k after

/-- Listeners that come and go: one that registers itself anew, notifies in turn and is gone then;
one that brings it back and fails; and others that bring in another one. Whoever listens to messages
is gone. -/
def restless : Behaviour Unit Unit := fun id note =>
  match note with
  | .status _ =>
    if id = "a" then
      .remove .status "a" fun _ => .add .status "a" fun _ =>
        .notify (.message "x") (.finish (some .listenerDisconnected))
    else if id = "b" then .add .status "a" fun _ => .finish (some .notEnabled)
    else .add .status "d" fun _ => .finish none
  | .message _ => .finish (some .listenerDisconnected)

/-- Three of them listen to the engine, and one to messages. -/
def company : Audience Unit Unit where
  registry := ⟨["a", "b", "c"], ["m"]⟩
  memory := ()

theorem settles_registry_of_restless :
    (∀ id note, (restless id note).Returns) ∧
      (notifyWithin restless 2 0 (.status .started) company).2 ≠ some .nestedTooDeep ∧
      (notifyWithin restless 2 0 (.status .started) company).2 = none ∧
      Settles 0 (.status .started) company
        (notifyWithin restless 2 0 (.status .started) company).1
        (turnsWithin restless 2 0 (.status .started) company) := by
  have hreturns (id : String) (note : Note) : (restless id note).Returns := by
    cases note with
    | status t =>
      rw [restless]
      split
      · exact fun _ _ => trivial
      · split
        · exact fun _ => trivial
        · exact fun _ => trivial
    | message text => trivial
  have hends : (notifyWithin restless 2 0 (.status .started) company).2 ≠ some .nestedTooDeep := by
    decide
  exact ⟨hreturns, hends, settles_registry hreturns hends⟩

/-- The one that was brought back stands behind those that stayed, and the newcomer behind it. -/
example : (notifyWithin restless 2 0 (.status .started) company).1.registry
    = ⟨["b", "c", "a", "d"], []⟩ := by
  decide

end Audience

end SerialBridge
