import SerialBridge.Proofs.Listener.Notification

/-!
# How a notification unfolds

While a notification goes from listener to listener, each of them may add and remove listeners of
either kind and start notifications of its own, which unfold in the same way before the call
returns. `Unfolds` says which journals can come about like this: it speaks about the registry and
the journal only, and of a listener it takes everything as possible that a conduct can do short of
breaking off. A notification is given the listeners that are registered **when it begins**, and what
happens to the registry later has no part in whom it calls.

`Audience.notifies_registered` says that every notification unfolds so, at whatever depth it stands,
provided that the notifications within it come to an end. How deep they may nest does not matter
then (`Audience.notifyWithin_of_le`).
-/

namespace SerialBridge

/-! ### Registries -/

/-- A registry comes about by adding and removing listeners. -/
inductive Registry.Reachable : Registry → Prop where
  /-- There are no listeners at first. -/
  | empty : Reachable {}
  /-- A listener is added. -/
  | add {r : Registry} (h : Reachable r) (k : ListenerKind) (id : String) : Reachable (r.add k id)
  /-- A listener is removed. -/
  | remove {r : Registry} (h : Reachable r) (k : ListenerKind) (id : String) :
    Reachable (r.remove k id)

theorem Registry.Reachable.nodup {r : Registry} (h : r.Reachable) : r.Nodup := by
  induction h with
  | empty => exact nodup_empty
  | add _ k id ih => exact ih.add k id
  | remove _ k id ih => exact ih.remove k id

/-- What is left of a registry after a listener's answer: a listener that is disconnected is taken
off its list. -/
def Registry.heed (r : Registry) (k : ListenerKind) (id : String) (failure : Option BridgeError) :
    Registry :=
  if failure = some .listenerDisconnected then r.remove k id else r

/-! ### Journals -/

/-- Something that goes on for a while. -/
inductive Task where
  /-- A call does what it does, and its notifications stand within `depth` others. -/
  | act (depth : Nat)
  /-- A notification that stands within `depth` others tells the rest of its listeners a note. -/
  | tell (depth : Nat) (note : Note) (ids : List String)

/-- How deep the calls stand that a task makes. -/
def Task.depth : Task → Nat
  | act depth => depth
  | tell depth _ _ => depth

/-- How a task may change a registry, and what stands in the journal then. -/
inductive Unfolds : Task → Registry → List JournalEntry → Registry → Prop where
  /-- A call does no more. -/
  | rest {depth : Nat} {r : Registry} : Unfolds (.act depth) r [] r
  /-- A call adds a listener and goes on. -/
  | add {depth : Nat} {r r' : Registry} {entries : List JournalEntry} (k : ListenerKind)
    (id : String) (h : Unfolds (.act depth) (r.add k id) entries r') :
    Unfolds (.act depth) r entries r'
  /-- A call removes a listener and goes on. -/
  | remove {depth : Nat} {r r' : Registry} {entries : List JournalEntry} (k : ListenerKind)
    (id : String) (h : Unfolds (.act depth) (r.remove k id) entries r') :
    Unfolds (.act depth) r entries r'
  /-- A call notifies the listeners that are registered now, and goes on. -/
  | notify {depth : Nat} {r r' r'' : Registry} {entries entries' : List JournalEntry} (note : Note)
    (h : Unfolds (.tell depth note (r.entries note.kind)) r entries r')
    (h' : Unfolds (.act depth) r' entries' r'') :
    Unfolds (.act depth) r (entries ++ entries') r''
  /-- All listeners have been told. -/
  | done {depth : Nat} {note : Note} {r : Registry} : Unfolds (.tell depth note []) r [] r
  /-- The next listener is called and returns, and the others are told after it. -/
  | call {depth : Nat} {note : Note} {r r' r'' : Registry} {entries entries' : List JournalEntry}
    {id : String} {rest : List String} (failure : Option BridgeError)
    (h : Unfolds (.act (depth + 1)) r entries r')
    (h' : Unfolds (.tell depth note rest) (r'.heed note.kind id failure) entries' r'') :
    Unfolds (.tell depth note (id :: rest)) r
      (.called depth id note :: (entries ++ .returned depth id failure :: entries')) r''

/-- The call of a listener that an entry tells of, if a notification at this depth made it. -/
def JournalEntry.calledAt? (depth : Nat) : JournalEntry → Option (String × Note)
  | .called d id note => if d = depth then some (id, note) else none
  | .returned .. => none

/-- A call of a listener, from beginning to end. -/
structure Call where
  /-- The listener. -/
  id : String
  /-- What was entered while it was called. -/
  within : List JournalEntry
  /-- What it answered. -/
  failure : Option BridgeError

/-- What is entered of a call. -/
def Call.entries (depth : Nat) (note : Note) (c : Call) : List JournalEntry :=
  .called depth c.id note :: (c.within ++ [.returned depth c.id c.failure])

namespace Unfolds

variable {task : Task} {depth : Nat} {note : Note} {ids : List String} {r r' : Registry}
  {entries : List JournalEntry}

/-- Nothing comes about that is not reachable. -/
theorem reachable (h : Unfolds task r entries r') (hr : r.Reachable) : r'.Reachable := by
  induction h with
  | rest => exact hr
  | add k id _ ih => exact ih (hr.add k id)
  | remove k id _ ih => exact ih (hr.remove k id)
  | notify note _ _ ih ih' => exact ih' (ih hr)
  | done => exact hr
  | call failure _ _ ih ih' =>
    refine ih' ?_
    rw [Registry.heed]
    split
    · exact (ih hr).remove _ _
    · exact ih hr

/-- No call stands above the task that makes it. -/
theorem depth_le (h : Unfolds task r entries r') : ∀ e ∈ entries, task.depth ≤ e.depth := by
  induction h with
  | rest => nofun
  | add k id _ ih => exact ih
  | remove k id _ ih => exact ih
  | notify note _ _ ih ih' =>
    intro e he
    rcases List.mem_append.mp he with he | he
    · exact ih e he
    · exact ih' e he
  | done => nofun
  | @call depth _ _ _ _ _ _ _ _ failure _ _ ih ih' =>
    intro e he
    rcases List.mem_cons.mp he with rfl | he
    · exact Nat.le_refl depth
    · rcases List.mem_append.mp he with he | he
      · exact Nat.le_of_succ_le (ih e he)
      · rcases List.mem_cons.mp he with rfl | he
        · exact Nat.le_refl depth
        · exact ih' e he

/-- What a call does makes no call at the depth of the notification that it belongs to. -/
theorem filterMap_calledAt?_act (h : Unfolds (.act (depth + 1)) r entries r') :
    entries.filterMap (JournalEntry.calledAt? depth) = [] := by
  refine List.filterMap_eq_nil_iff.mpr fun e he => ?_
  have hdeeper : depth + 1 ≤ e.depth := h.depth_le e he
  cases e with
  | called d id note => exact if_neg (Nat.ne_of_gt hdeeper)
  | returned d id failure => rfl

/-- **Who is called**: a notification calls its listeners, in their order, with its note. -/
theorem filterMap_calledAt? (h : Unfolds (.tell depth note ids) r entries r') :
    entries.filterMap (JournalEntry.calledAt? depth) = ids.map (·, note) := by
  induction ids generalizing r entries with
  | nil =>
    cases h
    rfl
  | cons id rest ih =>
    cases h with
    | call failure hact hrest =>
      have hcalled : (JournalEntry.called depth id note).calledAt? depth = some (id, note) :=
        if_pos rfl
      rw [List.filterMap_cons_some hcalled, List.filterMap_append, hact.filterMap_calledAt?_act,
        List.nil_append, List.filterMap_cons_none rfl, ih hrest]
      rfl

/-- **One after the other**: each call, with everything that it does, is over before the next. -/
theorem exists_calls (h : Unfolds (.tell depth note ids) r entries r') :
    ∃ calls : List Call, calls.map Call.id = ids ∧
      entries = calls.flatMap (Call.entries depth note) ∧
      ∀ c ∈ calls, ∃ q q', Unfolds (.act (depth + 1)) q c.within q' := by
  induction ids generalizing r entries with
  | nil =>
    cases h
    exact ⟨[], rfl, rfl, nofun⟩
  | cons id rest ih =>
    cases h with
    | @call _ _ _ q _ within _ _ _ failure hact hrest =>
      obtain ⟨calls, hids, rfl, hcalls⟩ := ih hrest
      refine ⟨⟨id, within, failure⟩ :: calls, congrArg (id :: ·) hids, ?_, ?_⟩
      · simp [Call.entries]
      · intro c hc
        rcases List.mem_cons.mp hc with rfl | hc
        · exact ⟨r, q, hact⟩
        · exact hcalls c hc

end Unfolds

/-! ### Conducts that return -/

variable {σ ε : Type}

/-- Wherever the conduct leads, it does not break off. -/
def Conduct.Returns : Conduct σ ε → Prop
  | .finish _ => True
  | .panic => False
  | .add _ _ next => ∀ registered, (next registered).Returns
  | .remove _ _ next => ∀ registered, (next registered).Returns
  | .count _ next => ∀ n, (next n).Returns
  | .notify _ next => next.Returns
  | .effect _ next => next.Returns
  | .recall next => ∀ memory, (next memory).Returns
  | .remember _ next => next.Returns

namespace Audience

/-- The second audience has come from the first by the task. -/
def Passes (task : Task) (a a' : Audience σ ε) : Prop :=
  ∃ entries, a'.journal = a.journal ++ entries ∧ Unfolds task a.registry entries a'.registry

theorem registry_heed (a : Audience σ ε) (k : ListenerKind) (id : String)
    (failure : Option BridgeError) :
    (a.heed k id failure).registry = a.registry.heed k id failure := by
  rw [heed, Registry.heed]
  split <;> rfl

/-- What a conduct does unfolds if its notifications do. -/
theorem passes_perform {depth : Nat} {nested : Note → Audience σ ε → Audience σ ε × Option Crash}
    (hnested : ∀ note a, (nested note a).2 = some .nestedTooDeep ∨ (nested note a).2 = none ∧
      Passes (.tell depth note (a.registry.entries note.kind)) a (nested note a).1)
    {c : Conduct σ ε} (hc : c.Returns) (a : Audience σ ε) :
    (c.perform nested a).2 = .crashed .nestedTooDeep ∨
      (∃ failure, (c.perform nested a).2 = .returned failure) ∧
        Passes (.act depth) a (c.perform nested a).1 := by
  induction c generalizing a with
  | finish failure => exact .inr ⟨⟨failure, rfl⟩, [], (List.append_nil _).symm, .rest⟩
  | panic => exact hc.elim
  | add k id next ih =>
    rcases ih true (hc true) { a with registry := a.registry.add k id } with
      hcrash | ⟨hreturns, entries, hjournal, h⟩
    · exact .inl hcrash
    · exact .inr ⟨hreturns, entries, hjournal, .add k id h⟩
  | remove k id next ih =>
    rcases ih _ (hc _) { a with registry := a.registry.remove k id } with
      hcrash | ⟨hreturns, entries, hjournal, h⟩
    · exact .inl hcrash
    · exact .inr ⟨hreturns, entries, hjournal, .remove k id h⟩
  | count k next ih => exact ih _ (hc _) a
  | notify note next ih =>
    have htold := hnested note a
    rw [Conduct.perform]
    generalize nested note a = answer at htold ⊢
    obtain ⟨a', ending⟩ := answer
    rcases htold with hdeep | ⟨hnone, entries, hjournal, h⟩
    · obtain rfl : ending = some .nestedTooDeep := hdeep
      exact .inl rfl
    · obtain rfl : ending = none := hnone
      -- What follows starts from the registry that the notification has left.
      rcases ih hc a' with hcrash | ⟨hreturns, entries', hjournal', h'⟩
      · exact .inl hcrash
      · refine .inr ⟨hreturns, entries ++ entries', ?_, .notify note h h'⟩
        rw [← List.append_assoc, ← hjournal]
        exact hjournal'
  | effect e next ih => exact ih hc { a with effects := a.effects ++ [e] }
  | «recall» next ih => exact ih _ (hc _) a
  | remember memory next ih => exact ih hc { a with memory }

/-- A notification that is given its listeners tells them all. -/
theorem passes_tellEach {b : Behaviour σ ε} (hb : ∀ id note, (b id note).Returns) {depth : Nat}
    {nested : Note → Audience σ ε → Audience σ ε × Option Crash}
    (hnested : ∀ note a, (nested note a).2 = some .nestedTooDeep ∨ (nested note a).2 = none ∧
      Passes (.tell (depth + 1) note (a.registry.entries note.kind)) a (nested note a).1)
    (note : Note) (ids : List String) (a : Audience σ ε) :
    (tellEach b nested depth note ids a).2 = some .nestedTooDeep ∨
      (tellEach b nested depth note ids a).2 = none ∧
        Passes (.tell depth note ids) a (tellEach b nested depth note ids a).1 := by
  induction ids generalizing a with
  | nil => exact .inr ⟨rfl, [], (List.append_nil _).symm, .done⟩
  | cons id rest ih =>
    have hcall := passes_perform hnested (hb id note) (a.enter (.called depth id note))
    rw [tellEach]
    generalize (b id note).perform nested (a.enter (.called depth id note)) = called at hcall ⊢
    obtain ⟨a', ending⟩ := called
    rcases hcall with hdeep | ⟨⟨failure, hreturns⟩, entries, hjournal, h⟩
    · obtain rfl : ending = .crashed .nestedTooDeep := hdeep
      exact .inl rfl
    · obtain rfl : ending = .returned failure := hreturns
      rcases ih ((a'.heed note.kind id failure).enter (.returned depth id failure)) with
        hdeep | ⟨hnone, entries', hjournal', h'⟩
      · exact .inl hdeep
      · -- What the call does stands in the journal between its beginning and its end.
        refine .inr ⟨hnone,
          .called depth id note :: (entries ++ .returned depth id failure :: entries'),
          ?_, .call failure h (registry_heed a' note.kind id failure ▸ h')⟩
        have hbefore : a'.journal = a.journal ++ [.called depth id note] ++ entries := hjournal
        refine hjournal'.trans ?_
        simp [enter, journal_heed, hbefore]

/-- **A notification unfolds**, unless those within it nest too deep. -/
theorem passes_notifyWithin {b : Behaviour σ ε} (hb : ∀ id note, (b id note).Returns)
    (limit depth : Nat) (note : Note) (a : Audience σ ε) :
    (notifyWithin b limit depth note a).2 = some .nestedTooDeep ∨
      (notifyWithin b limit depth note a).2 = none ∧
        Passes (.tell depth note (a.registry.entries note.kind)) a
          (notifyWithin b limit depth note a).1 := by
  induction limit generalizing depth note a with
  | zero => exact .inl rfl
  | succ limit ih => exact passes_tellEach hb (ih (depth + 1)) note _ a

/-! ### How deep notifications may nest -/

/-- What a conduct does is the same with notifications that do the same unless they nest too
deep. -/
theorem perform_congr {nested nested' : Note → Audience σ ε → Audience σ ε × Option Crash}
    (hnested : ∀ note a, (nested note a).2 ≠ some .nestedTooDeep → nested' note a = nested note a)
    (c : Conduct σ ε) (a : Audience σ ε)
    (hdeep : (c.perform nested a).2 ≠ .crashed .nestedTooDeep) :
    c.perform nested' a = c.perform nested a := by
  induction c generalizing a with
  | finish failure => rfl
  | panic => rfl
  | add k id next ih => exact ih true _ hdeep
  | remove k id next ih => exact ih _ _ hdeep
  | count k next ih => exact ih _ a hdeep
  | notify note next ih =>
    rw [Conduct.perform] at hdeep
    have hsame : nested' note a = nested note a := by
      refine hnested note a fun htoo => ?_
      generalize nested note a = answer at htoo hdeep
      obtain ⟨a', ending⟩ := answer
      obtain rfl : ending = some .nestedTooDeep := htoo
      exact hdeep rfl
    rw [Conduct.perform, Conduct.perform, hsame]
    generalize nested note a = answer at hdeep ⊢
    obtain ⟨a', _ | cause⟩ := answer
    · exact ih a' hdeep
    · rfl
  | effect e next ih => exact ih _ hdeep
  | «recall» next ih => exact ih _ a hdeep
  | remember memory next ih => exact ih _ hdeep

theorem tellEach_congr (b : Behaviour σ ε)
    {nested nested' : Note → Audience σ ε → Audience σ ε × Option Crash}
    (hnested : ∀ note a, (nested note a).2 ≠ some .nestedTooDeep → nested' note a = nested note a)
    (depth : Nat) (note : Note) (ids : List String) (a : Audience σ ε)
    (hdeep : (tellEach b nested depth note ids a).2 ≠ some .nestedTooDeep) :
    tellEach b nested' depth note ids a = tellEach b nested depth note ids a := by
  induction ids generalizing a with
  | nil => rfl
  | cons id rest ih =>
    rw [tellEach] at hdeep
    have hsame := perform_congr hnested (b id note) (a.enter (.called depth id note)) (by
      intro htoo
      generalize (b id note).perform nested (a.enter (.called depth id note)) = called at htoo hdeep
      obtain ⟨a', ending⟩ := called
      obtain rfl : ending = .crashed .nestedTooDeep := htoo
      exact hdeep rfl)
    rw [tellEach, tellEach, hsame]
    generalize (b id note).perform nested (a.enter (.called depth id note)) = called at hdeep ⊢
    obtain ⟨a', failure | cause⟩ := called
    · exact ih _ hdeep
    · rfl

/-- If notifications come to their ends, it does not matter how much deeper they might nest. -/
theorem notifyWithin_of_le {b : Behaviour σ ε} {limit limit' : Nat} (hle : limit ≤ limit')
    {depth : Nat} {note : Note} {a : Audience σ ε}
    (hdeep : (notifyWithin b limit depth note a).2 ≠ some .nestedTooDeep) :
    notifyWithin b limit' depth note a = notifyWithin b limit depth note a := by
  induction limit generalizing limit' depth note a with
  | zero => exact absurd rfl hdeep
  | succ limit ih =>
    obtain ⟨limit', rfl⟩ := Nat.exists_eq_add_of_lt hle
    exact tellEach_congr b (fun _ _ h => ih (Nat.le_add_right limit limit') h) depth note _ a hdeep

/-! ### Who is notified -/

/-- A notification that is over has told the listeners that were registered when it began, and told
nobody else. -/
structure Notified (depth : Nat) (note : Note) (a a' : Audience σ ε) (calls : List Call) :
    Prop where
  /-- The listeners called are those that were registered, in the order of their registration. -/
  registered : calls.map Call.id = a.registry.entries note.kind
  /-- Each is called once. -/
  once : (calls.map Call.id).Nodup
  /-- The calls are all that was entered. Each is over before the next begins. -/
  journal : a'.journal = a.journal ++ calls.flatMap (Call.entries depth note)
  /-- No other calls stand at this depth, and all were told the note. -/
  told : (calls.flatMap (Call.entries depth note)).filterMap (JournalEntry.calledAt? depth)
    = (a.registry.entries note.kind).map (·, note)
  /-- Notifications that were started within a call unfolded in the same way. -/
  within : ∀ c ∈ calls, ∃ r r', Unfolds (.act (depth + 1)) r c.within r'
  /-- So did the notification itself. -/
  unfolds : Unfolds (.tell depth note (a.registry.entries note.kind)) a.registry
    (calls.flatMap (Call.entries depth note)) a'.registry

/-- **A notification calls the listeners that are registered when it begins**, each once, in the
order of their registration, whatever they do to the registry and whomever they notify in turn, and
whether or not they answer with errors. The listeners only have to return, and notifications have to
come to their ends within the limit; then they do so in the same way within any larger limit. -/
theorem notifies_registered {b : Behaviour σ ε} (hb : ∀ id note, (b id note).Returns)
    {a : Audience σ ε} (ha : a.registry.Reachable) {limit depth : Nat} {note : Note}
    (hdeep : (notifyWithin b limit depth note a).2 ≠ some .nestedTooDeep) :
    ∃ a', (∀ limit' ≥ limit, notifyWithin b limit' depth note a = (a', none)) ∧
      a'.registry.Reachable ∧ ∃ calls, Notified depth note a a' calls := by
  obtain ⟨hnone, entries, hjournal, h⟩ :=
    (passes_notifyWithin hb limit depth note a).resolve_left hdeep
  obtain ⟨calls, hids, rfl, hwithin⟩ := h.exists_calls
  refine ⟨(notifyWithin b limit depth note a).1, fun limit' hle => ?_, h.reachable ha, calls, ?_⟩
  · rw [notifyWithin_of_le hle hdeep]
    exact Prod.ext rfl hnone
  · exact {
      registered := hids
      once := hids ▸ ha.nodup note.kind
      journal := hjournal
      told := h.filterMap_calledAt?
      within := hwithin
      unfolds := h }

/-- Listeners that make trouble: one that takes another off the list, registers a third, notifies in
turn and is gone then; and others that fail, or take themselves off. -/
def unruly : Behaviour Unit Unit := fun id note =>
  match note with
  | .status _ =>
    if id = "a" then
      .remove .status "b" fun _ => .add .status "c" fun _ =>
        .notify (.message "x") (.finish (some .listenerDisconnected))
    else .finish (some .notEnabled)
  | .message _ => .remove .message id fun _ => .finish none

/-- Two of them listen to the engine, and one to messages. -/
def crowd : Audience Unit Unit where
  registry := (((Registry.add {} .status "a").add .status "b").add .message "m")
  memory := ()

/-- Both that listen to the engine are called, the one that was taken off included. -/
theorem notifies_unruly_crowd :
    (∀ id note, (unruly id note).Returns) ∧ crowd.registry.Reachable ∧
      (notifyWithin unruly 2 0 (.status .started) crowd).2 ≠ some .nestedTooDeep ∧
      ∃ a', (∀ limit' ≥ 2, notifyWithin unruly limit' 0 (.status .started) crowd = (a', none)) ∧
        a'.registry.Reachable ∧ ∃ calls, Notified 0 (.status .started) crowd a' calls := by
  have hreturns (id : String) (note : Note) : (unruly id note).Returns := by
    cases note with
    | status t =>
      rw [unruly]
      split
      · exact fun _ _ => trivial
      · trivial
    | message text => exact fun _ => trivial
  have hreachable : crowd.registry.Reachable :=
    ((Registry.Reachable.empty.add .status "a").add .status "b").add .message "m"
  have hends : (notifyWithin unruly 2 0 (.status .started) crowd).2 ≠ some .nestedTooDeep := by
    decide
  exact ⟨hreturns, hreachable, hends, notifies_registered hreturns hreachable hends⟩

/-- The listener that was added in between is registered afterwards, and was not called. -/
example :
    (notifyWithin unruly 2 0 (.status .started) crowd).1.registry = ⟨["c"], []⟩ ∧
      (notifyWithin unruly 2 0 (.status .started) crowd).1.journal.filterMap
        (JournalEntry.calledAt? 0) = [("a", .status .started), ("b", .status .started)] := by
  decide

end Audience

end SerialBridge
