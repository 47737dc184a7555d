import SerialBridge.Listener.Conduct

/-!
# What a notification does

A notification calls the listeners that are registered when it begins. Each call may do much else
before it returns, notify others included, and all of it goes into the journal of the audience. The
calls of the notification itself are told from the rest by their **depth**: whatever a call brings
about stands deeper than the call (`Audience.Grows`).

Listeners are `Calm` if every call of theirs returns and leaves the hardware alone. A notification
of calm listeners comes to its end, and what it adds to the journal at its own depth is one call
for each listener that was registered, in order of registration (`Calm.heard_notify`).
-/

namespace SerialBridge

/-! ### Registries without repetitions -/

/-- No listener is registered twice. -/
def Registry.Nodup (r : Registry) : Prop := ∀ k, (r.entries k).Nodup

namespace Registry

theorem nodup_empty : ({} : Registry).Nodup := fun k => by cases k <;> exact List.nodup_nil

/-- Whoever is registered already is not registered again. -/
theorem Nodup.add {r : Registry} (h : r.Nodup) (k : ListenerKind) (id : String) :
    (r.add k id).Nodup := by
  intro j
  by_cases hj : k = j
  · subst hj
    rw [entries_add_self]
    split
    · exact h k
    · next hid => exact List.nodup_append.mpr ⟨h k, by simp, fun a ha b hb => by
        obtain rfl := List.mem_singleton.mp hb
        exact fun hab => hid (hab ▸ ha)⟩
  · rw [entries_add_of_ne r hj]
    exact h j

theorem Nodup.remove {r : Registry} (h : r.Nodup) (k : ListenerKind) (id : String) :
    (r.remove k id).Nodup := by
  intro j
  by_cases hj : k = j
  · subst hj
    rw [entries_remove_self]
    exact (h k).filter _
  · rw [entries_remove_of_ne r hj]
    exact h j

end Registry

/-! ### Depth -/

namespace JournalEntry

/-- How deep within others the notification stands whose call the entry is about. -/
def depth : JournalEntry → Nat
  | .called depth _ _ => depth
  | .returned depth _ _ => depth

/-- The listener that an entry says was called by an outermost notification, with the note. -/
def heard? : JournalEntry → Option (String × Note)
  | .called 0 id note => some (id, note)
  | _ => none

/-- Calls within calls are not heard by the owner of the audience. -/
theorem heard?_of_pos {e : JournalEntry} (h : 0 < e.depth) : e.heard? = none := by
  cases e with
  | called depth id note =>
    cases depth with
    | zero => cases h
    | succ depth => rfl
  | returned depth id failure => rfl

end JournalEntry

variable {σ ε : Type}

namespace Audience

/-- The calls that outermost notifications made, in order. -/
def heard (a : Audience σ ε) : List (String × Note) := a.journal.filterMap JournalEntry.heard?

/-- What follows from an answer is no call. -/
theorem journal_heed (a : Audience σ ε) (k : ListenerKind) (id : String)
    (failure : Option BridgeError) : (a.heed k id failure).journal = a.journal := by
  rw [heed]
  split <;> rfl

theorem effects_heed (a : Audience σ ε) (k : ListenerKind) (id : String)
    (failure : Option BridgeError) : (a.heed k id failure).effects = a.effects := by
  rw [heed]
  split <;> rfl

/-- The second audience has come from the first. The journal has only grown, by entries of at least
the given depth, and no listener has come to be registered twice. -/
structure Grows (depth : Nat) (a a' : Audience σ ε) : Prop where
  /-- What was added to the journal is of that depth. -/
  journal : ∃ new, a'.journal = a.journal ++ new ∧ ∀ e ∈ new, depth ≤ e.depth
  /-- The registry has no repetitions if it had none. -/
  nodup : a.registry.Nodup → a'.registry.Nodup

namespace Grows

variable {depth : Nat} {a a' a'' : Audience σ ε}

theorem refl (depth : Nat) (a : Audience σ ε) : Grows depth a a :=
  ⟨⟨[], (List.append_nil _).symm, nofun⟩, id⟩

theorem trans (h : Grows depth a a') (h' : Grows depth a' a'') : Grows depth a a'' := by
  obtain ⟨xs, hxs, hdeep⟩ := h.journal
  obtain ⟨ys, hys, hdeep'⟩ := h'.journal
  refine ⟨⟨xs ++ ys, by rw [hys, hxs, List.append_assoc], fun e he => ?_⟩, h'.nodup ∘ h.nodup⟩
  rcases List.mem_append.mp he with he | he
  · exact hdeep e he
  · exact hdeep' e he

/-- What is deep enough is deep enough for less. -/
theorem mono {depth' : Nat} (h : Grows depth' a a') (hle : depth ≤ depth') : Grows depth a a' := by
  obtain ⟨new, hnew, hdeep⟩ := h.journal
  exact ⟨⟨new, hnew, fun e he => Nat.le_trans hle (hdeep e he)⟩, h.nodup⟩

theorem enter (a : Audience σ ε) {e : JournalEntry} (he : depth ≤ e.depth) :
    Grows depth a (a.enter e) :=
  ⟨⟨[e], rfl, fun _ he' => List.mem_singleton.mp he' ▸ he⟩, id⟩

theorem heed (depth : Nat) (a : Audience σ ε) (k : ListenerKind) (id : String)
    (failure : Option BridgeError) : Grows depth a (a.heed k id failure) := by
  rw [Audience.heed]
  split
  · exact ⟨⟨[], (List.append_nil _).symm, nofun⟩, fun h => h.remove k id⟩
  · exact refl depth a

/-- What stands deeper than the outermost notifications is no call of theirs. -/
theorem heard_eq (h : Grows 1 a a') : a'.heard = a.heard := by
  obtain ⟨new, hnew, hdeep⟩ := h.journal
  have hnone : new.filterMap JournalEntry.heard? = [] :=
    List.filterMap_eq_nil_iff.mpr fun e he => JournalEntry.heard?_of_pos (hdeep e he)
  rw [heard, hnew, List.filterMap_append, hnone, List.append_nil]
  rfl

end Grows

/-- A conduct adds to the journal only what its notifications add. -/
theorem grows_perform {depth : Nat} {nested : Note → Audience σ ε → Audience σ ε × Option Crash}
    (hnested : ∀ note a, Grows depth a (nested note a).1) (c : Conduct σ ε) (a : Audience σ ε) :
    Grows depth a (c.perform nested a).1 := by
  induction c generalizing a with
  | finish failure => exact .refl depth a
  | panic => exact .refl depth a
  | add k id next ih =>
    have hadd : Grows depth a { a with registry := a.registry.add k id } :=
      ⟨⟨[], (List.append_nil _).symm, nofun⟩, fun h => h.add k id⟩
    exact hadd.trans (ih true _)
  | remove k id next ih =>
    have hremove : Grows depth a { a with registry := a.registry.remove k id } :=
      ⟨⟨[], (List.append_nil _).symm, nofun⟩, fun h => h.remove k id⟩
    exact hremove.trans (ih _ _)
  | count k next ih => exact ih _ a
  | notify note next ih =>
    have hnote := hnested note a
    rw [Conduct.perform]
    generalize nested note a = answer at hnote ⊢
    obtain ⟨a', _ | cause⟩ := answer
    · exact hnote.trans (ih a')
    · exact hnote
  | effect e next ih =>
    have heffect : Grows depth a { a with effects := a.effects ++ [e] } :=
      ⟨⟨[], (List.append_nil _).symm, nofun⟩, id⟩
    exact heffect.trans (ih _)
  | «recall» next ih => exact ih _ a
  | remember memory next ih =>
    have hmemory : Grows depth a { a with memory } :=
      ⟨⟨[], (List.append_nil _).symm, nofun⟩, id⟩
    exact hmemory.trans (ih _)

theorem grows_tellEach (b : Behaviour σ ε) {depth : Nat}
    {nested : Note → Audience σ ε → Audience σ ε × Option Crash}
    (hnested : ∀ note a, Grows (depth + 1) a (nested note a).1) (note : Note) (ids : List String)
    (a : Audience σ ε) : Grows depth a (tellEach b nested depth note ids a).1 := by
  induction ids generalizing a with
  | nil => exact .refl depth a
  | cons id rest ih =>
    have hcalled : Grows depth a (a.enter (.called depth id note)) := .enter a (Nat.le_refl depth)
    have hcall := (grows_perform hnested (b id note) (a.enter (.called depth id note))).mono
      (Nat.le_succ depth)
    rw [tellEach]
    generalize (b id note).perform nested (a.enter (.called depth id note)) = call at hcall ⊢
    obtain ⟨a', failure | cause⟩ := call
    · have hheeded : Grows depth a' (a'.heed note.kind id failure) := .heed depth a' _ id failure
      have hreturned : Grows depth (a'.heed note.kind id failure)
          ((a'.heed note.kind id failure).enter (.returned depth id failure)) :=
        .enter _ (Nat.le_refl depth)
      exact (hcalled.trans hcall).trans (hheeded.trans (hreturned.trans (ih _)))
    · exact hcalled.trans hcall

/-- A notification adds to the journal nothing that stands above it. -/
theorem grows_notifyWithin (b : Behaviour σ ε) (limit depth : Nat) (note : Note)
    (a : Audience σ ε) : Grows depth a (notifyWithin b limit depth note a).1 := by
  induction limit generalizing depth note a with
  | zero => exact .refl depth a
  | succ limit ih => exact grows_tellEach b (ih (depth + 1)) note _ a

end Audience

/-! ### Calm listeners -/

/-- Listeners are **calm** if every call of theirs, with notifications nested as deep as the limit
allows, returns and does not make the hardware report. -/
structure Calm (b : Behaviour σ ε) (limit : Nat) : Prop where
  /-- A call returns, with an error or without. -/
  returns : ∀ id note a, ∃ failure,
    ((b id note).perform (Audience.notifyWithin b limit 1) a).2 = .returned failure
  /-- A call has no effect outside. -/
  effects : ∀ id note a,
    ((b id note).perform (Audience.notifyWithin b limit 1) a).1.effects = a.effects

namespace Calm

variable {b : Behaviour σ ε} {limit : Nat}

/-- Calm listeners are called one after the other, each once, and that is all. -/
theorem tellEach (h : Calm b limit) (note : Note) (ids : List String) (a : Audience σ ε) :
    let told := Audience.tellEach b (Audience.notifyWithin b limit 1) 0 note ids a
    told.2 = none ∧ told.1.effects = a.effects ∧ told.1.heard = a.heard ++ ids.map (·, note) := by
  induction ids generalizing a with
  | nil => exact ⟨rfl, rfl, (List.append_nil _).symm⟩
  | cons id rest ih =>
    obtain ⟨failure, hreturns⟩ := h.returns id note (a.enter (.called 0 id note))
    have heffects := h.effects id note (a.enter (.called 0 id note))
    have hdeep := Audience.grows_perform (Audience.grows_notifyWithin b limit 1) (b id note)
      (a.enter (.called 0 id note))
    rw [Audience.tellEach]
    generalize (b id note).perform (Audience.notifyWithin b limit 1) _ = called at *
    obtain ⟨a', ending⟩ := called
    obtain rfl : ending = .returned failure := hreturns
    -- What the call brings about stands deeper, so that only the call itself is heard.
    have hheard : ((a'.heed note.kind id failure).enter (.returned 0 id failure)).heard
        = a.heard ++ [(id, note)] := by
      have hentered : ((a'.heed note.kind id failure).enter (.returned 0 id failure)).heard
          = a'.heard := by
        simp [Audience.heard, Audience.enter, Audience.journal_heed, JournalEntry.heard?]
      rw [hentered, hdeep.heard_eq]
      simp [Audience.heard, Audience.enter, JournalEntry.heard?]
    have hheed := Audience.effects_heed a' note.kind id failure
    obtain ⟨hend, hrest, hrest'⟩ :=
      ih ((a'.heed note.kind id failure).enter (.returned 0 id failure))
    refine ⟨hend, hrest.trans (hheed.trans heffects), ?_⟩
    rw [hrest', hheard, List.append_assoc]
    rfl

variable (h : Calm b limit) (note : Note) (a : Audience σ ε)
include h

/-- A notification of calm listeners comes to its end. -/
theorem notify_ends : (a.notify b (limit + 1) note).2 = none := (h.tellEach note _ a).1

theorem effects_notify : (a.notify b (limit + 1) note).1.effects = a.effects :=
  (h.tellEach note _ a).2.1

/-- **A notification calls every listener that is registered when it begins**, once and in order of
registration. -/
theorem heard_notify : (a.notify b (limit + 1) note).1.heard
    = a.heard ++ (a.registry.entries note.kind).map (·, note) :=
  (h.tellEach note _ a).2.2

end Calm

namespace Audience

/-- An audience after it was told a note, or after it was told nothing. -/
def hear (b : Behaviour σ ε) (limit : Nat) (note? : Option Note) (a : Audience σ ε) :
    Audience σ ε :=
  match note? with
  | none => a
  | some note => (a.notify b (limit + 1) note).1

/-- The calls that telling a note gives rise to, among the listeners in a registry. -/
def callsOf (r : Registry) (note? : Option Note) : List (String × Note) :=
  note?.elim [] fun note => (r.entries note.kind).map (·, note)

variable {b : Behaviour σ ε} {limit : Nat} {note? : Option Note} {a : Audience σ ε}

theorem effects_hear (h : Calm b limit) : (a.hear b limit note?).effects = a.effects := by
  cases note? with
  | none => rfl
  | some note => exact h.effects_notify note a

theorem heard_hear (h : Calm b limit) :
    (a.hear b limit note?).heard = a.heard ++ callsOf a.registry note? := by
  cases note? with
  | none => exact (List.append_nil _).symm
  | some note => exact h.heard_notify note a

theorem nodup_hear (ha : a.registry.Nodup) : (a.hear b limit note?).registry.Nodup := by
  cases note? with
  | none => exact ha
  | some note => exact (grows_notifyWithin b (limit + 1) 0 note a).nodup ha

/-- A note for which nobody is registered changes nothing. -/
theorem hear_of_count_eq_zero {note : Note} (h : a.registry.count note.kind = 0) :
    a.hear b limit (some note) = a := by
  have hnone : a.registry.entries note.kind = [] := List.length_eq_zero_iff.mp h
  rw [hear, notify, notifyWithin, hnone, tellEach]

end Audience

end SerialBridge
