import SerialBridge.Dispatch.Scripted
import SerialBridge.Proofs.Dispatch.Round

/-!
# Every report is accounted for

The rounds of a run of the dispatch loop divide time into **windows**: the first reaches from the
past to the first drain, each later one from a drain to the next. What is reported in a window is
the business of the round at its end.

`Round.Accounts` says that a round settles its window: of each kind with a value, all signals but
the last are superseded before any drain takes them, and the last is handed to exactly one
callback of the round; nothing else is handed to a callback. `Loop.run_accounts_for_every_report`
says that in a run that exits every round settles its window, and that the window after the last
round, of what its callbacks posted, is what the mailbox is left with.
-/

namespace SerialBridge

/-! ### The deliveries of a drain -/

/-- A view delivers a kind as an event of that kind. -/
theorem View.kind_of_delivery? {v : View} {k : EventKind} {d : Delivery}
    (h : v.delivery? k = some d) : d.kind = k := by
  cases k with
  | status => obtain ⟨code, -, rfl⟩ := Option.map_eq_some_iff.mp h; rfl
  | message => obtain ⟨s, -, rfl⟩ := Option.map_eq_some_iff.mp h; rfl
  | disable => obtain rfl := Option.some.inj h; rfl

/-- The kinds of the deliveries are kinds that were taken, each at most once, in dispatch order. -/
theorem Drained.kinds_deliveries (d : Drained) :
    (d.deliveries.map Delivery.kind).Sublist d.kinds.toList := by
  rw [deliveries]
  induction d.kinds.toList with
  | nil => exact .slnil
  | cons k ks ih =>
    cases hk : d.view.delivery? k with
    | none => rw [List.filterMap_cons_none hk]; exact ih.cons k
    | some e =>
      rw [List.filterMap_cons_some hk, List.map_cons, View.kind_of_delivery? hk]
      exact ih.cons_cons k

/-- The deliveries of one kind: one, if the kind was taken and the view has a value for it. -/
theorem Drained.filter_deliveries {d : Drained} {k : EventKind} {e : Delivery} (hk : k ∈ d.kinds)
    (he : d.view.delivery? k = some e) : d.deliveries.filter (·.kind = k) = [e] := by
  obtain ⟨before, after, hsplit⟩ := List.append_of_mem (PendingSet.mem_toList.mpr hk)
  have hnodup := hsplit ▸ PendingSet.nodup_toList d.kinds
  have hother : ∀ ks : List EventKind, k ∉ ks →
      (ks.filterMap d.view.delivery?).filter (·.kind = k) = [] := by
    intro ks hks
    refine List.filter_eq_nil_iff.mpr fun e' he' hkind => hks ?_
    obtain ⟨j, hj, hdel⟩ := List.mem_filterMap.mp he'
    have : j = k := (View.kind_of_delivery? hdel).symm.trans (by simpa using hkind)
    exact this ▸ hj
  -- No kind is taken twice, so what stands around `k` delivers nothing of its kind.
  obtain ⟨-, hlater, hapart⟩ := List.nodup_append.mp hnodup
  have hbefore : k ∉ before := fun hmem => hapart k hmem k List.mem_cons_self rfl
  have hafter : k ∉ after := (List.nodup_cons.mp hlater).1
  rw [deliveries, hsplit, List.filterMap_append, List.filterMap_cons_some he, List.filter_append,
    List.filter_cons_of_pos (by simpa using View.kind_of_delivery? he), hother _ hbefore,
    hother _ hafter]
  rfl

/-! ### A round settles its window -/

/-- The delivery hands over the value of the signal, a message cut to the given room. -/
def Delivery.HandsOver (room : Nat) (s : Signal) : Delivery → Prop
  | .status code => s = .status code
  | .message snapshot => ∃ p, s = .message p ∧ snapshot.bytes = p.take room
  | .disable => s = .disable

/-- A signal that is the last of its kind, among signals that a drain coalesced, is what the view
delivers for its kind. -/
theorem Drained.Coalesces.delivery?_of_last {d : Drained} {room : Nat} {before after : List Signal}
    {s : Signal} (h : d.Coalesces room (before ++ s :: after))
    (hlast : ∀ t ∈ after, t.kind ≠ s.kind) :
    ∃ e, d.view.delivery? s.kind = some e ∧ e.HandsOver room s := by
  cases s with
  | status code =>
    have hcode : latestStatus (before ++ .status code :: after) = some code :=
      (latest_eq_some_iff Signal.isSome_status?_iff).mpr
        ⟨before, _, after, rfl, rfl, hlast⟩
    exact ⟨.status code, by simp [Signal.kind, View.delivery?, h.status, hcode], rfl⟩
  | message p =>
    have hp : latestPayload (before ++ .message p :: after) = some p :=
      (latest_eq_some_iff Signal.isSome_payload?_iff).mpr
        ⟨before, _, after, rfl, rfl, hlast⟩
    have hmessage := h.message
    rw [hp, Option.map_some] at hmessage
    obtain ⟨snapshot, hsnapshot, hbytes⟩ := Option.map_eq_some_iff.mp hmessage
    exact ⟨.message snapshot, by simp [Signal.kind, View.delivery?, hsnapshot], p, rfl, hbytes⟩
  | disable => exact ⟨.disable, rfl, rfl⟩

/-- What a drain delivers is the last, of its kind, of the signals that the drain coalesced. -/
theorem Drained.Coalesces.stems {d : Drained} {room : Nat} {signals : List Signal} {e : Delivery}
    (h : d.Coalesces room signals) (he : e ∈ d.deliveries) :
    ∃ before s after, signals = before ++ s :: after ∧ e.HandsOver room s ∧
      ∀ t ∈ after, t.kind ≠ s.kind := by
  obtain ⟨k, hk, hdel⟩ := List.mem_filterMap.mp he
  obtain ⟨before, s, after, rfl, rfl, hlast⟩ :=
    exists_last_of_kind ((h.kinds k).mp (PendingSet.mem_toList.mp hk))
  obtain ⟨e', hdel', hover⟩ := h.delivery?_of_last hlast
  obtain rfl : e = e' := Option.some.inj (hdel.symm.trans hdel')
  exact ⟨before, s, after, rfl, hover, hlast⟩

/-- A round **accounts** for the signals of its window. -/
structure Round.Accounts {ε : Type} (r : Round ε) (room : Nat) (window : List Signal) : Prop where
  /-- The drain took the signals of the window, coalesced. -/
  taken : r.taken.Coalesces room window
  /-- A value is superseded before the drain takes it, or handed to exactly one callback. -/
  reaches : ∀ before s after, window = before ++ s :: after → (∃ t ∈ after, t.kind = s.kind) ∨
      ∃ c, r.callbacks.filter (·.delivery.kind = s.kind) = [c] ∧ c.delivery.HandsOver room s
  /-- A callback is handed a signal of the window that no later one of its kind supersedes. -/
  stems : ∀ c ∈ r.callbacks, ∃ before s after, window = before ++ s :: after ∧
    c.delivery.HandsOver room s ∧ ∀ t ∈ after, t.kind ≠ s.kind

/-- A round in which every delivery is made accounts for its window. -/
theorem Round.accounts_of_deliveries {ε : Type} {r : Round ε} {room : Nat} {window : List Signal}
    (h : r.taken.Coalesces room window)
    (hall : r.callbacks.map (·.delivery) = r.taken.deliveries) : r.Accounts room window where
  taken := h
  reaches := by
    rintro before s after rfl
    by_cases hlater : ∃ t ∈ after, t.kind = s.kind
    · exact .inl hlater
    · have hlast : ∀ t ∈ after, t.kind ≠ s.kind := fun t ht hk => hlater ⟨t, ht, hk⟩
      obtain ⟨e, hdel, hover⟩ := h.delivery?_of_last hlast
      have hkind : s.kind ∈ r.taken.kinds :=
        (h.kinds _).mpr ⟨s, List.mem_append_right _ List.mem_cons_self, rfl⟩
      have hone : (r.callbacks.filter (·.delivery.kind = s.kind)).map (·.delivery) = [e] := by
        rw [← Drained.filter_deliveries hkind hdel, ← hall, List.filter_map]
        rfl
      obtain ⟨c, hc, rfl⟩ := List.map_eq_singleton_iff.mp hone
      exact .inr ⟨c, hc, hover⟩
  stems := fun c hc => h.stems (hall ▸ List.mem_map_of_mem hc)

/-- If a disable request was taken, it is delivered last. -/
theorem Drained.getLast?_deliveries {d : Drained} (h : .disable ∈ d.kinds) :
    d.deliveries.getLast? = some .disable := by
  have htoList : d.kinds.toList = [.status, .message].filter d.kinds.contains ++ [.disable] := by
    have hc : d.kinds.contains .disable = true := h
    rw [PendingSet.toList,
      show EventKind.dispatchOrder = [.status, .message] ++ [.disable] from rfl,
      List.filter_append, List.filter_cons_of_pos hc]
    rfl
  rw [deliveries, htoList, List.filterMap_append]
  exact List.getLast?_append

/-- What a failing round does not deliver is of other kinds than what it delivers. -/
theorem Round.kind_ne_of_undelivered {ε : Type} {r : Round ε} {undelivered : List Delivery}
    (h : r.taken.deliveries = r.callbacks.map (·.delivery) ++ undelivered) {d : Delivery}
    (hd : d ∈ undelivered) {c : Callback ε} (hc : c ∈ r.callbacks) : c.delivery.kind ≠ d.kind := by
  have hnodup := r.taken.kinds_deliveries.nodup (PendingSet.nodup_toList _)
  rw [h, List.map_append] at hnodup
  obtain ⟨-, -, hapart⟩ := List.nodup_append.mp hnodup
  exact hapart _ (List.mem_map_of_mem (List.mem_map_of_mem hc)) _ (List.mem_map_of_mem hd)

/-! ### A run accounts for everything -/

namespace Loop

variable {σ ε : Type} {h : Handler σ ε} {l : Loop σ} {window : List Signal} {limit : Nat}

/-- A run that exits: every round accounts for its window, and only the last one exits. -/
theorem rounds_of_exited (hw : l.mailbox.waiting = none) (hl : l.mailbox.Holds window)
    (hend : (l.run h limit).2 = .exited) :
    ∃ earlier last, l.rounds h limit = earlier ++ [last] ∧ last.Exits ∧ last.Succeeds ∧
      (∀ r ∈ earlier, ¬r.Exits) ∧
      (∀ p ∈ (l.rounds h limit).zip (window :: (l.rounds h limit).map Round.posts),
        p.1.Accounts l.room p.2) ∧
      (l.run h limit).1.enabled = last.enabled ∧ (l.run h limit).1.mailbox.Holds last.posts := by
  induction limit generalizing l window with
  | zero => cases hend
  | succ limit ih =>
    cases hp : l.mailbox.hasPending with
    | false => rw [run_of_not_hasPending h hw hp] at hend; cases hend
    | true =>
      have hfirst (hs : (l.round h).Succeeds) : (l.round h).Accounts l.room window :=
        Round.accounts_of_deliveries (coalesces_taken hl) hs.1
      cases l.begins h hw hp limit with
      | fails e _ hrun _ => rw [hrun] at hend; cases hend
      | exits hs hx hrun hrounds =>
        rw [hrun, hrounds]
        refine ⟨[], l.round h, rfl, hx, hs, nofun, fun p hmem => ?_, rfl, holds_dispatched h hw⟩
        obtain rfl : p = (l.round h, window) := by simpa using hmem
        exact hfirst hs
      | continues hs hx hrun hrounds =>
        rw [hrun] at hend ⊢
        -- What this round posted is the window of the next one.
        obtain ⟨earlier, last, hsplit, hlast, hok, hearlier, hall, hflag, hholds⟩ :=
          ih (waiting_dispatched h hw) (holds_dispatched h hw) hend
        rw [hrounds]
        refine ⟨l.round h :: earlier, last, by rw [hsplit]; rfl, hlast, hok, fun r hr => ?_,
          fun p hmem => ?_, hflag, hholds⟩
        · rcases List.mem_cons.mp hr with rfl | hr
          · exact hx
          · exact hearlier r hr
        · rcases List.mem_cons.mp hmem with rfl | hmem
          · exact hfirst hs
          · exact room_dispatched h l ▸ hall p hmem

/-- A run that fails: the last round fails with the error of the run, and no other. -/
theorem rounds_of_failed {e : ε} (hw : l.mailbox.waiting = none)
    (hend : (l.run h limit).2 = .failed e) :
    ∃ earlier last, l.rounds h limit = earlier ++ [last] ∧ last.FailsWith e ∧
      (∀ r ∈ earlier, r.Succeeds) ∧ (l.run h limit).1.mailbox.Holds last.posts := by
  induction limit generalizing l with
  | zero => cases hend
  | succ limit ih =>
    cases hp : l.mailbox.hasPending with
    | false => rw [run_of_not_hasPending h hw hp] at hend; cases hend
    | true =>
      cases l.begins h hw hp limit with
      | fails e' hf hrun hrounds =>
        rw [hrun] at hend ⊢
        obtain rfl := RunEnd.failed.inj hend
        exact ⟨[], l.round h, hrounds, hf, nofun, holds_dispatched h hw⟩
      | exits hs hx hrun hrounds => rw [hrun] at hend; cases hend
      | continues hs hx hrun hrounds =>
        rw [hrun] at hend ⊢
        obtain ⟨earlier, last, hsplit, hlast, hearlier, hholds⟩ := ih (waiting_dispatched h hw) hend
        refine ⟨l.round h :: earlier, last, by rw [hrounds, hsplit]; rfl, hlast, fun r hr => ?_,
          hholds⟩
        rcases List.mem_cons.mp hr with rfl | hr
        · exact hs
        · exact hearlier r hr

variable (h l limit)

/-- A run that is given cycles to make and comes to an end did not find a drain waiting. -/
theorem waiting_eq_none_of_run (hend : (l.run h limit).2 ≠ .refused)
    (hend' : (l.run h limit).2 ≠ .unfinished) : l.mailbox.waiting = none := by
  refine Classical.not_not.mp fun hw => ?_
  cases limit with
  | zero => exact hend' rfl
  | succ limit => exact hend (by rw [run_of_waiting h hw])

/-- **No report is lost.** In a run of the loop over any mailbox, with any flag and any handler,
let the windows be what is outstanding at the start, and then what the callbacks of each round
post.

* If the run exits, only its last round took a disable request and left the flag clear. Every
  round accounts for its window: each signal is superseded within the window, or handed to exactly
  one callback of the round at its end. The last callback of all is that of the disable request,
  and the mailbox is left with exactly what the last round posted.
* If the run fails, its error is that of the last callback, the only one that fails. What was to
  follow in its round is not delivered, and the mailbox is left with exactly what that round
  posted. -/
theorem run_accounts_for_every_report :
    let rounds := l.rounds h limit
    let windows := l.mailbox.outstanding :: rounds.map Round.posts
    let final := (l.run h limit).1
    ((l.run h limit).2 = .exited →
      ∃ earlier last, rounds = earlier ++ [last] ∧
        (EventKind.disable ∈ last.taken.kinds ∧ last.enabled = false ∧ final.enabled = false) ∧
        (∀ r ∈ earlier, ¬(EventKind.disable ∈ r.taken.kinds ∧ r.enabled = false)) ∧
        (∀ p ∈ rounds.zip windows, p.1.Accounts l.room p.2) ∧
        (last.callbacks.map (·.delivery)).getLast? = some .disable ∧
        final.mailbox.Holds last.posts) ∧
    ∀ e, (l.run h limit).2 = .failed e →
      ∃ earlier last made callback undelivered, rounds = earlier ++ [last] ∧
        last.callbacks = made ++ [callback] ∧ callback.failure = some e ∧
        (∀ c ∈ earlier.flatMap (·.callbacks) ++ made, c.failure = none) ∧
        last.taken.deliveries = last.callbacks.map (·.delivery) ++ undelivered ∧
        (∀ d ∈ undelivered, ∀ c ∈ last.callbacks, c.delivery.kind ≠ d.kind) ∧
        final.mailbox.Holds last.posts := by
  intro rounds windows final
  refine ⟨fun hend => ?_, fun e hend => ?_⟩
  · have hw : l.mailbox.waiting = none :=
      waiting_eq_none_of_run h l limit (by simp [hend]) (by simp [hend])
    obtain ⟨earlier, last, hsplit, hexits, hok, hearlier, hall, hflag, hholds⟩ :=
      rounds_of_exited hw l.mailbox.holds_outstanding hend
    refine ⟨earlier, last, hsplit, ⟨hexits.1, hexits.2, hflag.trans hexits.2⟩, hearlier, hall, ?_,
      hholds⟩
    rw [hok.1]
    exact Drained.getLast?_deliveries hexits.1
  · have hw : l.mailbox.waiting = none :=
      waiting_eq_none_of_run h l limit (by simp [hend]) (by simp [hend])
    obtain ⟨earlier, last, hsplit, ⟨made, callback, undelivered, hcallbacks, hfailure, hmade, hdel⟩,
      hearlier, hholds⟩ := rounds_of_failed hw hend
    refine ⟨earlier, last, made, callback, undelivered, hsplit, hcallbacks, hfailure,
      fun c hc => ?_, hdel, fun d hd c hc => Round.kind_ne_of_undelivered hdel hd hc, hholds⟩
    rcases List.mem_append.mp hc with hc | hc
    · obtain ⟨r, hr, hc⟩ := List.mem_flatMap.mp hc
      exact (hearlier r hr).2 c hc
    · exact hmade c hc

/-- A loop with a status and a disable request before it. A message is reported by the callback of
the status, too late for the only round. -/
def lateMessage : Loop Scripted.HandlerScript :=
  let mailbox := (Mailbox.blank 2 Nat.two_pos).postAll [.status 2, .disable]
  { mailbox, consumer := .ofMailbox mailbox, enabled := false
    state := { turns := [{ acts := [.post (.message [1])] }] } }

/-- The late message is what the mailbox is left with. -/
theorem run_accounts_for_a_late_message :
    (lateMessage.run Scripted.HandlerScript.play 1).2 = .exited ∧
      (lateMessage.run Scripted.HandlerScript.play 1).1.mailbox.Holds [.message [1]] := by
  have hend : (lateMessage.run Scripted.HandlerScript.play 1).2 = .exited := rfl
  obtain ⟨earlier, last, hsplit, -, -, -, -, hholds⟩ :=
    (run_accounts_for_every_report Scripted.HandlerScript.play lateMessage 1).1 hend
  have hround : lateMessage.rounds Scripted.HandlerScript.play 1
      = [] ++ [lateMessage.round Scripted.HandlerScript.play] := rfl
  obtain ⟨-, hlast⟩ := List.append_inj' (hround.symm.trans hsplit) rfl
  obtain rfl := (List.cons.inj hlast).1
  exact ⟨hend, hholds⟩

end Loop

end SerialBridge
