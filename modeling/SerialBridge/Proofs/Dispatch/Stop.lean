import SerialBridge.Bridge.EventThread
import SerialBridge.Dispatch.Scripted
import SerialBridge.Proofs.Dispatch.Interludes

/-!
# A stop cannot be missed

The loop is stopped by two acts: the enabled flag is cleared, and **after that** a disable request
is posted. `Loop.stop_cannot_be_missed` says that this is enough, wherever in a run among others
the two acts fall and whatever else is posted around them.

The reason is a state that the loop cannot leave without coming to its end. A loop is **armed** if
a disable request is pending and the flag is clear: the next attempt to drain finds the request,
and at the end of its cycle the flag is still clear (`Loop.Attempt.exits_of_armed`). The request
arms the loop unless it falls into a cycle that exits anyway, because it had taken an earlier
request.
-/

namespace SerialBridge

/-- A flag that is clear stays clear if nobody sets it. -/
theorem Act.foldl_flag_eq_false {acts : List Act} (h : .setEnabled true ∉ acts) :
    acts.foldl flag false = false := by
  induction acts with
  | nil => rfl
  | cons a acts ih =>
    have hrest := ih fun hmem => h (List.mem_cons_of_mem _ hmem)
    cases a with
    | post s => exact hrest
    | setEnabled value =>
      cases value with
      | true => exact absurd List.mem_cons_self h
      | false => exact hrest

/-- Once the flag was cleared and nobody set it again, it is clear. -/
theorem Act.foldl_flag_clear {before between : List Act} (h : .setEnabled true ∉ between)
    (enabled : Bool) : (before ++ .setEnabled false :: between).foldl flag enabled = false := by
  rw [List.foldl_append]
  exact foldl_flag_eq_false h

/-- A mailbox with a pending kind has something pending. -/
theorem Mailbox.hasPending_of_mem {m : Mailbox} {k : EventKind} (hk : k ∈ m.pending) :
    m.hasPending = true := by
  rw [hasPending, Bool.not_eq_true', ← Bool.not_eq_true, PendingSet.isEmpty_iff]
  exact fun hempty => PendingSet.not_mem_empty k (hempty ▸ hk)

/-- Acts leave what is pending, and add the kinds of what they post. -/
theorem Mailbox.mem_pending_performAll {m : Mailbox} (hm : m.waiting = none) (acts : List Act)
    (k : EventKind) :
    k ∈ (acts.foldl perform m).pending ↔ k ∈ m.pending ∨ ∃ s, .post s ∈ acts ∧ s.kind = k := by
  rw [(m.holds_outstanding.performAll hm acts).kinds, m.holds_outstanding.kinds]
  simp only [List.mem_append, mem_posts, or_and_right, exists_or]

/-- Splits two lists, one after the other, at an element. -/
private theorem append_eq_append_cons {α : Type} {xs ys before after : List α} {x : α}
    (h : xs ++ ys = before ++ x :: after) :
    (∃ rest, xs = before ++ x :: rest ∧ after = rest ++ ys) ∨
      ∃ rest, before = xs ++ rest ∧ ys = rest ++ x :: after := by
  rcases List.append_eq_append_iff.mp h with ⟨rest, hbefore, hys⟩ | ⟨rest, hxs, hrest⟩
  · exact .inr ⟨rest, hbefore, hys⟩
  · cases rest with
    | nil => exact .inr ⟨[], by simpa using hxs.symm, hrest.symm⟩
    | cons y rest =>
      obtain ⟨rfl, hafter⟩ := List.cons.inj hrest
      exact .inl ⟨rest, hxs, hafter⟩

namespace Loop

variable {σ ε : Type} {h : Handler σ ε} {l m : Loop σ}

/-- **An armed loop.** Its next attempt makes a cycle, and the run exits after it. -/
theorem Attempt.exits_of_armed {interlude : List Act} (hattempt : l.Attempt h interlude m)
    (hw : m.mailbox.waiting = none) (hpending : .disable ∈ m.mailbox.pending)
    (hclear : m.enabled = false) {rest : List (List Act)} {tail : List Moment}
    (htail : l.moments h (interlude :: rest) = interlude.map .outside ++ tail)
    (hset : .setEnabled true ∉ Moment.acts tail)
    (hok : ∀ e, (l.runAmid h (interlude :: rest)).2 ≠ .failed e) :
    l.runAmid h (interlude :: rest) = (m.dispatched h, .exited) ∧ tail = (m.round h).moments := by
  cases hattempt with
  | refused hdraining _ _ _ => exact absurd hw hdraining
  | waits hp _ _ _ =>
    rw [Mailbox.hasPending_of_mem hpending] at hp
    cases hp
  | ends _ _ hended hrun _ hmoments =>
    rcases hended with ⟨e, rfl⟩ | ⟨rfl, -⟩
    · exact absurd (congrArg Prod.snd (hrun rest)) (hok e)
    · rw [hmoments] at htail
      exact ⟨hrun rest, (List.append_cancel_left htail).symm⟩
  | continues _ hstays _ _ hmoments =>
    rw [hmoments] at htail
    obtain rfl := List.append_cancel_left htail
    rw [Moment.acts_append, Round.acts_moments, List.mem_append, not_or] at hset
    refine absurd ⟨hpending, ?_⟩ hstays
    change (m.dispatched h).enabled = false
    rw [enabled_dispatched, hclear]
    exact Act.foldl_flag_eq_false hset.1

/-- How a run among others ends, `after` being what happens after a disable request that is made
with the flag clear. -/
structure Stops (request : Moment) (after : List Moment) (final : Loop σ × RunEnd ε) : Prop where
  /-- The run exits. -/
  exits : final.2 = .exited
  /-- At most one further drain takes place. -/
  drains : after.countP Moment.isDrain ≤ 1
  /-- The loop does not wait any more. -/
  waits : .waited ∉ after
  /-- If the request is made in a cycle that had itself taken a disable request, the run exits at
  the end of that cycle, and the new request stays pending. -/
  same_cycle : ∀ kinds, request = .inside kinds (.post .disable) → .disable ∈ kinds →
    (∀ m ∈ after, ∃ a, m = .inside kinds a) ∧ .disable ∈ final.1.mailbox.pending

/-- Acts are neither drains nor waits. -/
private theorem count_drains_of_acts {moments : List Moment}
    (hacts : ∀ m ∈ moments, m.act?.isSome = true) :
    moments.countP Moment.isDrain = 0 ∧ .waited ∉ moments := by
  refine ⟨List.countP_eq_zero.mpr fun m hm => ?_, fun hm => Bool.false_ne_true (hacts _ hm)⟩
  cases m with
  | drained kinds => exact absurd (hacts _ hm) Bool.false_ne_true
  | _ => exact Bool.false_ne_true

/-- If an armed loop is left after the request, the run stops: `head` is what happens between the
request and the drain of the next attempt. -/
theorem Stops.of_armed {interlude : List Act} (hattempt : l.Attempt h interlude m)
    (hw : m.mailbox.waiting = none) (hpending : .disable ∈ m.mailbox.pending)
    (hclear : m.enabled = false) {rest : List (List Act)} {request : Moment}
    {head tail : List Moment}
    (hrequest : ∀ kinds, request = .inside kinds (.post .disable) → .disable ∉ kinds)
    (hhead : ∀ m ∈ head, m.act?.isSome = true)
    (htail : l.moments h (interlude :: rest) = interlude.map .outside ++ tail)
    (hset : .setEnabled true ∉ Moment.acts tail)
    (hok : ∀ e, (l.runAmid h (interlude :: rest)).2 ≠ .failed e) :
    Stops request (head ++ tail) (l.runAmid h (interlude :: rest)) := by
  obtain ⟨hrun, rfl⟩ := hattempt.exits_of_armed hw hpending hclear htail hset hok
  have hinside : ∀ x ∈ (m.round h).acts.map (Moment.inside (m.round h).taken.kinds),
      x.act?.isSome = true := fun x hx => by
    obtain ⟨a, -, rfl⟩ := List.mem_map.mp hx
    rfl
  obtain ⟨hbefore, hquiet⟩ := count_drains_of_acts hhead
  obtain ⟨hduring, hquiet'⟩ := count_drains_of_acts hinside
  have hcount : (head ++ (m.round h).moments).countP Moment.isDrain = 0 + (0 + 1) := by
    rw [List.countP_append, hbefore, Round.moments, List.countP_cons_of_pos rfl, hduring]
  refine ⟨by rw [hrun], by omega, ?_, fun kinds hkinds hmem => absurd hmem (hrequest kinds hkinds)⟩
  rw [List.mem_append, not_or]
  refine ⟨hquiet, fun hmem => ?_⟩
  rcases List.mem_cons.mp hmem with hmem | hmem
  · cases hmem
  · exact hquiet' hmem

/-- The run stops if the request falls into a cycle that exits. -/
theorem Stops.of_exits (hw : m.mailbox.waiting = none) {before after : List Moment}
    {request : Moment} (hrequest : request.act? = some (.post .disable))
    (hround : (m.round h).moments = before ++ request :: after) :
    Stops request after (m.dispatched h, (.exited : RunEnd ε)) := by
  obtain ⟨rfl, hact, hinside⟩ := Round.moments_eq_append_cons hrequest hround
  have hacts : ∀ x ∈ after, x.act?.isSome = true := fun x hx => by
    obtain ⟨a, rfl⟩ := hinside x hx
    rfl
  obtain ⟨hcount, hquiet⟩ := count_drains_of_acts hacts
  refine ⟨rfl, by omega, hquiet, fun kinds hkinds _ => ⟨?_, ?_⟩⟩
  · obtain ⟨rfl, -⟩ := Moment.inside.inj hkinds
    exact hinside
  · exact ((holds_dispatched h hw).kinds .disable).mpr ⟨_, mem_posts.mpr hact, rfl⟩

/-- The run stops if the request is made in an interlude: the attempt after it finds the request. -/
theorem Stops.of_interlude (hw : l.mailbox.waiting = none) {interlude : List Act}
    {rest : List (List Act)} {before head tail : List Moment} {request : Moment}
    (hrequest : request.act? = some (.post .disable))
    (hclear : (Moment.acts before).foldl Act.flag l.enabled = false)
    (hhere : interlude.map .outside = before ++ request :: head)
    (htail : l.moments h (interlude :: rest) = interlude.map .outside ++ tail)
    (hset : .setEnabled true ∉ Moment.acts (head ++ tail))
    (hok : ∀ e, (l.runAmid h (interlude :: rest)).2 ≠ .failed e) :
    Stops request (head ++ tail) (l.runAmid h (interlude :: rest)) := by
  have houtside : ∀ x ∈ request :: head, ∃ a ∈ interlude, x = .outside a := fun x hx => by
    have hmem := hhere ▸ List.mem_append_right before hx
    obtain ⟨a, ha, rfl⟩ := List.mem_map.mp hmem
    exact ⟨a, ha, rfl⟩
  have hacts := congrArg Moment.acts hhere
  rw [Moment.acts_map_outside, Moment.acts_append, Moment.acts_cons hrequest] at hacts
  obtain ⟨a, ha, rfl⟩ := houtside request List.mem_cons_self
  obtain rfl := Option.some.inj hrequest
  rw [Moment.acts_append, List.mem_append, not_or] at hset
  refine .of_armed (attempt h interlude l) (waiting_performAll hw interlude) ?_ ?_ nofun
    (fun x hx => ?_) htail hset.2 hok
  · rw [mailbox_performAll]
    exact (Mailbox.mem_pending_performAll hw interlude _).mpr (.inr ⟨.disable, ha, rfl⟩)
  · rw [enabled_performAll, hacts, List.foldl_append, hclear]
    exact Act.foldl_flag_eq_false (by simpa using hset.1)
  · obtain ⟨b, -, rfl⟩ := houtside x (List.mem_cons_of_mem _ hx)
    rfl

/-- The run stops if the request falls into a cycle that goes on: the next attempt finds it. -/
theorem Stops.of_stays (hw : m.mailbox.waiting = none) (hstays : ¬(m.round h).Exits)
    {before head : List Moment} {request : Moment} (hrequest : request.act? = some (.post .disable))
    (hclear : (Moment.acts before).foldl Act.flag m.enabled = false)
    (hround : (m.round h).moments = before ++ request :: head)
    {rest : List (List Act)} (hrest : rest ≠ [])
    (hset : .setEnabled true ∉ Moment.acts (head ++ (m.dispatched h).moments h rest))
    (hok : ∀ e, ((m.dispatched h).runAmid h rest).2 ≠ .failed e) :
    Stops request (head ++ (m.dispatched h).moments h rest) ((m.dispatched h).runAmid h rest) := by
  have hw' := waiting_dispatched h hw
  have hacts := congrArg Moment.acts hround
  rw [Round.acts_moments, Moment.acts_append, Moment.acts_cons hrequest] at hacts
  obtain ⟨rfl, hact, hinside⟩ := Round.moments_eq_append_cons hrequest hround
  obtain ⟨interlude, rest, rfl⟩ := List.exists_cons_of_ne_nil hrest
  have hnext : (m.dispatched h).moments h (interlude :: rest) = interlude.map .outside ++ _ := rfl
  rw [hnext, Moment.acts_append, Moment.acts_append, Moment.acts_map_outside, List.mem_append,
    List.mem_append, not_or, not_or] at hset
  have hclear' : (m.dispatched h).enabled = false := by
    rw [enabled_dispatched, hacts, List.foldl_append, hclear]
    exact Act.foldl_flag_eq_false (by simpa using hset.1)
  have hpending : .disable ∈ (m.dispatched h).mailbox.pending :=
    ((holds_dispatched h hw).kinds _).mpr ⟨_, mem_posts.mpr hact, rfl⟩
  rw [hnext, ← List.append_assoc]
  refine .of_armed (attempt h interlude _) (waiting_performAll hw' interlude) ?_ ?_
    (fun kinds hkinds => ?_) (fun x hx => ?_) hnext hset.2.2 hok
  · rw [mailbox_performAll]
    exact (Mailbox.mem_pending_performAll hw' interlude _).mpr (.inl hpending)
  · rw [enabled_performAll, hclear']
    exact Act.foldl_flag_eq_false hset.2.1
  · -- Had this cycle itself taken a disable request, it would have ended the run.
    obtain ⟨rfl, -⟩ := Moment.inside.inj hkinds
    exact fun hmem => hstays ⟨hmem, hclear'⟩
  · rcases List.mem_append.mp hx with hx | hx
    · obtain ⟨a, rfl⟩ := hinside x hx
      rfl
    · obtain ⟨a, -, rfl⟩ := List.mem_map.mp hx
      rfl

/-- **From attempt to attempt.** The moments before the request leave the flag clear, the request
is made in the moments of the first interludes, and at least one more attempt follows. The
induction is on those interludes: the request falls into the first of them, into the cycle after
it, or into what remains. -/
theorem stops_of_request {first more : List (List Act)} {next : List Act}
    (hw : l.mailbox.waiting = none) {before after : List Moment} {request : Moment}
    (hrequest : request.act? = some (.post .disable))
    (hclear : (Moment.acts before).foldl Act.flag l.enabled = false)
    (hmade : before ++ [request] <+: l.moments h first)
    (hall : l.moments h (first ++ next :: more) = before ++ request :: after)
    (hset : .setEnabled true ∉ Moment.acts after)
    (hok : ∀ e, (l.runAmid h (first ++ next :: more)).2 ≠ .failed e) :
    Stops request after (l.runAmid h (first ++ next :: more)) := by
  induction first generalizing l before with
  | nil => simp [moments] at hmade
  | cons interlude rest ih =>
    have hw' := waiting_performAll hw interlude
    have hlater : rest ++ next :: more ≠ [] := by simp
    rw [List.cons_append] at hall hok ⊢
    obtain ⟨tail, htail⟩ : ∃ tail, l.moments h (interlude :: (rest ++ next :: more))
        = interlude.map .outside ++ tail := ⟨_, rfl⟩
    rcases append_eq_append_cons (htail.symm.trans hall) with
      ⟨head, hhere, rfl⟩ | ⟨before, rfl, hsplit⟩
    · -- The request is made in this interlude.
      exact .of_interlude hw hrequest hclear hhere htail hset hok
    · rw [Moment.acts_append, Moment.acts_map_outside, List.foldl_append,
        ← enabled_performAll] at hclear
      cases attempt h interlude l with
      | refused hdraining _ _ _ => exact absurd hw' hdraining
      | waits _ hrun _ hmoments =>
        rw [hmoments] at htail hmade
        obtain rfl := List.append_cancel_left htail
        cases before with
        | nil =>
          -- A wait is no request.
          obtain rfl := (List.cons.inj hsplit).1
          cases hrequest
        | cons wait before =>
          obtain ⟨rfl, hrest⟩ := List.cons.inj hsplit
          have hclear' : (Moment.acts before).foldl Act.flag _ = false := hclear
          rw [hrun, if_neg fun hempty => hlater (List.isEmpty_iff.mp hempty)] at hok ⊢
          refine ih hw' hclear' ?_ hrest hok
          simpa using hmade
      | ends _ _ hended hrun _ hmoments =>
        rcases hended with ⟨e, rfl⟩ | ⟨rfl, -⟩
        · exact absurd (congrArg Prod.snd (hrun _)) (hok e)
        · rw [hmoments] at htail
          obtain rfl := List.append_cancel_left htail
          rw [hrun]
          exact .of_exits hw' hrequest hsplit
      | continues _ hstays hrun _ hmoments =>
        rw [hmoments] at htail hmade
        obtain rfl := List.append_cancel_left htail
        rw [hrun] at hok ⊢
        rcases append_eq_append_cons hsplit with ⟨head, hround, rfl⟩ | ⟨before, rfl, hrest⟩
        · -- The request is made in this cycle, and the next attempt is for it.
          exact .of_stays hw' hstays hrequest hclear hround hlater hset hok
        · rw [Moment.acts_append, List.foldl_append, Round.acts_moments,
            ← enabled_dispatched] at hclear
          refine ih (waiting_dispatched h hw') hclear ?_ hrest hok
          simpa using hmade

/-- **A stop cannot be missed.** In a run of the loop among others, over any mailbox that nobody
else is draining and with any handler, let the flag be cleared and later a disable request be made,
each before the run, between two attempts to drain or inside a callback. If the flag is not set
again and no callback fails, then the run stops, however many attempts were to follow: it exits
with at most one further drain and without waiting, and if the cycle of the request had itself
taken a disable request it exits at the end of that cycle and leaves the new request pending. -/
theorem stop_cannot_be_missed (hw : l.mailbox.waiting = none) (first : List (List Act))
    (next : List Act) (more : List (List Act)) {before between after : List Moment}
    {clear request : Moment}
    (hclear : clear.act? = some (.setEnabled false))
    (hrequest : request.act? = some (.post .disable))
    (hmade : before ++ clear :: between ++ [request] <+: l.moments h first)
    (hall : l.moments h (first ++ next :: more) = before ++ clear :: between ++ request :: after)
    (hset : .setEnabled true ∉ Moment.acts (between ++ after))
    (hok : ∀ e, (l.runAmid h (first ++ next :: more)).2 ≠ .failed e) :
    Stops request after (l.runAmid h (first ++ next :: more)) := by
  rw [Moment.acts_append, List.mem_append, not_or] at hset
  have hflag : (Moment.acts (before ++ clear :: between)).foldl Act.flag l.enabled = false := by
    rw [Moment.acts_append, Moment.acts_cons hclear]
    exact Act.foldl_flag_clear hset.1 l.enabled
  exact stops_of_request hw hrequest hflag hmade hall hset.2 hok

/-- A loop that has a status before it, and a script that answers the status by stopping the
loop. -/
def stoppedByItself : Loop Scripted.HandlerScript :=
  let mailbox := (Mailbox.blank 2 Nat.two_pos).postAll [.status 1]
  { mailbox, consumer := .ofMailbox mailbox, enabled := true
    state := { turns := [{ acts := Scripted.HandlerScript.rescue }] } }

/-- Another status arrives before the loop drains again. It is dispatched in the last cycle. -/
theorem stop_beside_a_status :
    let status : PendingSet := .ofList [.status]
    let both : PendingSet := .ofList [.status, .disable]
    stoppedByItself.moments Scripted.HandlerScript.play [[], [.post (.status 5)]]
        = [.drained status, .inside status (.setEnabled false), .inside status (.post .disable),
          .outside (.post (.status 5)), .drained both] ∧
      Stops (.inside status (.post .disable)) [.outside (.post (.status 5)), .drained both]
        (stoppedByItself.runAmid Scripted.HandlerScript.play [[], [.post (.status 5)]]) := by
  have hall : stoppedByItself.moments Scripted.HandlerScript.play [[], [.post (.status 5)]]
      = [.drained (.ofList [.status])] ++ .inside (.ofList [.status]) (.setEnabled false) ::
          [] ++ .inside (.ofList [.status]) (.post .disable) ::
            [.outside (.post (.status 5)), .drained (.ofList [.status, .disable])] := rfl
  have hexited : (stoppedByItself.runAmid Scripted.HandlerScript.play
      [[], [.post (.status 5)]]).2 = .exited := rfl
  exact ⟨hall, stop_cannot_be_missed rfl [[]] [.post (.status 5)] [] rfl rfl ⟨[], rfl⟩ hall
    (by decide) fun e he => nomatch hexited.symm.trans he⟩

/-! ### The thread of a bridge -/

/-- Whatever is done in a cycle is done by the handler in one of its calls. -/
theorem exists_call_of_mem_acts {a : Act} (ha : a ∈ (l.round h).acts) :
    ∃ scene d s, a ∈ (h scene d s).acts := by
  have hcalls (kinds : PendingSet) (ds : List Delivery) (l : Loop σ) :
      ∀ c ∈ callbacks h kinds ds l, ∃ scene d s, c.acts = (h scene d s).acts := by
    induction ds generalizing l with
    | nil => nofun
    | cons d rest ih =>
      intro c hc
      rw [callbacks] at hc
      rcases List.mem_cons.mp hc with rfl | hc
      · exact ⟨_, _, _, rfl⟩
      · cases hfailure : (h ⟨kinds, rest, l.mailbox, l.enabled⟩ d l.state).failure with
        | some e => simp [hfailure] at hc
        | none => exact ih _ c (by simpa [hfailure] using hc)
  obtain ⟨c, hc, hmem⟩ := List.mem_flatMap.mp ha
  obtain ⟨scene, d, s, hacts⟩ := hcalls _ _ _ c hc
  exact ⟨scene, d, s, hacts ▸ hmem⟩

/-- An armed loop, with a handler that leaves the flag alone, comes to its end within a cycle. -/
theorem run_ends_of_armed (hw : l.mailbox.waiting = none) (hpending : .disable ∈ l.mailbox.pending)
    (hclear : l.enabled = false) (hset : ∀ scene d s, .setEnabled true ∉ (h scene d s).acts) :
    (l.run h 1).2 = .exited ∨ ∃ e, (l.run h 1).2 = .failed e := by
  cases l.begins h hw (Mailbox.hasPending_of_mem hpending) 0 with
  | fails e _ hrun _ => exact .inr ⟨e, by rw [hrun]⟩
  | exits _ _ hrun _ => exact .inl (by rw [hrun])
  | continues _ hstays _ _ =>
    refine absurd ⟨hpending, ?_⟩ hstays
    change (l.dispatched h).enabled = false
    rw [enabled_dispatched, hclear]
    refine Act.foldl_flag_eq_false fun hmem => ?_
    obtain ⟨scene, d, s, hact⟩ := exists_call_of_mem_acts hmem
    exact hset scene d s hact

end Loop

/-- The handler of a bridge's event thread does nothing but post reports. -/
theorem Hall.exists_report_of_mem_handle {δ σ : Type} {s : Surroundings δ σ}
    {outlet : Option Reporter} {own : Nat} {scene : Scene} {d : Delivery} {hall : Hall σ} {a : Act}
    (ha : a ∈ (Hall.handle s outlet own scene d hall).acts) :
    ∃ report : Report, a = .post report.signal := by
  have htell {note : Note} {hall : Hall σ} (ha : a ∈ (hall.tell s outlet own note).acts) :
      ∃ report : Report, a = .post report.signal := by
    obtain ⟨r, -, rfl⟩ := List.mem_map.mp ha
    exact ⟨r.2, rfl⟩
  cases d with
  | status code =>
    rw [Hall.handle] at ha
    split at ha
    · exact htell ha
    · cases ha
  | message snapshot =>
    rw [Hall.handle] at ha
    split at ha
    · cases ha
    · exact htell ha
  | disable => cases ha

/-- The handler of a bridge's event thread leaves the flag alone. -/
theorem Hall.setEnabled_notMem_handle {δ σ : Type} (s : Surroundings δ σ) (outlet : Option Reporter)
    (own : Nat) (scene : Scene) (d : Delivery) (hall : Hall σ) {value : Bool} :
    .setEnabled value ∉ (Hall.handle s outlet own scene d hall).acts := fun hmem => by
  obtain ⟨report, hreport⟩ := Hall.exists_report_of_mem_handle hmem
  cases hreport

/-- Once the flag is clear and a disable request was posted, the event thread of a bridge comes to
its end within a cycle, so that whoever waits for it does not wait for ever. -/
theorem Hall.run_ends_of_disable {δ σ : Type} (s : Surroundings δ σ) (outlet : Option Reporter)
    (own : Nat) {mailbox : Mailbox} (hw : mailbox.waiting = none) (consumer : Consumer)
    (hall : Hall σ) :
    let l : Loop (Hall σ) :=
      { mailbox := mailbox.record .disable, consumer, enabled := false, state := hall }
    (l.run (Hall.handle s outlet own) 1).2 = .exited ∨
      ∃ crash, (l.run (Hall.handle s outlet own) 1).2 = .failed crash := by
  intro l
  have hpending : .disable ∈ l.mailbox.pending := by
    change .disable ∈ (mailbox.record .disable).pending
    rw [Mailbox.pending_record]
    exact PendingSet.mem_insert.mpr (.inr rfl)
  exact Loop.run_ends_of_armed ((Mailbox.waiting_record mailbox .disable).trans hw) hpending rfl
    fun scene d hall => Hall.setEnabled_notMem_handle s outlet own scene d hall

end SerialBridge
