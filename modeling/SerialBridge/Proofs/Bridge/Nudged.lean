import SerialBridge.Proofs.Bridge.Amid

/-!
# Bridges that differ in stray requests

Two bridges run side by side. The first has its mailboxes to itself, and stray disable requests come
in at the second. That one is then the first, except that the mailboxes that are strayed to are
**nudged** (`Bridge.Nudged`): a disable request may be pending there, and more requests and drains
have been counted. The consumer of the session may besides have got its view by a drain more, which
makes no difference to the next drain.

One lemma for each thing that may happen says that the bridges stay like this. Some of it happens
to both of them: a signal is posted, the event thread works (`Nudged.works`), the session is
closed (`Nudged.disable`) or opened (`Nudged.enable`). The rest happens to the second alone: a
stray request is posted (`Nudged.request`), and the event thread takes it (`Nudged.drifts`).

Where nobody strays to the session, both event threads do the very same, whatever becomes of them.
Where somebody does, the first must come to rest. Then the second does too, however stray requests
come in between its attempts (`Nudged.exists_works_amid`).
-/

namespace SerialBridge

/-! ### Mailboxes -/

/-- The second list has the same mailboxes as the first, but those that are strayed to are
nudged. -/
def NudgedAll (strayed : Nat → Prop) (mailboxes mailboxes' : List Mailbox) : Prop :=
  ∀ n, ∃ x : Nudge, mailboxes'[n]? = mailboxes[n]?.map (·.nudged x) ∧ (¬strayed n → x = {})

namespace NudgedAll

variable {strayed strayed' : Nat → Prop} {mailboxes mailboxes' : List Mailbox} {capacity : Nat}

theorem refl (strayed : Nat → Prop) (mailboxes : List Mailbox) :
    NudgedAll strayed mailboxes mailboxes :=
  fun n => ⟨{}, by simp, fun _ => rfl⟩

theorem length_eq (h : NudgedAll strayed mailboxes mailboxes') :
    mailboxes'.length = mailboxes.length := by
  have hends (n : Nat) : mailboxes'.length ≤ n ↔ mailboxes.length ≤ n := by
    obtain ⟨x, hx, -⟩ := h n
    rw [← List.getElem?_eq_none_iff, ← List.getElem?_eq_none_iff, hx, Option.map_eq_none_iff]
  exact Nat.le_antisymm ((hends _).mpr le_rfl) ((hends _).mp le_rfl)

/-- A mailbox that is not strayed to is the same. -/
theorem getElem?_eq (h : NudgedAll strayed mailboxes mailboxes') {n : Nat} (hn : ¬strayed n) :
    mailboxes'[n]? = mailboxes[n]? := by
  obtain ⟨x, hx, hnone⟩ := h n
  rw [hx, hnone hn]
  simp

/-- More mailboxes may be strayed to than are. -/
theorem mono (h : NudgedAll strayed mailboxes mailboxes') (hmore : ∀ n, strayed n → strayed' n) :
    NudgedAll strayed' mailboxes mailboxes' := fun n => by
  obtain ⟨x, hx, hnone⟩ := h n
  exact ⟨x, hx, fun hn => hnone fun hstrayed => hn (hmore n hstrayed)⟩

/-- No mailbox is strayed to that has not been made yet. -/
theorem restrict (h : NudgedAll strayed mailboxes mailboxes') :
    NudgedAll (fun n => strayed n ∧ n < mailboxes.length) mailboxes mailboxes' := fun n => by
  by_cases hn : n < mailboxes.length
  · obtain ⟨x, hx, hnone⟩ := h n
    exact ⟨x, hx, fun hquiet => hnone fun hstrayed => hquiet ⟨hstrayed, hn⟩⟩
  · have hnone : mailboxes[n]? = none := List.getElem?_eq_none_iff.mpr (Nat.not_lt.mp hn)
    have hnone' : mailboxes'[n]? = none :=
      List.getElem?_eq_none_iff.mpr (h.length_eq ▸ Nat.not_lt.mp hn)
    exact ⟨{}, by rw [hnone, hnone']; rfl, fun _ => rfl⟩

/-- The same mailbox is added to both lists. -/
theorem concat (h : NudgedAll strayed mailboxes mailboxes') (m : Mailbox) :
    NudgedAll strayed (mailboxes ++ [m]) (mailboxes' ++ [m]) := fun n => by
  rw [List.getElem?_append, List.getElem?_append, h.length_eq]
  split
  · exact h n
  · exact ⟨{}, by simp, fun _ => rfl⟩

/-- A mailbox is replaced in both lists. -/
theorem set (h : NudgedAll strayed mailboxes mailboxes') {number : Nat} (m : Mailbox) {x : Nudge}
    (hx : ¬strayed number → x = {}) :
    NudgedAll strayed (mailboxes.set number m) (mailboxes'.set number (m.nudged x)) := fun n => by
  obtain ⟨y, hy, hnone⟩ := h n
  rw [List.getElem?_set', List.getElem?_set', hy]
  split
  · next hn =>
    refine ⟨x, ?_, hn ▸ hx⟩
    cases mailboxes[n]? <;> rfl
  · exact ⟨y, rfl, hnone⟩

/-- The same signal is posted to both lists. -/
theorem postTo (h : NudgedAll strayed mailboxes mailboxes')
    (hfree : ∀ m ∈ mailboxes, m.Free capacity) (number : Nat) (sig : Signal) :
    NudgedAll strayed (postTo mailboxes number sig) (postTo mailboxes' number sig) := fun n => by
  obtain ⟨x, hx, hnone⟩ := h n
  refine ⟨x, ?_, hnone⟩
  rw [SerialBridge.postTo, SerialBridge.postTo, List.getElem?_modify, List.getElem?_modify, hx]
  cases hm : mailboxes[n]? with
  | none => rfl
  | some m =>
    have hw : m.waiting = none := (hfree m (List.mem_of_getElem? hm)).waiting
    simp only [Option.map_some, Option.map_eq_map]
    split
    · rw [Mailbox.post_eq_record hw, Mailbox.post_eq_record ((Mailbox.waiting_nudged m x).trans hw),
        Mailbox.record_nudged]
    · rfl

/-- A stray request is posted to the second list. -/
theorem stray (h : NudgedAll strayed mailboxes mailboxes')
    (hfree : ∀ m ∈ mailboxes, m.Free capacity) {number : Nat} (hnumber : strayed number) :
    NudgedAll strayed mailboxes (SerialBridge.postTo mailboxes' number .disable) := fun n => by
  obtain ⟨x, hx, hnone⟩ := h n
  rw [SerialBridge.postTo, List.getElem?_modify, hx]
  by_cases hn : number = n
  · refine ⟨{ x with noted := true, requests := x.requests + 1 }, ?_,
      fun hquiet => absurd (hn ▸ hnumber) hquiet⟩
    cases hm : mailboxes[n]? with
    | none => rfl
    | some m =>
      have hw : (m.nudged x).waiting = none := (hfree m (List.mem_of_getElem? hm)).waiting
      simp [hn, Mailbox.post_eq_record hw, Mailbox.record_disable_nudged]
  · exact ⟨x, by simp [hn], hnone⟩

/-- The same reports are made to both lists. -/
theorem reportAll (h : NudgedAll strayed mailboxes mailboxes')
    (hfree : ∀ m ∈ mailboxes, m.Free capacity) (reports : List (Reporter × Report)) :
    NudgedAll strayed (reportAll mailboxes reports) (reportAll mailboxes' reports) := by
  induction reports generalizing mailboxes mailboxes' with
  | nil => exact h
  | cons r reports ih =>
    exact ih (h.postTo hfree r.1.mailbox r.2.signal) (free_postTo hfree r.1.mailbox r.2.signal)

end NudgedAll

/-- **What closing leaves in a mailbox.** In the first, nothing else was pending. In the second, a
stray request may be pending, and it may be taken in place of the one by which the thread is meant
to end. -/
theorem Mailbox.exists_closed_nudged {m m' : Mailbox} (hempty : m.pending = ∅) {x : Nudge}
    (session session' : Session)
    (hclosed : m' = (m.nudged x).served session' .disable ∨
      .disable ∈ (m.nudged x).pending ∧
        m' = ((m.nudged x).take session'.consumer.view).2.record .disable) :
    ∃ y, m' = (m.served session .disable).nudged y ∧ (x = {} → y = {}) := by
  rcases hclosed with rfl | ⟨hfound, rfl⟩
  · refine ⟨{ x with noted := false }, ?_, ?_⟩
    · rw [served, record_nudged, take_nudged, served]
    · rintro rfl
      rfl
  · refine ⟨{ x with noted := true }, record_take_nudged hempty x _ _, ?_⟩
    rintro rfl
    rw [nudged_default, hempty] at hfound
    exact absurd hfound (PendingSet.not_mem_empty _)

/-- The second session is the first, except for what stray requests do. If its mailbox is not
strayed to, it is the same. -/
structure Session.Nudged (strayed : Nat → Prop) (session session' : Session) : Prop where
  /-- The mailbox is the same. -/
  mailbox : session'.mailbox = session.mailbox
  /-- The event thread is there or is not. -/
  alive : session'.alive = session.alive
  /-- The views differ in what a drain resets. -/
  view : session'.consumer.view.reset = session.consumer.view.reset
  /-- Where nobody strays, nothing is different. -/
  same : ¬strayed session.mailbox → session' = session

/-! ### Bridges -/

variable {δ σ : Type}

/-- The handler of the event thread does not care about disable requests. -/
theorem Hall.steady_handle (s : Surroundings δ σ) (outlet : Option Reporter) (own : Nat) :
    Steady (Hall.handle s outlet own) where
  scene _ _ _ _ := rfl
  disable _ _ := rfl
  flag scene d hall _ := Hall.setEnabled_notMem_handle s outlet own scene d hall

namespace Bridge

/-- The second bridge is the first, except for what stray requests have done to mailboxes and to the
consumer of the session. -/
inductive Nudged (strayed : Nat → Prop) (b : Bridge δ σ) : Bridge δ σ → Prop where
  /-- Mailboxes and session are nudged. -/
  | of {mailboxes : List Mailbox} {session : Option Session}
    (all : NudgedAll strayed b.mailboxes mailboxes)
    (own : Option.Rel (Session.Nudged strayed) b.session session) :
    Nudged strayed b { b with mailboxes, session }

namespace Nudged

variable {strayed strayed' : Nat → Prop} {config : ValidConfig} {b c d : Bridge δ σ}

theorem refl (strayed : Nat → Prop) (hb : b.session = none) : Nudged strayed b b := by
  have hsession : Option.Rel (Session.Nudged strayed) b.session b.session := by
    rw [hb]
    exact .none
  exact .of (.refl strayed b.mailboxes) hsession

/-- One of the bridges has a session if the other has. -/
theorem session_of_none (h : Nudged strayed b c) (hb : b.session = none) : c.session = none := by
  cases h with
  | of _ hsession =>
    rw [hb] at hsession
    cases hsession
    rfl

theorem session_of_some (h : Nudged strayed b c) {session : Session}
    (hb : b.session = some session) :
    ∃ session', c.session = some session' ∧ session.Nudged strayed session' := by
  cases h with
  | of _ hsession =>
    rw [hb] at hsession
    cases hsession with
    | some hnudged => exact ⟨_, rfl, hnudged⟩

theorem isEnabled_eq (h : Nudged strayed b c) : c.isEnabled = b.isEnabled := by
  cases hb : b.session with
  | none => rw [isEnabled, isEnabled, hb, h.session_of_none hb]
  | some session =>
    obtain ⟨session', hc, -⟩ := h.session_of_some hb
    rw [isEnabled, isEnabled, hb, hc]
    rfl

theorem current_eq (h : Nudged strayed b c) : c.current = b.current := by
  cases hb : b.session with
  | none => rw [current, current, hb, h.session_of_none hb]
  | some session =>
    obtain ⟨session', hc, hnudged⟩ := h.session_of_some hb
    rw [current, current, hb, hc]
    exact congrArg some hnudged.mailbox

theorem nudgedAll (h : Nudged strayed b c) : NudgedAll strayed b.mailboxes c.mailboxes := by
  cases h
  assumption

theorem driver_eq (h : Nudged strayed b c) : c.driver = b.driver := by
  cases h
  rfl

/-- More mailboxes may be strayed to than are. -/
theorem mono (h : Nudged strayed b c) (hmore : ∀ n, strayed n → strayed' n) :
    Nudged strayed' b c := by
  cases h with
  | of hmailboxes hsession =>
    refine .of (hmailboxes.mono hmore) ?_
    generalize b.session = before at hsession ⊢
    cases hsession with
    | none => exact .none
    | some hnudged =>
      refine .some ⟨hnudged.mailbox, hnudged.alive, hnudged.view, fun hquiet => hnudged.same ?_⟩
      exact fun hstrayed => hquiet (hmore _ hstrayed)

/-- No mailbox is strayed to that has not been made yet. -/
theorem restrict (h : Nudged strayed b c) (hb : b.session = none) :
    Nudged (fun n => strayed n ∧ n < b.mailboxes.length) b c := by
  cases h with
  | of hmailboxes hsession =>
    refine .of hmailboxes.restrict ?_
    rw [hb] at hsession ⊢
    cases hsession
    exact .none

theorem note (h : Nudged strayed b c) (contact : Contact) :
    Nudged strayed (b.note contact) (c.note contact) := by
  cases h with
  | of hmailboxes hsession => exact .of hmailboxes hsession

/-- **A signal is posted** to both bridges. -/
theorem posted (h : Nudged strayed b c) (hb : b.Furnished config) (number : Nat) (sig : Signal) :
    Nudged strayed (b.posted number sig) (c.posted number sig) := by
  cases h with
  | of hmailboxes hsession => exact .of (hmailboxes.postTo hb.free number sig) hsession

/-- **A stray request is posted** to the second bridge. -/
theorem request (h : Nudged strayed b c) (hb : b.Furnished config) {number : Nat}
    (hnumber : strayed number) : Nudged strayed b (c.posted number .disable) := by
  cases h with
  | of hmailboxes hsession => exact .of (hmailboxes.stray hb.free hnumber) hsession

theorem discover (h : Nudged strayed b c) (s : Surroundings δ σ) :
    Nudged strayed (b.discover s).1 (c.discover s).1 ∧ (c.discover s).2 = (b.discover s).2 := by
  have hdriver := h.driver_eq
  cases hd : b.driver with
  | some d =>
    have hfound : b.discover s = (b, some d) := by rw [Bridge.discover, hd]
    have hfound' : c.discover s = (c, some d) := by rw [Bridge.discover, hdriver, hd]
    rw [hfound, hfound']
    exact ⟨h, rfl⟩
  | none =>
    rw [discover_of_none hd, discover_of_none (hdriver.trans hd)]
    cases h with
    | of hmailboxes hsession => exact ⟨.of hmailboxes hsession, rfl⟩

end Nudged

section Threads

variable [Hardware δ] {s : Surroundings δ σ} {strayed : Nat → Prop} {config : ValidConfig}
  {b c d : Bridge δ σ} {session session' : Session}

namespace Nudged

theorem outlet_eq (h : Nudged strayed b c) : c.outlet = b.outlet := by
  rw [outlet, outlet, h.driver_eq]

omit [Hardware δ] in
/-- What both event threads leave behind, if stray requests were among what they took. -/
theorem left (h : Nudged strayed b c) (hb : b.Furnished config)
    (hnudged : session.Nudged strayed session') (hstrayed : strayed session.mailbox)
    {l l' : Loop (Hall σ)} (hl : Loop.Nudged l l')
    (hfree : l.mailbox.Free config.messageCapacity) (alive : Bool) :
    Nudged strayed (b.left session l alive) (c.left session' l' alive) := by
  obtain ⟨x, hx⟩ := hl.mailbox
  have hfree' := free_set hb.free session.mailbox hfree
  cases h with
  | of hmailboxes hsession =>
    rw [Bridge.left, Bridge.left, hl.state, hx, hnudged.mailbox]
    refine .of ((hmailboxes.set l.mailbox (absurd hstrayed)).reportAll hfree' _) (.some ?_)
    exact ⟨rfl, rfl, hl.view, absurd hstrayed⟩

/-- An event thread that nobody strays to does the same in both bridges. -/
theorem letThreadRun (h : Nudged strayed b c) (hb : b.Furnished config)
    (hquiet : ¬strayed session.mailbox) (enabled : Bool) (limit : Nat) :
    Nudged strayed (b.letThreadRun s enabled limit session).1
        (c.letThreadRun s enabled limit session).1 ∧
      (c.letThreadRun s enabled limit session).2 = (b.letThreadRun s enabled limit session).2 := by
  have houtlet := h.outlet_eq
  cases h with
  | @of mailboxes _ hmailboxes hsession =>
    have hmailbox := hmailboxes.getElem?_eq hquiet
    rw [Bridge.letThreadRun, Bridge.letThreadRun, houtlet]
    dsimp only
    rw [hmailbox]
    split
    · next m _ hm =>
      have hleft := Loop.free_run (Hall.handle s b.outlet session.mailbox)
        (l := { mailbox := m, consumer := session.consumer, enabled
                state := { audience := b.audience, engineOn := b.engineOn } })
        (hb.free m (List.mem_of_getElem? hm)) limit
      generalize Loop.run (Hall.handle s b.outlet session.mailbox) limit _ = answer at hleft ⊢
      obtain ⟨l, ending⟩ := answer
      have hset : NudgedAll strayed (b.mailboxes.set session.mailbox l.mailbox)
          (mailboxes.set session.mailbox l.mailbox) := by
        have hnudged := hmailboxes.set l.mailbox (x := {}) fun _ : ¬strayed session.mailbox => rfl
        rwa [Mailbox.nudged_default] at hnudged
      have hfree := free_set hb.free session.mailbox hleft
      exact ⟨.of (hset.reportAll hfree l.state.elsewhere) hsession, rfl⟩
    · exact ⟨.of hmailboxes hsession, rfl⟩

/-- Nobody strays to the session, if there is one. -/
theorem settle (h : Nudged strayed b c) (hb : b.Furnished config)
    (hquiet : ∀ number, b.current = some number → ¬strayed number) :
    Nudged strayed (b.settle s) (c.settle s) := by
  cases hsession : b.session with
  | none =>
    rw [Bridge.settle, Bridge.settle, hsession, h.session_of_none hsession]
    exact h
  | some session =>
    obtain ⟨session', hc, hnudged⟩ := h.session_of_some hsession
    have hquiet' : ¬strayed session.mailbox := hquiet _ (congrArg (Option.map _) hsession)
    obtain rfl := hnudged.same hquiet'
    obtain ⟨hran, hleft⟩ := h.letThreadRun (s := s) hb hquiet' true (s.patience + 1)
    rw [Bridge.settle, Bridge.settle, hsession, hc]
    dsimp only
    generalize b.letThreadRun s true (s.patience + 1) session' = answer at *
    generalize c.letThreadRun s true (s.patience + 1) session' = answer' at *
    obtain ⟨b', session₁⟩ := answer
    obtain ⟨c', session₂⟩ := answer'
    obtain rfl : session₂ = session₁ := hleft
    cases hran with
    | of hmailboxes _ => exact .of hmailboxes (.some ⟨rfl, rfl, rfl, fun _ => rfl⟩)

omit [Hardware δ] in
/-- The loops of the two event threads. -/
theorem exists_loops (h : Nudged strayed b c) (hnudged : session.Nudged strayed session')
    {m' : Mailbox} (hm' : c.mailboxes[session'.mailbox]? = some m') :
    ∃ m, b.mailboxes[session.mailbox]? = some m ∧
      Loop.Nudged (b.loop session m) (c.loop session' m') := by
  obtain ⟨x, hx, -⟩ := h.nudgedAll session.mailbox
  rw [hnudged.mailbox, hx] at hm'
  obtain ⟨m, hm, rfl⟩ := Option.map_eq_some_iff.mp hm'
  refine ⟨m, hm, ⟨x, rfl⟩, hnudged.view, rfl, ?_⟩
  cases h
  rfl

/-- **The event thread works among stray requests** in the second bridge, and by itself in the
first. -/
theorem works_amid (h : Nudged strayed b c) (hb : b.Furnished config)
    (hrest : (b.settle s).AtRest) (hsession : b.session = some session)
    (hnudged : session.Nudged strayed session') (hstrayed : strayed session.mailbox)
    {m' : Mailbox} (hm' : c.mailboxes[session'.mailbox]? = some m')
    {h' : Handler (Hall σ) Crash} (hbeset : Beset (Hall.handle s c.outlet session'.mailbox) h')
    {interludes : List (List Act)}
    (hstrays : ∀ interlude ∈ interludes, ∀ a ∈ interlude, a = .post .disable)
    {l : Loop (Hall σ)} {ending : RunEnd Crash}
    (hrun : (c.loop session' m').runAmid h' interludes = (l, ending))
    (hfinished : ending ≠ .unfinished) :
    Nudged strayed (b.settle s) (c.left session' l ending.stays) := by
  obtain ⟨m, hm, hloops⟩ := h.exists_loops hnudged hm'
  -- The first thread comes to rest by itself, so the second does, whatever has come in.
  obtain ⟨hsettles, hsettle⟩ := settles_of_rest hb hsession hm hrest
  rw [hnudged.mailbox, h.outlet_eq] at hbeset
  obtain ⟨hl, l₁, hwaits⟩ := hloops.runAmid hsettles
    (Hall.steady_handle s b.outlet session.mailbox) hbeset hstrays
    fun l₁ hunfinished => hfinished (congrArg Prod.snd (hrun.symm.trans hunfinished))
  rw [hrun] at hl hwaits
  obtain rfl : ending = .waiting := congrArg Prod.snd hwaits
  have hleft := Loop.free_run (Hall.handle s b.outlet session.mailbox)
    (l := b.loop session m) (hb.free m (List.mem_of_getElem? hm)) (s.patience + 1)
  rw [hsettle]
  exact h.left hb hnudged hstrayed hl hleft true

/-- **Stray requests do not keep the event thread busy.** However they come in between its attempts,
it comes to rest. -/
theorem exists_works_amid (h : Nudged strayed b c) (hb : b.Furnished config)
    (hrest : (b.settle s).AtRest) (hsession : b.session = some session)
    (hc : c.session = some session') (hnudged : session.Nudged strayed session')
    (hstrayed : strayed session'.mailbox) {m' : Mailbox}
    (hm' : c.mailboxes[session'.mailbox]? = some m') {interludes : List (List Act)}
    (hstrays : ∀ interlude ∈ interludes, ∀ a ∈ interlude, a = .post .disable) :
    ∃ n l, (c.loop session' m').runAmid (Hall.handle s c.outlet session'.mailbox)
        (interludes ++ List.replicate n []) = (l, .waiting) ∧
      Works s strayed c (c.left session' l true) := by
  obtain ⟨m, hm, hloops⟩ := h.exists_loops hnudged hm'
  obtain ⟨hsettles, -⟩ := settles_of_rest hb hsession hm hrest
  obtain ⟨halive, -⟩ := alive_of_settle hsession hrest
  have hbeset := beset_handle s b.outlet session.mailbox
  obtain ⟨n, l, hrun⟩ := hloops.exists_runAmid_waits hsettles
    (Hall.steady_handle s b.outlet session.mailbox) hbeset hstrays
  rw [← h.outlet_eq, ← hnudged.mailbox] at hrun hbeset
  have hall : ∀ interlude ∈ interludes ++ List.replicate n [],
      ∀ a ∈ interlude, a = .post .disable := by
    intro interlude hmem a ha
    rcases List.mem_append.mp hmem with hmem | hquiet
    · exact hstrays interlude hmem a ha
    · obtain rfl := List.eq_of_mem_replicate hquiet
      cases ha
  exact ⟨n, l, hrun,
    .amid hc (hnudged.alive.trans halive) hm' hstrayed hbeset hall hrun nofun⟩

/-- **The event thread works**, in the second bridge perhaps among stray requests. -/
theorem works (h : Nudged strayed b c) (hb : b.Furnished config) (hrest : (b.settle s).AtRest)
    (hworks : Works s strayed c d) : Nudged strayed (b.settle s) d := by
  by_cases hquiet : ∀ number, b.current = some number → ¬strayed number
  · cases hworks with
    | alone _ => exact h.settle hb hquiet
    | @amid session' _ _ _ _ _ hsession' _ _ hstrayed =>
      have hcurrent : c.current = some session'.mailbox := congrArg (Option.map _) hsession'
      exact absurd hstrayed (hquiet _ (h.current_eq ▸ hcurrent))
  · obtain ⟨number, hcurrent, hstrayed⟩ : ∃ number, b.current = some number ∧ strayed number := by
      simpa using hquiet
    obtain ⟨session, hsession, rfl⟩ := Option.map_eq_some_iff.mp hcurrent
    obtain ⟨session', hsession', hnudged⟩ := h.session_of_some hsession
    -- The first thread comes to rest, so neither of them is gone.
    obtain ⟨halive, -⟩ := alive_of_settle hsession hrest
    cases hworks with
    | alone halone =>
      have hgone := halone session' hsession' (hnudged.mailbox ▸ hstrayed)
      rw [hnudged.alive, halive] at hgone
      cases hgone
    | amid hsession'' _ hmailbox _ hbeset hstrays hrun hfinished =>
      obtain rfl := Option.some.inj (hsession'.symm.trans hsession'')
      exact h.works_amid hb hrest hsession hnudged hstrayed hmailbox hbeset hstrays hrun hfinished

/-- The event thread of the second bridge comes to rest if that of the first does. -/
theorem exists_works (h : Nudged strayed b c) (hb : b.Furnished config)
    (hrest : (b.settle s).AtRest) : ∃ d, Works s strayed c d := by
  by_cases halone : ∀ session, c.session = some session → strayed session.mailbox →
      session.alive = false
  · exact ⟨_, .alone halone⟩
  · obtain ⟨session', hc, hstrayed⟩ :
        ∃ session', c.session = some session' ∧ strayed session'.mailbox := by
      simp only [Classical.not_forall] at halone
      obtain ⟨session', hc, hstrayed, -⟩ := halone
      exact ⟨session', hc, hstrayed⟩
    cases hsession : b.session with
    | none => exact absurd ((h.session_of_none hsession).symm.trans hc) nofun
    | some session =>
      obtain ⟨session₁, hc₁, hnudged⟩ := h.session_of_some hsession
      obtain rfl := Option.some.inj (hc.symm.trans hc₁)
      obtain ⟨-, m, hm⟩ := alive_of_settle hsession hrest
      obtain ⟨x, hx, -⟩ := h.nudgedAll session.mailbox
      rw [hm, ← hnudged.mailbox] at hx
      have hnone : ∀ interlude ∈ ([] : List (List Act)), ∀ a ∈ interlude, a = .post .disable :=
        List.forall_mem_nil _
      obtain ⟨_, l, -, hworks⟩ :=
        h.exists_works_amid hb hrest hsession hc hnudged hstrayed hx hnone
      exact ⟨_, hworks⟩

/-- **Nothing else happens** to the first bridge, which is at rest. -/
theorem drifts (h : Nudged strayed b c) (hb : b.Furnished config) (hrest : b.AtRest)
    (hdrifts : Drifts s strayed c d) : Nudged strayed b d := by
  induction hdrifts with
  | refl => exact h
  | request _ _ hstrayed ih => exact ih.request hb hstrayed
  | works _ hworks ih =>
    have hsettle := hrest.settle_eq (s := s) hb
    exact hsettle ▸ ih.works hb (hsettle.symm ▸ hrest) hworks

/-- **Signals arrive** at both bridges, and each is dispatched before the next. -/
theorem arrives (h : Nudged strayed b c) (hb : b.Furnished config)
    {postings : List (Nat × Signal)} (htakes : TakesPromptly s postings b)
    (harrives : Arrives s strayed postings c d) :
    Nudged strayed (b.receiveAll s postings) d ∧ (b.receiveAll s postings).AtRest := by
  induction harrives generalizing b with
  | nil hdrifts => exact ⟨h.drifts hb htakes hdrifts, htakes⟩
  | @cons p postings _ _ _ _ hdrifts hworks _ ih =>
    obtain ⟨hrest, htakes⟩ := htakes
    have hposted := (h.drifts hb hrest hdrifts).posted hb p.1 p.2
    have hreceive := hrest.receive_eq (s := s) hb p.1 p.2
    have hnext := hposted.works (hb.posted p.1 p.2) (hreceive ▸ htakes.atRest) hworks
    rw [← hreceive] at hnext
    exact ih hnext (hb.receive s p.1 p.2) htakes

/-- Signals that arrive at the first bridge may arrive at the second. -/
theorem exists_arrives (h : Nudged strayed b c) (hb : b.Furnished config)
    {postings : List (Nat × Signal)} (htakes : TakesPromptly s postings b) :
    ∃ d, Arrives s strayed postings c d := by
  induction postings generalizing b c with
  | nil => exact ⟨c, .nil .refl⟩
  | cons p postings ih =>
    obtain ⟨hrest, htakes⟩ := htakes
    have hposted := h.posted hb p.1 p.2
    have hreceive := hrest.receive_eq (s := s) hb p.1 p.2
    have hrest' : ((b.posted p.1 p.2).settle s).AtRest := hreceive ▸ htakes.atRest
    obtain ⟨d, hworks⟩ := hposted.exists_works (hb.posted p.1 p.2) hrest'
    have hnext := hposted.works (hb.posted p.1 p.2) hrest' hworks
    rw [← hreceive] at hnext
    obtain ⟨e, harrives⟩ := ih hnext (hb.receive s p.1 p.2) htakes
    exact ⟨e, .cons .refl hworks harrives⟩

end Nudged

/-! ### Closing and opening -/

namespace Nudged

/-- **A call of the driver** while there is no session. -/
theorem absorb (h : Nudged strayed b c) (hb : b.Furnished config) (hclosed : b.session = none)
    (e : Effects δ) : Nudged strayed (b.absorb s e) (c.absorb s e) := by
  rw [absorb_of_disabled hclosed, absorb_of_disabled (h.session_of_none hclosed)]
  cases h with
  | of hmailboxes hsession => exact .of (hmailboxes.reportAll hb.free e.reports) hsession

theorem cleanup (h : Nudged strayed b c) (hb : b.Furnished config) (hclosed : b.session = none) :
    Nudged strayed (b.cleanup s) (c.cleanup s) := by
  rw [Bridge.cleanup, Bridge.cleanup, h.driver_eq]
  cases b.driver with
  | none => exact h
  | some d => exact (h.note .cleanup).absorb (hb.congr rfl rfl) hclosed _

/-- **Disabling.** -/
theorem disable (h : Nudged strayed b c) (hb : b.Furnished config) (hrest : b.AtRest)
    (overtaken : Bool) :
    Nudged strayed (b.disable s).1 (c.disableAmid s overtaken).1 ∧
      (c.disableAmid s overtaken).2 = (b.disable s).2 := by
  cases hsession : b.session with
  | none =>
    have hc := h.session_of_none hsession
    rw [disable_of_disabled hsession, disableAmid, hc]
    exact ⟨h, rfl⟩
  | some session =>
    obtain ⟨session', hc, hnudged⟩ := h.session_of_some hsession
    obtain ⟨halive, m, hm, hempty⟩ := hrest session hsession
    have hfree := hb.free m (List.mem_of_getElem? hm)
    obtain ⟨x, hx, hnone⟩ := h.nudgedAll session.mailbox
    rw [hm, Option.map_some, ← hnudged.mailbox] at hx
    have honly : ∀ k ∈ (m.nudged x).pending, k = .disable := fun k hk => by
      rw [Mailbox.mem_pending_nudged, hempty] at hk
      exact hk.elim (absurd · (PendingSet.not_mem_empty k)) fun hk => hk.2.symm
    -- The first thread can only find the request that is made now, the second also a stray one.
    obtain ⟨m₁, hplain, hm₁⟩ := disableAmid_eq (s := s) hsession halive hm hfree.waiting
      (by simp [hempty]) false
    obtain ⟨m₂, hamid, hm₂⟩ := disableAmid_eq (s := s) hc (hnudged.alive.trans halive) hx
      hfree.waiting honly overtaken
    obtain rfl : m₁ = m.served session .disable :=
      hm₁.resolve_right fun hfound => PendingSet.not_mem_empty _ (hempty ▸ hfound.1)
    obtain ⟨y, rfl, hsame⟩ := Mailbox.exists_closed_nudged hempty session session' hm₂
    have hserved : (m.served session .disable).Free config.messageCapacity :=
      ⟨(Mailbox.capacity_record m .disable).trans hfree.capacity,
        (Mailbox.waiting_record m .disable).trans hfree.waiting⟩
    have hclosed : Nudged strayed
        { b with
          session := none
          engineOn := false
          mailboxes := b.mailboxes.set session.mailbox (m.served session .disable) }
        { c with
          session := none
          engineOn := false
          mailboxes :=
            c.mailboxes.set session'.mailbox ((m.served session .disable).nudged y) } := by
      cases h with
      | of hmailboxes _ =>
        rw [hnudged.mailbox]
        exact .of (hmailboxes.set _ fun hquiet => hsame (hnone hquiet)) .none
    rw [← disableAmid_false, hplain, hamid]
    exact ⟨hclosed.cleanup ⟨hb.config_eq, free_set hb.free session.mailbox hserved⟩ rfl, rfl⟩

theorem openSession (h : Nudged strayed b c) (hb : b.Furnished config) (hclosed : b.session = none)
    {number : Nat} (hquiet : ¬strayed number) (mailbox : Mailbox) :
    Nudged strayed (b.openSession s number mailbox).1 (c.openSession s number mailbox).1 ∧
      (c.openSession s number mailbox).2 = (b.openSession s number mailbox).2 := by
  have hc := h.session_of_none hclosed
  obtain ⟨hconfig, hspawns⟩ : c.config = b.config ∧ c.spawns = b.spawns := by
    cases h
    exact ⟨rfl, rfl⟩
  have hspawned : Nudged strayed { b with spawns := b.spawns + 1 }
      { c with spawns := b.spawns + 1 } := by
    cases h with
    | of hmailboxes hsession => exact .of hmailboxes hsession
  by_cases hname : '\x00' ∈ b.config.eventThreadName.toList
  · have hname' : '\x00' ∈ c.config.eventThreadName.toList := hconfig ▸ hname
    rw [Bridge.openSession, Bridge.openSession, if_pos hname, if_pos hname']
    exact ⟨h, rfl⟩
  · have hname' : '\x00' ∉ c.config.eventThreadName.toList := hconfig ▸ hname
    rw [Bridge.openSession, Bridge.openSession, if_neg hname, if_neg hname', hspawns]
    dsimp only
    cases s.spawnFailure b.spawns with
    | some reason =>
      have hfurnished : ({ b with spawns := b.spawns + 1 } : Bridge δ σ).Furnished config :=
        hb.congr rfl rfl
      exact ⟨hspawned.cleanup hfurnished hclosed, rfl⟩
    | none =>
      let session : Session := { mailbox := number, consumer := .ofMailbox mailbox }
      have hopened : Nudged strayed
          { b with spawns := b.spawns + 1, session := some session }
          { c with spawns := b.spawns + 1, session := some session } := by
        cases h with
        | of hmailboxes _ => exact .of hmailboxes (.some ⟨rfl, rfl, rfl, fun _ => rfl⟩)
      have hfurnished :
          ({ b with spawns := b.spawns + 1, session := some session } : Bridge δ σ).Furnished
            config := hb.congr rfl rfl
      refine ⟨hopened.settle hfurnished fun n hn => ?_, rfl⟩
      obtain rfl := Option.some.inj hn
      exact hquiet

theorem setUp (h : Nudged strayed b c) (hb : b.Furnished config) (hclosed : b.session = none)
    {number : Nat} (hquiet : ¬strayed number) (mailbox : Mailbox) (d : δ) :
    Nudged strayed (b.setUp s number mailbox d).1 (c.setUp s number mailbox d).1 ∧
      (c.setUp s number mailbox d).2 = (b.setUp s number mailbox d).2 := by
  have hcalled : Nudged strayed (b.callInit s number mailbox d) (c.callInit s number mailbox d) :=
    (h.note _).absorb (hb.congr rfl rfl) hclosed _
  have hfurnished : (b.callInit s number mailbox d).Furnished config := hb.call s _ _
  have hclosed' : (b.callInit s number mailbox d).session = none :=
    (idles_absorb (b := b.note _) hclosed _).closed
  cases houtcome : outcome .initializationFailed
      (Hardware.init (mailbox.reporter number) d).result with
  | error e =>
    rw [setUp_of_error houtcome, setUp_of_error houtcome]
    exact ⟨hcalled, rfl⟩
  | ok _ =>
    rw [setUp_of_ok houtcome, setUp_of_ok houtcome]
    exact hcalled.openSession hfurnished hclosed' hquiet mailbox

/-- **Enabling.** -/
theorem enable (h : Nudged strayed b c) (hb : b.Furnished config) :
    Nudged strayed (b.enable s).1 (c.enable s).1 ∧ (c.enable s).2 = (b.enable s).2 := by
  have hsame := h.isEnabled_eq
  cases hopen : b.isEnabled with
  | true =>
    rw [enable_of_enabled hopen, enable_of_enabled (hsame.trans hopen)]
    exact ⟨h, rfl⟩
  | false =>
    have hclosed : b.session = none := isEnabled_eq_false_iff.mp hopen
    -- Nobody can have strayed to the mailbox that is made now.
    have hrestricted := h.restrict hclosed
    have hquiet : ¬(strayed b.mailboxes.length ∧ b.mailboxes.length < b.mailboxes.length) :=
      fun hstrayed => Nat.lt_irrefl _ hstrayed.2
    have hmore (n : Nat) (hn : strayed n ∧ n < b.mailboxes.length) : strayed n := hn.1
    have hlength : c.mailboxes.length = b.mailboxes.length := h.nudgedAll.length_eq
    have hnext : c.nextMailbox = b.nextMailbox := by
      cases h
      rfl
    have hadded : Nudged (fun n => strayed n ∧ n < b.mailboxes.length) b.addMailbox
        c.addMailbox := by
      rw [addMailbox, addMailbox, hnext]
      cases hrestricted with
      | of hmailboxes hsession => exact .of (hmailboxes.concat b.nextMailbox) hsession
    obtain ⟨hfound, hdriver⟩ := hadded.discover s
    have hfurnished := hb.addMailbox.discover s
    have hidles : b.addMailbox.Idles (b.addMailbox.discover s).1 := idles_discover hclosed
    cases hdiscover : b.addMailbox.discover s with
    | mk b' driver =>
      cases hdiscover' : c.addMailbox.discover s with
      | mk c' driver' =>
        rw [hdiscover, hdiscover'] at hfound hdriver
        rw [hdiscover] at hfurnished hidles
        obtain rfl : driver' = driver := hdriver
        cases driver' with
        | none =>
          rw [enable_of_miss hopen hdiscover, enable_of_miss (hsame.trans hopen) hdiscover']
          exact ⟨hfound.mono hmore, rfl⟩
        | some d =>
          rw [enable_of_hit hopen hdiscover, enable_of_hit (hsame.trans hopen) hdiscover', hlength,
            hnext]
          obtain ⟨hopened, hanswer⟩ :=
            hfound.setUp (s := s) hfurnished hidles.closed hquiet b.nextMailbox d
          exact ⟨hopened.mono hmore, hanswer⟩

end Nudged

end Threads

end Bridge

end SerialBridge
