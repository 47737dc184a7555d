import SerialBridge.Proofs.Bridge.Succession
import SerialBridge.Proofs.Dispatch.Projection

/-!
# Bridges with a hushed driver

A driver is `Hushed` if it is kept from using any reporter but the one that it got last, and loses
that one when it is told to clean up. What it then does not report would have gone to mailboxes that
nobody watches.

`Bridge.Mirrors` compares a bridge with one whose driver is hushed: they differ in what is in
mailboxes that are not watched, and in nothing else. It is kept by what both bridges do
(`Bridge.Mirrors.receive`, `Bridge.Mirrors.absorb`) and by what only the first does
(`Bridge.Mirrors.receive_unwatched`).
-/

namespace SerialBridge

/-! ### Hushed drivers -/

/-- A driver that is kept from using any reporter but the one that it got last. -/
structure Hushed (δ : Type) where
  /-- The driver. -/
  driver : δ
  /-- The mailbox of the reporter that it got last, until it has cleaned up. -/
  latest : Option Nat := none

variable {δ σ : Type}

/-- What a call leaves behind, without the reports that are for another mailbox. -/
def Effects.hushed (latest : Option Nat) (e : Effects δ) : Effects (Hushed δ) where
  driver := ⟨e.driver, latest⟩
  reports := e.reports.filter fun r => latest == some r.1.mailbox

/-- What a call that may be refused leaves behind, without the reports that are for another
mailbox. -/
def Reply.hushed (latest : Option Nat) (r : Reply δ) : Reply (Hushed δ) where
  toEffects := r.toEffects.hushed latest
  result := r.result

instance [Hardware δ] : Hardware (Hushed δ) where
  init r d := (Hardware.init r d.driver).hushed (some r.mailbox)
  start link d := (Hardware.start link d.driver).hushed d.latest
  stop d := (Hardware.stop d.driver).hushed d.latest
  send bytes d := (Hardware.send bytes d.driver).hushed d.latest
  cleanup d := { driver := ⟨(Hardware.cleanup d.driver).driver, none⟩ }
  outlet d := (Hardware.outlet d.driver).filter fun r => d.latest == some r.mailbox

/-- The same surroundings, with every driver hushed. -/
def Surroundings.hushed (s : Surroundings δ σ) : Surroundings (Hushed δ) σ where
  discover n := (s.discover n).map (⟨·, none⟩)
  spawnFailure := s.spawnFailure
  behaviour := s.behaviour
  nesting := s.nesting
  patience := s.patience

/-! ### One mailbox among many -/

/-- What is posted to a mailbox depends on that mailbox only. -/
theorem getElem?_postTo_congr {mailboxes mailboxes' : List Mailbox} {number : Nat}
    (h : mailboxes[number]? = mailboxes'[number]?) (number' : Nat) (sig : Signal) :
    (postTo mailboxes number' sig)[number]? = (postTo mailboxes' number' sig)[number]? := by
  simp only [postTo, List.getElem?_modify, h]

/-- Of all reports, a mailbox gets those that are for it. -/
theorem getElem?_reportAll_filter {mailboxes mailboxes' : List Mailbox} {number : Nat}
    (h : mailboxes'[number]? = mailboxes[number]?) (reports : List (Reporter × Report)) :
    (reportAll mailboxes' (reports.filter fun r => r.1.mailbox == number))[number]?
      = (reportAll mailboxes reports)[number]? := by
  induction reports generalizing mailboxes mailboxes' with
  | nil => exact h
  | cons r reports ih =>
    by_cases hr : r.1.mailbox = number
    · rw [List.filter_cons_of_pos (by simp [hr])]
      exact ih (getElem?_postTo_congr h r.1.mailbox r.2.signal)
    · rw [List.filter_cons_of_neg (by simp [hr])]
      exact ih (h.trans (getElem?_postTo_of_ne hr).symm)

namespace Hall

/-- The hall, without the reports that are for other mailboxes. -/
def hushed (own : Nat) (h : Hall σ) : Hall σ :=
  { h with elsewhere := h.elsewhere.filter fun r => r.1.mailbox == own }

/-- The event thread does the same if the hardware may only report to the thread's mailbox. -/
theorem projects_handle (s : Surroundings δ σ) (outlet : Option Reporter) (own : Nat) :
    Projects (hushed own) (handle s outlet own)
      (handle s.hushed (outlet.filter fun r => some own == some r.mailbox) own) := by
  have hmade (effects : List Report) :
      ((outlet.filter fun r => some own == some r.mailbox).elim [] fun r =>
          effects.map fun report => (r, report))
        = (outlet.elim [] fun r => effects.map fun report => (r, report)).filter fun r =>
          r.1.mailbox == own := by
    cases outlet with
    | none => rfl
    | some r =>
      by_cases hr : r.mailbox = own
      · simp [Option.filter, hr, List.filter_map, Function.comp_def]
      · simp [Option.filter, hr, Ne.symm hr]
  have htell (note : Note) (h : Hall σ) :
      (h.hushed own).tell s.hushed (outlet.filter fun r => some own == some r.mailbox) own note
        = (h.tell s outlet own note).map (hushed own) := by
    rw [tell, tell, show (h.hushed own).audience = h.audience from rfl,
      show s.hushed.behaviour = s.behaviour from rfl, show s.hushed.nesting = s.nesting from rfl]
    generalize h.audience.notify s.behaviour (s.nesting + 1) note = told
    obtain ⟨a, failure⟩ := told
    dsimp only
    rw [hmade]
    -- What is made for the thread's own mailbox is an act, and what is made for others is hushed.
    generalize (outlet.elim [] fun r => a.effects.map fun report => (r, report)) = made
    simp [Reaction.map, hushed, List.filter_filter, Bool.and_comm]
  intro scene d h
  cases d with
  | status code =>
    rw [handle, handle]
    split
    · next t _ => exact htell (.status t) { h with engineOn := t.engineOn }
    · rfl
  | message snapshot =>
    rw [handle, handle, show (h.hushed own).audience = h.audience from rfl]
    split
    · rfl
    · exact htell _ _
  | disable => rfl

end Hall

/-! ### Mirrored bridges -/

namespace Bridge

/-- The same bridge with a hushed driver and other mailboxes. -/
def hushed (latest : Option Nat) (mailboxes : List Mailbox) (b : Bridge δ σ) :
    Bridge (Hushed δ) σ where
  config := b.config
  audience := b.audience
  driver := b.driver.map (⟨·, latest⟩)
  engineOn := b.engineOn
  session := b.session
  mailboxes := mailboxes
  discoveries := b.discoveries
  spawns := b.spawns
  contacts := b.contacts

/-- The second bridge **mirrors** the first: it is the same with a hushed driver, except for what is
in mailboxes that are not watched. If there is a session, its mailbox is watched, and the driver got
its latest reporter for it. -/
inductive Mirrors (watched latest : Option Nat) (b : Bridge δ σ) : Bridge (Hushed δ) σ → Prop where
  /-- There are as many mailboxes, and one that is watched is the same. -/
  | of {mailboxes : List Mailbox} (length_eq : mailboxes.length = b.mailboxes.length)
    (agrees : ∀ n, watched = some n → mailboxes[n]? = b.mailboxes[n]?)
    (own : ∀ session, b.session = some session →
      watched = some session.mailbox ∧ latest = some session.mailbox) :
    Mirrors watched latest b (b.hushed latest mailboxes)

variable [Hardware δ] {s : Surroundings δ σ} {b : Bridge δ σ} {c : Bridge (Hushed δ) σ}
  {watched latest : Option Nat}

theorem outlet_hushed (latest : Option Nat) (mailboxes : List Mailbox) (b : Bridge δ σ) :
    (b.hushed latest mailboxes).outlet = b.outlet.filter fun r => latest == some r.mailbox := by
  rw [outlet, outlet]
  change (b.driver.map _).bind _ = _
  cases b.driver <;> rfl

namespace Mirrors

omit [Hardware δ] in
theorem session_eq (h : Mirrors watched latest b c) : c.session = b.session := by
  cases h
  rfl

omit [Hardware δ] in
theorem driver_eq (h : Mirrors watched latest b c) : c.driver = b.driver.map (⟨·, latest⟩) := by
  cases h
  rfl

omit [Hardware δ] in
theorem config_eq (h : Mirrors watched latest b c) : c.config = b.config := by
  cases h
  rfl

omit [Hardware δ] in
/-- A dealing that is noted of both bridges. -/
theorem note (h : Mirrors watched latest b c) (contact : Contact) :
    Mirrors watched latest (b.note contact) (c.note contact) := by
  cases h with
  | of hlength hagrees hown => exact .of hlength hagrees hown

/-- An event thread that runs on the mailbox that is watched does the same in both bridges. -/
theorem letThreadRun {session : Session}
    (h : Mirrors (some session.mailbox) (some session.mailbox) b c) (enabled : Bool) (limit : Nat) :
    Mirrors (some session.mailbox) (some session.mailbox) (b.letThreadRun s enabled limit session).1
        (c.letThreadRun s.hushed enabled limit session).1 ∧
      (c.letThreadRun s.hushed enabled limit session).2
        = (b.letThreadRun s enabled limit session).2 := by
  cases h with
  | @of mailboxes hlength hagrees hown =>
    have hmailbox : (b.hushed (some session.mailbox) mailboxes).mailboxes[session.mailbox]?
        = b.mailboxes[session.mailbox]? := hagrees _ rfl
    rw [Bridge.letThreadRun, Bridge.letThreadRun, hmailbox, outlet_hushed]
    cases session.alive with
    | false => exact ⟨.of hlength hagrees hown, rfl⟩
    | true =>
      cases hsome : b.mailboxes[session.mailbox]? with
      | none => exact ⟨.of hlength hagrees hown, rfl⟩
      | some m =>
        have hrun : Loop.run (Hall.handle s.hushed (b.outlet.filter fun r =>
              some session.mailbox == some r.mailbox) session.mailbox) limit
            { mailbox := m, consumer := session.consumer, enabled
              state :=
                { audience := (b.hushed (some session.mailbox) mailboxes).audience
                  engineOn := (b.hushed (some session.mailbox) mailboxes).engineOn } } = _ :=
          Loop.run_map (Hall.projects_handle s b.outlet session.mailbox) limit
            { mailbox := m, consumer := session.consumer, enabled
              state := { audience := b.audience, engineOn := b.engineOn } }
        dsimp only
        rw [hrun]
        generalize Loop.run (Hall.handle s b.outlet session.mailbox) limit _ = answer
        obtain ⟨l, ending⟩ := answer
        refine ⟨.of ?_ (fun n hn => ?_) hown, rfl⟩
        · rw [length_reportAll, length_reportAll, List.length_set, List.length_set]
          exact hlength
        · -- Only the session's mailbox is watched, and it is left as the thread leaves it.
          obtain rfl : session.mailbox = n := Option.some.inj hn
          have hlt : session.mailbox < b.mailboxes.length := (List.getElem?_eq_some_iff.mp hsome).1
          have hlt' : session.mailbox < mailboxes.length := hlength ▸ hlt
          have hset : (mailboxes.set session.mailbox l.mailbox)[session.mailbox]?
              = (b.mailboxes.set session.mailbox l.mailbox)[session.mailbox]? :=
            (List.getElem?_set_self hlt').trans (List.getElem?_set_self hlt).symm
          exact getElem?_reportAll_filter hset l.state.elsewhere

/-- The event threads of both bridges dispatch the same. -/
theorem settle (h : Mirrors watched latest b c) :
    Mirrors watched latest (b.settle s) (c.settle s.hushed) := by
  have hsame := h.session_eq
  cases hsession : b.session with
  | none => rwa [Bridge.settle, Bridge.settle, hsame, hsession]
  | some session =>
    obtain ⟨rfl, rfl⟩ : watched = some session.mailbox ∧ latest = some session.mailbox := by
      cases h with
      | of _ _ hown => exact hown session hsession
    obtain ⟨hran, hleft⟩ := h.letThreadRun (s := s) true (s.patience + 1)
    rw [Bridge.settle, Bridge.settle, hsame, hsession]
    dsimp only
    rw [show s.hushed.patience = s.patience from rfl]
    have hmailbox := mailbox_letThreadRun s true (s.patience + 1) session b
    generalize b.letThreadRun s true (s.patience + 1) session = answer at *
    generalize c.letThreadRun s.hushed true (s.patience + 1) session = answer' at *
    obtain ⟨b', session'⟩ := answer
    obtain ⟨c', session''⟩ := answer'
    obtain rfl : session'' = session' := hleft
    cases hran with
    | of hlength hagrees hown =>
      refine .of hlength hagrees fun session₁ hsession₁ => ?_
      obtain rfl := Option.some.inj hsession₁
      exact ⟨congrArg some hmailbox.symm, congrArg some hmailbox.symm⟩

/-- **A signal that arrives at both bridges.** -/
theorem receive (h : Mirrors watched latest b c) (number : Nat) (sig : Signal) :
    Mirrors watched latest (b.receive s number sig) (c.receive s.hushed number sig) := by
  have hreaches : c.session.any (·.mailbox == number) = b.session.any (·.mailbox == number) := by
    rw [h.session_eq]
  have hposted : Mirrors watched latest { b with mailboxes := postTo b.mailboxes number sig }
      { c with mailboxes := postTo c.mailboxes number sig } := by
    cases h with
    | @of mailboxes hlength hagrees hown =>
      have hlength' :
          (postTo mailboxes number sig).length = (postTo b.mailboxes number sig).length := by
        rw [length_postTo, length_postTo, hlength]
      exact .of hlength' (fun n hn => getElem?_postTo_congr (hagrees n hn) number sig) hown
  rw [Bridge.receive, Bridge.receive]
  dsimp only
  rw [hreaches]
  split
  · exact hposted.settle
  · exact hposted

/-- **A signal that arrives at the first bridge only**, at a mailbox that is not watched. -/
theorem receive_unwatched (h : Mirrors watched latest b c) {number : Nat}
    (hnumber : watched ≠ some number) (sig : Signal) :
    Mirrors watched latest (b.receive s number sig) c := by
  cases h with
  | @of mailboxes hlength hagrees hown =>
    have hcurrent : b.current ≠ some number := by
      intro hcurrent
      obtain ⟨session, hsession, rfl⟩ := Option.map_eq_some_iff.mp hcurrent
      exact hnumber (hown session hsession).1
    rw [receive_of_elsewhere (any_eq_false_of_current_ne hcurrent)]
    refine .of (hlength.trans (length_postTo _ _ _).symm) (fun n hn => ?_) hown
    have hne : number ≠ n := by
      rintro rfl
      exact hnumber hn
    exact (hagrees n hn).trans (getElem?_postTo_of_ne hne).symm

/-- **A call of the driver.** What the first driver reports beyond what the second does arrives at
mailboxes that are not watched. -/
theorem absorb (h : Mirrors watched latest b c) {latest' : Option Nat}
    (hlatest : b.session ≠ none → latest' = latest) (e : Effects δ) {e' : Effects (Hushed δ)}
    (hdriver : e'.driver = ⟨e.driver, latest'⟩)
    (hreports : e'.reports = e.reports.filter fun r => watched == some r.1.mailbox) :
    Mirrors watched latest' (b.absorb s e) (c.absorb s.hushed e') := by
  obtain ⟨driver, reports⟩ := e
  obtain ⟨driver', reports'⟩ := e'
  obtain rfl : driver' = ⟨driver, latest'⟩ := hdriver
  obtain rfl : reports' = _ := hreports
  have hbegun : Mirrors watched latest' { b with driver := some driver }
      { c with driver := some ⟨driver, latest'⟩ } := by
    cases h with
    | of hlength hagrees hown =>
      refine .of hlength hagrees fun session hsession => ?_
      have hopen : b.session ≠ none := Option.ne_none_iff_exists'.mpr ⟨session, hsession⟩
      exact ⟨(hown session hsession).1, (hlatest hopen).trans (hown session hsession).2⟩
  rw [Bridge.absorb, Bridge.absorb]
  dsimp only
  generalize { b with driver := some driver } = b' at hbegun ⊢
  generalize { c with driver := some (⟨driver, latest'⟩ : Hushed δ) } = c' at hbegun ⊢
  clear h hlatest
  -- The second bridge gets the reports that are for the mailbox that is watched.
  induction reports generalizing b' c' with
  | nil => exact hbegun
  | cons r reports ih =>
    by_cases hr : watched = some r.1.mailbox
    · rw [List.filter_cons_of_pos (by simp [hr])]
      exact ih _ _ (hbegun.receive r.1.mailbox r.2.signal)
    · rw [List.filter_cons_of_neg (by simp [hr])]
      exact ih _ _ (hbegun.receive_unwatched hr r.2.signal)

/-! #### Without a session -/

omit [Hardware δ] in
/-- Once there is no session, nothing need be watched. -/
theorem unwatch (h : Mirrors watched latest b c) (hb : b.session = none) :
    Mirrors none latest b c := by
  cases h with
  | of hlength _ _ =>
    refine .of hlength nofun fun session hsession => ?_
    rw [hb] at hsession
    cases hsession

/-- Nothing is heard of what the driver reports while it cleans up. -/
theorem cleanup (h : Mirrors watched latest b c) (hb : b.session = none) :
    ∃ latest', Mirrors none latest' (b.cleanup s) (c.cleanup s.hushed) := by
  have hunwatched := h.unwatch hb
  rw [Bridge.cleanup, Bridge.cleanup, h.driver_eq]
  cases b.driver with
  | none => exact ⟨latest, hunwatched⟩
  | some d =>
    refine ⟨none, (hunwatched.note .cleanup).absorb (absurd hb) (Hardware.cleanup d) rfl ?_⟩
    exact (List.filter_eq_nil_iff.mpr fun r _ => by simp).symm

omit [Hardware δ] in
/-- A mailbox that is made is watched from then on. -/
theorem addMailbox (h : Mirrors watched latest b c) (hb : b.session = none) :
    Mirrors (some b.mailboxes.length) latest b.addMailbox c.addMailbox := by
  cases h with
  | @of mailboxes hlength _ _ =>
    have hlength' : (mailboxes ++ [b.nextMailbox]).length = b.addMailbox.mailboxes.length := by
      simp [Bridge.addMailbox, hlength]
    refine .of hlength' (fun n hn => ?_) fun session hsession => ?_
    · obtain rfl := Option.some.inj hn
      have hnew : (mailboxes ++ [b.nextMailbox])[b.mailboxes.length]? = some b.nextMailbox := by
        rw [← hlength]
        exact List.getElem?_concat_length
      exact hnew.trans List.getElem?_concat_length.symm
    · rw [show b.addMailbox.session = none from hb] at hsession
      cases hsession

omit [Hardware δ] in
/-- Discovery finds the same for both bridges. A driver that was found just now has got no reporter
yet. -/
theorem discover (h : Mirrors watched latest b c) (hb : b.session ≠ none → b.driver ≠ none) :
    ∃ latest', Mirrors watched latest' (b.discover s).1 (c.discover s.hushed).1 ∧
      (c.discover s.hushed).2 = (b.discover s).2.map (⟨·, latest'⟩) ∧
      (b.driver ≠ none → latest' = latest) := by
  have hdriver := h.driver_eq
  cases hd : b.driver with
  | some d =>
    have hfound : b.discover s = (b, some d) := by rw [Bridge.discover, hd]
    have hfound' : c.discover s.hushed = (c, some ⟨d, latest⟩) := by
      rw [Bridge.discover, hdriver, hd]
      rfl
    rw [hfound, hfound']
    exact ⟨latest, h, rfl, fun _ => rfl⟩
  | none =>
    have hd' : c.driver = none := by rw [hdriver, hd]; rfl
    have hfound : s.hushed.discover c.discoveries
        = (s.discover b.discoveries).map (⟨·, none⟩) := by
      cases h
      rfl
    rw [discover_of_none hd, discover_of_none hd', hfound, Option.isSome_map]
    refine ⟨none, ?_, rfl, absurd rfl⟩
    cases h with
    | of hlength hagrees hown =>
      refine .of hlength hagrees fun session hsession => ?_
      have hopen : b.session ≠ none := Option.ne_none_iff_exists'.mpr ⟨session, hsession⟩
      exact absurd hd (hb hopen)

end Mirrors

end Bridge

end SerialBridge
