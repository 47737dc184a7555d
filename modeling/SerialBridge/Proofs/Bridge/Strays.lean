import SerialBridge.Proofs.Bridge.Nudged

/-!
# Stray disable requests do no harm

`Bridge.stray_requests_do_no_harm` compares a bridge whose run is prompt with one that is given
the same to do while stray requests come in, in any of the ways of `Bridge.RunsAmid`. Nothing can
be seen of the requests (`Bridge.Unharmed`), except that they were counted and that there were
drains for them.

An operation posts something, and once that has been dispatched it comes to its end. Both parts
keep bridges that differ in stray requests as they are (`Nudged.outset` and `Nudged.close`), so
whole runs do (`Nudged.runsAmid`). Such runs exist as long as the first bridge has a prompt one
(`Nudged.exists_runsAmid`).
-/

namespace SerialBridge

/-- The counters agree, except for disable requests and drains. -/
structure Tally.SameReports (t t' : Tally) : Prop where
  /-- As many status reports were received. -/
  statusReports : t'.statusReports = t.statusReports
  /-- As many message reports were received. -/
  messageReports : t'.messageReports = t.messageReports
  /-- As many reports were superseded. -/
  superseded : t'.superseded = t.superseded
  /-- As many messages were cut. -/
  truncated : t'.truncated = t.truncated

namespace Bridge

variable {δ σ : Type}

namespace Nudged

variable [Hardware δ] {s : Surroundings δ σ} {strayed : Nat → Prop} {config : ValidConfig}
  {b c d : Bridge δ σ}

/-! ### Operations -/

omit [Hardware δ] in
/-- **A call of the driver** begins. -/
theorem during (h : Nudged strayed b c) (contact : Contact) (e : Effects δ) :
    Nudged strayed (b.during contact e).1 (c.during contact e).1 := by
  cases h with
  | of hmailboxes hsession => exact .of hmailboxes hsession

/-- **A start**: the bridges post the same, and the driver answers the same. -/
theorem start (h : Nudged strayed b c) (hb : b.Furnished config) (link : Link) :
    Nudged strayed (b.duringStart s link).1 (c.duringStart s link).1 ∧
      (c.duringStart s link).2 = (b.duringStart s link).2 ∧
      (c.start s link).2 = (b.start s link).2 := by
  obtain ⟨hopened, hanswer⟩ := h.enable (s := s) hb
  rw [duringStart, duringStart, Bridge.start, Bridge.start]
  generalize b.enable s = opened at hopened hanswer ⊢
  generalize c.enable s = opened' at hopened hanswer ⊢
  obtain ⟨b', answer⟩ := opened
  obtain ⟨c', answer'⟩ := opened'
  obtain rfl : answer' = answer := hanswer
  replace hopened : Nudged strayed b' c' := hopened
  have hdriver := hopened.driver_eq
  cases answer' with
  | error e => exact ⟨hopened, rfl, rfl⟩
  | ok _ =>
    cases hd : b'.driver with
    | none =>
      simp only [hd, hdriver]
      exact ⟨hopened, trivial, trivial⟩
    | some d =>
      simp only [hd, hdriver]
      exact ⟨hopened.during _ _, rfl, trivial⟩

/-- **Writing**: the bridges post the same, and answer the same. -/
theorem send (h : Nudged strayed b c) (bytes : List UInt8) :
    Nudged strayed (b.duringSend bytes).1 (c.duringSend bytes).1 ∧
      (c.duringSend bytes).2 = (b.duringSend bytes).2 ∧
      (c.send s bytes).2 = (b.send s bytes).2 := by
  rw [duringSend, duringSend, Bridge.send, Bridge.send, h.isEnabled_eq, h.driver_eq]
  cases b.isEnabled with
  | false => exact ⟨h, rfl, rfl⟩
  | true =>
    cases b.driver with
    | none => exact ⟨h, rfl, rfl⟩
    | some d => exact ⟨h.during _ _, rfl, rfl⟩

/-- **What an occurrence posts** is the same. -/
theorem outset (h : Nudged strayed b c) (hb : b.Furnished config) (x : Occurrence) :
    Nudged strayed (b.outset s x).1 (c.outset s x).1 ∧ (c.outset s x).2 = (b.outset s x).2 := by
  cases x with
  | release => exact ⟨h, rfl⟩
  | stray number sig => exact ⟨h, rfl⟩
  | operation operation =>
    rw [Bridge.outset, Bridge.outset]
    cases operation with
    | start link =>
      obtain ⟨hbegun, hposts, -⟩ := h.start (s := s) hb link
      exact ⟨hbegun, hposts⟩
    | startConfigured =>
      have hconfig : c.config = b.config := by
        cases h
        rfl
      obtain ⟨hbegun, hposts, -⟩ := h.start (s := s) hb b.config.link
      rw [postings, postings, hconfig]
      exact ⟨hbegun, hposts⟩
    | send bytes =>
      obtain ⟨hbegun, hposts, -⟩ := h.send (s := s) bytes
      exact ⟨hbegun, hposts⟩
    | print text =>
      obtain ⟨hbegun, hposts, -⟩ := h.send (s := s) (Utf8.encode text)
      exact ⟨hbegun, hposts⟩
    | stop =>
      rw [postings, postings, h.isEnabled_eq, h.driver_eq]
      cases b.isEnabled with
      | false => exact ⟨h, rfl⟩
      | true =>
        cases b.driver with
        | none => exact ⟨h, rfl⟩
        | some d => exact ⟨h.during _ _, rfl⟩
    | interrupt report =>
      rw [postings, postings, h.outlet_eq]
      exact ⟨h, rfl⟩
    | _ => exact ⟨h, rfl⟩

/-- **What is left of a stop** is the same. -/
theorem conclude_stop {b' c' : Bridge δ σ} (h : Nudged strayed b c) (h' : Nudged strayed b' c')
    (hb' : b'.Furnished config) (hrest : b'.AtRest) (overtaken : Bool) :
    Nudged strayed (b.conclude s false b' .stop).1 (c.conclude s overtaken c' .stop).1 ∧
      (c.conclude s overtaken c' .stop).2 = (b.conclude s false b' .stop).2 := by
  have hsame := h.isEnabled_eq
  have hdriver := h.driver_eq
  rw [conclude, conclude, hsame, hdriver]
  cases hb : b.isEnabled with
  | false =>
    have hanswer : (c.stop s).2 = (b.stop s).2 := by
      rw [stop_of_disabled hb, stop_of_disabled (hsame.trans hb)]
    exact ⟨h', congrArg Answer.outcome hanswer⟩
  | true =>
    cases hd : b.driver with
    | none =>
      have hanswer : (c.stop s).2 = (b.stop s).2 := by
        rw [stop, stop, hsame, hdriver, hb, hd]
        rfl
      exact ⟨h', congrArg Answer.outcome hanswer⟩
    | some d =>
      obtain ⟨hclosed, hanswer⟩ := h'.disable (s := s) hb' hrest overtaken
      dsimp only
      split
      · exact ⟨h', rfl⟩
      · rw [disableAmid_false]
        exact ⟨hclosed, congrArg (Answer.outcome ∘ closingAnswer _) hanswer⟩

/-- **What is left of an operation** is the same. -/
theorem conclude {b' c' : Bridge δ σ} (h : Nudged strayed b c) (hb : b.Furnished config)
    (h' : Nudged strayed b' c') (hb' : b'.Furnished config) (hrest : b'.AtRest)
    (operation : Operation) (overtaken : Bool) :
    Nudged strayed (conclude s false b b' operation).1 (conclude s overtaken c c' operation).1 ∧
      (Bridge.conclude s overtaken c c' operation).2
        = (Bridge.conclude s false b b' operation).2 := by
  -- The driver's answer was settled when the operation began, which makes it a matter of `h`.
  cases operation with
  | isSupported =>
    obtain ⟨hfound, hdriver⟩ := h'.discover s
    exact ⟨hfound, congrArg (Answer.flag ∘ Option.isSome) hdriver⟩
  | enable =>
    obtain ⟨hopened, hanswer⟩ := h'.enable (s := s) hb'
    exact ⟨hopened, congrArg Answer.outcome hanswer⟩
  | disable =>
    obtain ⟨hclosed, hanswer⟩ := h'.disable (s := s) hb' hrest overtaken
    rw [Bridge.conclude, Bridge.conclude, disableAmid_false]
    exact ⟨hclosed, congrArg Answer.outcome hanswer⟩
  | start link =>
    obtain ⟨-, -, hanswer⟩ := h.start (s := s) hb link
    exact ⟨h', congrArg Answer.outcome hanswer⟩
  | startConfigured =>
    have hconfig : c.config = b.config := by
      cases h
      rfl
    obtain ⟨-, -, hanswer⟩ := h.start (s := s) hb b.config.link
    have hanswer' : (c.startConfigured s).2 = (b.startConfigured s).2 := by
      rw [startConfigured, startConfigured, hconfig]
      exact hanswer
    exact ⟨h', congrArg Answer.outcome hanswer'⟩
  | stop => exact h.conclude_stop h' hb' hrest overtaken
  | send bytes =>
    obtain ⟨-, -, hanswer⟩ := h.send (s := s) bytes
    exact ⟨h', congrArg Answer.outcome hanswer⟩
  | print text =>
    obtain ⟨-, -, hanswer⟩ := h.send (s := s) (Utf8.encode text)
    exact ⟨h', congrArg Answer.outcome hanswer⟩
  | addListener kind id =>
    cases h' with
    | of hmailboxes hsession => exact ⟨.of hmailboxes hsession, rfl⟩
  | removeListener kind id =>
    cases h' with
    | of hmailboxes hsession => exact ⟨.of hmailboxes hsession, rfl⟩
  | requestDisable control => exact ⟨h', rfl⟩
  | interrupt report => exact ⟨h', rfl⟩

/-- **What is left of an occurrence** is the same. -/
theorem close {b' c' : Bridge δ σ} (h : Nudged strayed b c) (hb : b.Furnished config)
    (h' : Nudged strayed b' c') (hb' : b'.Furnished config) (hrest : b'.AtRest) (x : Occurrence)
    (overtaken : Bool) :
    Nudged strayed (b.close s false b' x).1 (c.close s overtaken c' x).1 ∧
      (c.close s overtaken c' x).2 = (b.close s false b' x).2 := by
  cases x with
  | operation operation =>
    obtain ⟨hdone, hanswer⟩ := h.conclude (s := s) hb h' hb' hrest operation overtaken
    exact ⟨hdone, congrArg ([·]) hanswer⟩
  | release =>
    obtain ⟨hclosed, -⟩ := h'.disable (s := s) hb' hrest overtaken
    rw [Bridge.close, Bridge.close, disableAmid_false]
    exact ⟨hclosed, rfl⟩
  | stray number sig => exact ⟨h', rfl⟩

/-- **Two runs.** In the second, stray requests come in. -/
theorem runsAmid {occurrences : List Occurrence} {answers : List Answer} (h : Nudged strayed b c)
    (hb : b.Furnished config) (hprompt : Prompt s b occurrences)
    (hruns : RunsAmid s strayed c occurrences d answers) :
    Nudged strayed (b.occurAll s occurrences) d ∧ (b.occurAll s occurrences).AtRest ∧
      answers = b.answersTo s occurrences := by
  induction hruns generalizing b with
  | nil hdrifts => exact ⟨h.drifts hb hprompt hdrifts, hprompt, rfl⟩
  | @cons c c' c'' d x rest answers overtaken hdrifts harrives _ ih =>
    obtain ⟨hrest, htakes, hnext⟩ := hprompt
    have hdrifted := h.drifts hb hrest hdrifts
    obtain ⟨hbegun, hposts⟩ := hdrifted.outset (s := s) hb x
    rw [hposts] at harrives
    obtain ⟨harrived, hrest'⟩ := hbegun.arrives (hb.outset s x) htakes harrives
    obtain ⟨hdone, hanswers⟩ := hdrifted.close (s := s) hb harrived
      ((hb.outset s x).receiveAll s _) hrest' x overtaken
    obtain ⟨hoccur, hall⟩ := close_eq (s := s) b x
    rw [hoccur] at hdone
    obtain ⟨hlast, hstill, hothers⟩ := ih hdone (hb.occur s x) hnext
    exact ⟨hlast, hstill, by rw [hanswers, hothers, hall]⟩

/-- What the first bridge does promptly, the second can do. -/
theorem exists_runsAmid {occurrences : List Occurrence} (h : Nudged strayed b c)
    (hb : b.Furnished config) (hprompt : Prompt s b occurrences) :
    ∃ d answers, RunsAmid s strayed c occurrences d answers := by
  induction occurrences generalizing b c with
  | nil => exact ⟨c, [], .nil .refl⟩
  | cons x rest ih =>
    obtain ⟨-, htakes, hnext⟩ := hprompt
    obtain ⟨hbegun, hposts⟩ := h.outset (s := s) hb x
    obtain ⟨c', harrives⟩ := hbegun.exists_arrives (hb.outset s x) htakes
    obtain ⟨harrived, hrest⟩ := hbegun.arrives (hb.outset s x) htakes harrives
    obtain ⟨hdone, -⟩ := h.close (s := s) hb harrived ((hb.outset s x).receiveAll s _) hrest x false
    rw [(close_eq (s := s) b x).1] at hdone
    obtain ⟨d, answers, hruns⟩ := ih hdone (hb.occur s x) hnext
    rw [← hposts] at harrives
    exact ⟨d, _, .cons false .refl harrives hruns⟩

end Nudged

/-! ### What can be seen -/

/-- Nothing can be seen of stray requests on the second bridge, except that they were counted and
that there were drains for them. -/
structure Unharmed (strayed : Nat → Prop) (b c : Bridge δ σ) : Prop where
  /-- The same listeners are registered, remember the same and were called in the same way. -/
  audience : c.audience = b.audience
  /-- The bridge is enabled or is not. -/
  enabled : c.isEnabled = b.isEnabled
  /-- The engine's flag is the same. -/
  engineOn : c.engineOn = b.engineOn
  /-- The driver is the same. -/
  driver : c.driver = b.driver
  /-- The dealings with discovery and the driver were the same. -/
  contacts : c.contacts = b.contacts
  /-- The event thread is there as long as there is a session. -/
  alive : ∀ session, c.session = some session → session.alive = true
  /-- The counters of the session agree. -/
  tally : Option.Rel Tally.SameReports b.tally c.tally
  /-- All mailboxes, those of former sessions too, differ in what stray requests do to them. -/
  mailboxes : NudgedAll strayed b.mailboxes c.mailboxes
  /-- Where nobody strayed, nothing is different at all. -/
  untouched : ∀ n, ¬strayed n → c.mailboxes[n]? = b.mailboxes[n]?

theorem Nudged.unharmed {strayed : Nat → Prop} {b c : Bridge δ σ} (h : Nudged strayed b c)
    (hrest : b.AtRest) : b.Unharmed strayed c := by
  have hall := h.nudgedAll
  have htally : Option.Rel Tally.SameReports b.tally c.tally := by
    cases hsession : b.session with
    | none =>
      rw [tally, tally, hsession, h.session_of_none hsession]
      exact .none
    | some session =>
      obtain ⟨session', hc, hnudged⟩ := h.session_of_some hsession
      obtain ⟨-, m, hm, -⟩ := hrest session hsession
      obtain ⟨x, hx, -⟩ := hall session.mailbox
      have hb : b.tally = some m.tally := by simp [tally, hsession, hm]
      have hc : c.tally = some (m.nudged x).tally := by simp [tally, hc, hnudged.mailbox, hx, hm]
      rw [hb, hc]
      exact .some ⟨rfl, rfl, rfl, rfl⟩
  have halive (session' : Session) (hc : c.session = some session') : session'.alive = true := by
    cases hsession : b.session with
    | none =>
      rw [h.session_of_none hsession] at hc
      cases hc
    | some session =>
      obtain ⟨session'', hc', hnudged⟩ := h.session_of_some hsession
      obtain rfl := Option.some.inj (hc.symm.trans hc')
      exact hnudged.alive.trans (hrest session hsession).1
  have henabled := h.isEnabled_eq
  cases h
  exact ⟨rfl, henabled, rfl, rfl, rfl, halive, htally, hall, fun _ => hall.getElem?_eq⟩

/-- **Stray disable requests do no harm.** Take any driver, any listeners, and a prompt run of a
bridge. However often stray requests come in meanwhile, and at whatever points, the operations
answer the same. The listeners are called in the same order and hear the same, the driver is
called in the same way, and the counters of a session agree but for its disable requests and its
drains. As long as there is a session, its event thread is there, and whatever can be done promptly
without the requests can be done after them.

A run may end anywhere, so all this holds after each step. -/
theorem stray_requests_do_no_harm [Hardware δ] (s : Surroundings δ σ) (config : ValidConfig)
    (memory : σ) {occurrences : List Occurrence}
    (hprompt : Prompt s (ofConfig config memory) occurrences) {strayed : Nat → Prop}
    {c : Bridge δ σ} {answers : List Answer}
    (hruns : RunsAmid s strayed (ofConfig config memory) occurrences c answers) :
    answers = (ofConfig config memory).answersTo s occurrences ∧
      ((ofConfig config memory).occurAll s occurrences).Unharmed strayed c ∧
      ∀ more, Prompt s ((ofConfig config memory).occurAll s occurrences) more →
        ∃ d answers, RunsAmid s strayed c more d answers := by
  have hfurnished := Furnished.ofConfig (δ := δ) config memory
  obtain ⟨hnudged, hrest, hanswers⟩ := (Nudged.refl strayed rfl).runsAmid hfurnished hprompt hruns
  refine ⟨hanswers, hnudged.unharmed hrest, fun more hmore => ?_⟩
  exact hnudged.exists_runsAmid (hfurnished.occurAll s occurrences) hmore

/-- A listener is registered, and a bridge over the loopback driver is started and disabled. -/
def briefSession : List Occurrence :=
  [.operation (.addListener .status "here"), .operation (.start {}), .operation .disable]

/-- Two stray requests come in while the start is dispatched, and a third is pending when the
session is closed. The listener hears of the start, and the bridge is disabled. -/
theorem brief_session_among_strays :
    ∃ (c : Bridge Loopback Unit) (answers : List Answer),
      RunsAmid echoingSurroundings (· = 0)
        (ofConfig { messageCapacity := 4, valid := by decide } ()) briefSession c answers ∧
      c.audience.heard = [("here", .status .started)] ∧ c.isEnabled = false ∧
      c.mailboxes.map (fun m => (m.tally.disableRequests, m.tally.drains)) = [(4, 3)] := by
  have hprompt : Prompt echoingSurroundings
      (ofConfig { messageCapacity := 4, valid := by decide } () : Bridge Loopback Unit)
      briefSession := by
    refine ⟨nofun, nofun, nofun, ⟨?_, ?_⟩, ?_, ?_, nofun⟩
    all_goals
      rintro _ ⟨⟩
      exact ⟨rfl, _, rfl, rfl⟩
  have hstrays : ∀ interlude ∈ [[Act.post .disable], [.post .disable], []],
      ∀ a ∈ interlude, a = .post .disable := by decide
  obtain ⟨c, answers, hruns, hcounts⟩ : ∃ (c : Bridge Loopback Unit) (answers : List Answer),
      RunsAmid echoingSurroundings (· = 0)
        (ofConfig { messageCapacity := 4, valid := by decide } ()) briefSession c answers ∧
      c.mailboxes.map (fun m => (m.tally.disableRequests, m.tally.drains)) = [(4, 3)] := by
    refine ⟨_, _, .cons false .refl (.nil .refl) (.cons false .refl (.cons .refl
      (.amid rfl rfl rfl rfl (beset_handle _ _ _) hstrays rfl ?_) (.nil (.request .refl rfl rfl)))
      (.cons true .refl (.nil .refl) (.nil .refl))), ?_⟩
    · exact nofun
    · rfl
  obtain ⟨-, hunharmed, -⟩ := stray_requests_do_no_harm _ _ _ hprompt hruns
  refine ⟨c, answers, hruns, ?_, hunharmed.enabled.trans rfl, hcounts⟩
  rw [Audience.heard, hunharmed.audience]
  rfl

end Bridge

end SerialBridge
