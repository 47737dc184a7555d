import SerialBridge.Echo.Program
import SerialBridge.Proofs.Bridge.Phases
import SerialBridge.Proofs.Mailbox.Conservation

/-!
# The conversation of the echo program

`Echo.run_echoes_every_message` says what the program prints, line by line: the engine starts, the
link is open, every message comes back as far as there is room for it, the counters are right, the
engine stops.

Every layer takes part in this. The driver reports what it is sent, the session dispatches the
report, the listener puts the text into the channel, and the program takes it from there. The
invariant is `Echo.Working`: between steps the session has settled, the device owes no report, and
desk and counters are known. One lemma says what a report of the device does to it
(`Echo.working_report`), and starting, sending and stopping are cases of it. The channel is empty
whenever the program sends, so that nothing is ever dropped.
-/

namespace SerialBridge

/-! ### The counters of a session -/

/-- The counters once a signal was posted to an empty mailbox of that capacity and taken from it. -/
def Tally.served (capacity : Nat) (t : Tally) : Signal → Tally
  | .status _ => { t with statusReports := t.statusReports + 1, drains := t.drains + 1 }
  | .message payload =>
    { t with
      messageReports := t.messageReports + 1
      truncated := t.truncated + .ofNat (decide (capacity < payload.length)).toNat
      drains := t.drains + 1 }
  | .disable => { t with disableRequests := t.disableRequests + 1, drains := t.drains + 1 }

/-- The counters are those of a mailbox to which the signal came alone. -/
theorem Mailbox.tally_served {m : Mailbox} (hp : m.pending = ∅) (session : Session) (sig : Signal) :
    (m.served session sig).tally = m.tally.served m.capacity sig := by
  have htruncated := m.truncated_record sig
  cases sig with
  | status code => simp [served, take, record, PendingSet.record, hp, increment, Tally.served]
  | message payload =>
    rw [Entry.overflows] at htruncated
    rw [Tally.served, ← htruncated]
    simp [served, take, record, PendingSet.record, hp, increment]
  | disable => simp [served, take, record, PendingSet.record, Tally.served]

namespace Echo

/-! ### The listeners -/

/-- The listeners of the program. -/
def staff : Registry := { status := ["status"], message := ["echo"] }

/-- What the desk is like once a listener was told a note. -/
def Desk.hear (d : Desk) : Note → Desk
  | .status t => d.print (.status t)
  | .message text => d.offer text

/-- A message is put into the channel if there is room. -/
theorem Desk.offer_of_lt {d : Desk} (h : d.channel.length < d.room) (text : String) :
    d.offer text = { d with channel := d.channel ++ [text] } := by
  rw [offer, if_pos h]

/-- The listeners of the program print or pass on what they are told, and return. -/
theorem calm_behaviour : Calm behaviour 0 := by
  constructor
  · rintro id (t | text) a
    · exact ⟨none, rfl⟩
    · exact ⟨none, rfl⟩
  · rintro id (t | text) a
    · rfl
    · rfl

/-- Each note is for one listener, who does not leave. -/
theorem hear_staff {a : Audience Desk Report} (h : a.registry = staff) (note : Note) :
    (a.hear behaviour 0 (some note)).memory = a.memory.hear note ∧
      (a.hear behaviour 0 (some note)).registry = staff := by
  rw [Audience.hear, Audience.notify, Audience.notifyWithin, h]
  cases note with
  | status t => exact ⟨rfl, h⟩
  | message text => exact ⟨rfl, h⟩

/-! ### A bridge at work -/

/-- The bridge of the program **at work**: its session has settled, its device, if one runs, owes no
report, and desk and counters are as given. -/
inductive Working (config : ValidConfig) (running : Bool) (d : Desk) (t : Tally)
    (b : Workplace Loopback) : Prop where
  | intro {session : Session} {m : Mailbox} {own : Reporter} {echoed : UInt64}
    (configured : b.config = config) (opened : b.session = some session)
    (settled : b.Settled session m) (reports : own.mailbox = session.mailbox)
    (driver : b.driver = some (Refusals.driver {} (some own) running echoed))
    (memory : desk b = d) (registry : b.audience.registry = staff) (tally : m.tally = t)

variable {config : ValidConfig} {b : Workplace Loopback} {d : Desk} {t : Tally}

/-- **A report of the device**, made in a call: the listener for it is told its note, and it is
counted. -/
theorem working_report {session : Session} {m : Mailbox} {own : Reporter}
    (hconfig : b.config = config) (hopened : b.session = some session)
    (hsettled : b.Settled session m) (hown : own.mailbox = session.mailbox)
    (hregistry : b.audience.registry = staff) (running : Bool) (echoed : UInt64) (c : Contact)
    (report : Report) {note : Note}
    (hnote : report.signal.note? config.messageCapacity = some note) :
    Working config running ((desk b).hear note)
      (m.tally.served config.messageCapacity report.signal)
      ((b.note c).absorb surroundings
        { driver := Refusals.driver {} (some own) running echoed
          reports := [(own, report)] }) := by
  let b' : Workplace Loopback :=
    { b.note c with driver := some (Refusals.driver {} (some own) running echoed) }
  -- The call is noted before its report arrives, which does not concern the session.
  have hbegun : b'.Settled session m := hsettled.congr rfl rfl rfl
  have habsorb : (b.note c).absorb surroundings
      { driver := Refusals.driver {} (some own) running echoed, reports := [(own, report)] }
      = b'.receive surroundings session.mailbox report.signal := by
    rw [← hown]
    rfl
  have hattended := hbegun.attend calm_behaviour (s := surroundings) report.signal
  have hheard : report.signal.note? b'.config.messageCapacity = some note := by
    rw [← hnote, ← hconfig]
    rfl
  obtain ⟨hmemory, hstaff⟩ := hear_staff (a := b'.audience) hregistry note
  rw [habsorb, hbegun.receive_eq calm_behaviour hopened]
  refine .intro hconfig rfl (hattended.congr rfl rfl rfl) hown rfl ?_ ?_ ?_
  · change (b'.audience.hear behaviour 0 _).memory = _
    rw [hheard, hmemory]
    rfl
  · change (b'.audience.hear behaviour 0 _).registry = _
    rw [hheard, hstaff]
  · rw [Mailbox.tally_served hsettled.pending, hsettled.capacity, hconfig]

/-- What is done at the desk between calls. -/
theorem Working.atDesk {running : Bool} (h : Working config running d t b) (change : Desk → Desk) :
    Working config running (change d) t (atDesk change b) := by
  cases h with
  | intro hconfig hopened hsettled hown hdriver hmemory hregistry htally =>
    exact .intro hconfig hopened (hsettled.congr rfl rfl rfl) hown hdriver (congrArg change hmemory)
      hregistry htally

theorem Working.config_eq {running : Bool} (h : Working config running d t b) :
    b.config = config := by
  cases h with
  | intro hconfig => exact hconfig

theorem Working.desk_eq {running : Bool} (h : Working config running d t b) : desk b = d := by
  cases h with
  | intro _ _ _ _ _ hmemory => exact hmemory

/-- Sending bytes lets the device report them. -/
theorem Working.send (h : Working config true d t b) (bytes : List UInt8) :
    ∃ b', b.send surroundings bytes = (b', .ok ()) ∧
      Working config true (d.offer (Utf8.decodeLossy (bytes.take config.messageCapacity)))
        (t.served config.messageCapacity (.message bytes)) b' := by
  cases h with
  | @intro session m own echoed hconfig hopened hsettled hown hdriver hmemory hregistry htally =>
    have hsend : Hardware.send bytes (Refusals.driver {} (some own) true echoed)
        = { driver := Refusals.driver {} (some own) true (echoed + .ofNat bytes.length)
            reports := [(own, .message bytes)] } :=
      Loopback.send_driver_running bytes
    have hreported := working_report hconfig hopened hsettled hown hregistry true
      (echoed + .ofNat bytes.length) (.send bytes) (.message bytes) rfl
    rw [hmemory, htally] at hreported
    rw [Bridge.send_of_enabled (Bridge.isEnabled_of_session hopened) hdriver, hsend]
    exact ⟨_, rfl, hreported⟩

/-- When the bridge is disabled, no listener is told anything any more. -/
theorem Working.disable {running : Bool} (h : Working config running d t b) :
    ∃ b', b.disable surroundings = (b', .ok ()) ∧ b'.session = none ∧ desk b' = d := by
  cases h with
  | @intro session m own echoed hconfig hopened hsettled hown hdriver hmemory hregistry htally =>
    let closed : Workplace Loopback := { b with
      session := none
      engineOn := false
      mailboxes := b.mailboxes.set session.mailbox (m.served session .disable) }
    -- The session is closed when the driver is cleaned up, so nothing that it posts is heard.
    have hcleanup : closed.cleanup surroundings = (closed.note .cleanup).absorb surroundings
        (Hardware.cleanup (Refusals.driver {} (some own) running echoed)) := by
      rw [Bridge.cleanup, show closed.driver = _ from hdriver]
    rw [hsettled.disable_eq calm_behaviour hopened]
    refine ⟨closed.cleanup surroundings, rfl, ?_, ?_⟩
    · rw [hcleanup, Bridge.absorb_of_disabled rfl]
      rfl
    · rw [hcleanup, Bridge.absorb_of_disabled rfl]
      exact hmemory

/-- Stopping lets the device report that the engine is off, and disables the bridge. -/
theorem Working.stop (h : Working config true d t b) :
    ∃ b', b.stop surroundings = (b', .ok ()) ∧ b'.session = none ∧
      desk b' = d.print (.status .stopped) := by
  cases h with
  | @intro session m own echoed hconfig hopened hsettled hown hdriver hmemory hregistry htally =>
    have hstop : Hardware.stop (Refusals.driver {} (some own) true echoed)
        = { driver := Refusals.driver {} (some own) false echoed
            reports := [(own, .status statusEngineOff)] } :=
      Loopback.stop_driver_running rfl
    have hnote : (Report.status statusEngineOff).signal.note? config.messageCapacity
        = some (.status .stopped) := rfl
    have hreported := working_report hconfig hopened hsettled hown hregistry false echoed .stop
      (.status statusEngineOff) hnote
    rw [hmemory] at hreported
    have hclosed := Bridge.stop_of_answered (s := surroundings)
      (Bridge.isEnabled_of_session hopened) hdriver (by rw [hstop]; exact nofun)
    obtain ⟨b', hdisable, hnone, hdesk⟩ := hreported.disable
    rw [hstop, hdisable] at hclosed
    exact ⟨b', hclosed, hnone, hdesk⟩

/-! ### Opening the link -/

/-- The bridge of the program before the link is opened: it has found its driver and has its
listeners. -/
def staffed (config : ValidConfig) (room : Nat) : Workplace Loopback :=
  ((((Bridge.ofConfig config { room }).isSupported surroundings).1.addListener .status
    "status").addListener .message "echo")

/-- Enabling it opens a session. -/
theorem working_enable (hname : '\x00' ∉ config.eventThreadName.toList) (room : Nat) :
    ∃ b, (staffed config room).enable surroundings = (b, .ok ()) ∧
      Working config false { room } {} b := by
  let b₀ := staffed config room
  let m := b₀.nextMailbox
  let own := m.reporter 0
  let ready : Workplace Loopback := { b₀.addMailbox with
    driver := some (Refusals.driver {} (some own) false 0)
    contacts := b₀.contacts ++ [.init own .success] }
  let b : Workplace Loopback :=
    { ready with spawns := 1, session := some { mailbox := 0, consumer := .ofMailbox m } }
  have hdiscover : b₀.addMailbox.discover surroundings
      = (b₀.addMailbox, some (Refusals.driver {} none false 0)) := rfl
  have hready : b₀.enable surroundings = ready.openSession surroundings 0 m := by
    rw [Bridge.enable_of_hit rfl hdiscover, Bridge.setUp]
    rfl
  have hopened : ready.openSession surroundings 0 m = (b.settle surroundings, .ok ()) := by
    -- The thread of the session can have its name, and the system makes it.
    have hfree : '\x00' ∉ ready.config.eventThreadName.toList := hname
    rw [Bridge.openSession, if_neg hfree]
    rfl
  have hcapacity : m.capacity = config.messageCapacity :=
    Snapshot.capacity_blank _ (Bridge.messageCapacity_pos b₀)
  have hsettled : b.Settled { mailbox := 0, consumer := .ofMailbox m } m :=
    .of_fresh rfl rfl rfl hcapacity rfl
  rw [hready, hopened, hsettled.settle_eq rfl]
  exact ⟨b, rfl, .intro rfl rfl hsettled rfl rfl rfl rfl rfl⟩

/-- Starting the device of the configured link lets it report that the engine is on. -/
theorem working_start (hdevice : '\x00' ∉ config.link.device.toList)
    (hname : '\x00' ∉ config.eventThreadName.toList) (room : Nat) :
    ∃ b, (staffed config room).startConfigured surroundings = (b, .ok ()) ∧
      Working config true { printed := [.status .started], room }
        { statusReports := 1, drains := 1 } b := by
  obtain ⟨b, henable, hworking⟩ := working_enable hname room
  cases hworking with
  | @intro session m own echoed hconfig hopened hsettled hown hdriver hmemory hregistry htally =>
    have hstart : Hardware.start config.link (Refusals.driver {} (some own) false echoed)
        = { driver := Refusals.driver {} (some own) true echoed
            reports := [(own, .status statusEngineOn)] } :=
      Loopback.start_driver_idle rfl hdevice
    have hnote : (Report.status statusEngineOn).signal.note? config.messageCapacity
        = some (.status .started) := rfl
    have hreported := working_report hconfig hopened hsettled hown hregistry true echoed
      (.start config.link) (.status statusEngineOn) hnote
    rw [hmemory, htally] at hreported
    refine ⟨_, ?_, hreported⟩
    rw [Bridge.startConfigured, Bridge.start, henable]
    dsimp only
    rw [hdriver]
    dsimp only
    have hlink : (staffed config room).config.link = config.link := rfl
    rw [hlink, hstart]
    rfl

/-! ### Messages -/

/-- What comes back of a message: its text as far as there is room for it. -/
def echoOf (config : ValidConfig) (message : String) : String :=
  Utf8.decodeLossy ((Utf8.encode message).take config.messageCapacity)

/-- How many of the messages are too long to come back whole. -/
def overlong (config : ValidConfig) (messages : List String) : Nat :=
  messages.countP fun message => config.messageCapacity < (Utf8.encode message).length

/-- The lines that are printed once the link is open and the messages were sent. -/
def linesAfter (config : ValidConfig) (sent : List String) : List Line :=
  .status .started :: .opened config.link ::
    sent.map fun message => .echo message (some (echoOf config message))

/-- The counters once the link is open and the messages were sent. -/
def tallyAfter (config : ValidConfig) (sent : List String) : Tally where
  statusReports := 1
  messageReports := .ofNat sent.length
  truncated := .ofNat (overlong config sent)
  drains := .ofNat (sent.length + 1)

theorem linesAfter_snoc (config : ValidConfig) (sent : List String) (message : String) :
    linesAfter config (sent ++ [message])
      = linesAfter config sent ++ [.echo message (some (echoOf config message))] := by
  rw [linesAfter, List.map_append]
  rfl

/-- Each message is counted, and so is its truncation if it is too long. -/
theorem tallyAfter_snoc (config : ValidConfig) (sent : List String) (message : String) :
    tallyAfter config (sent ++ [message])
      = (tallyAfter config sent).served config.messageCapacity
          (.message (Utf8.encode message)) := by
  have hlength : (sent ++ [message]).length = sent.length + 1 := List.length_append
  have hcut : overlong config (sent ++ [message]) = overlong config sent
      + (decide (config.messageCapacity < (Utf8.encode message).length)).toNat :=
    countP_snoc _ sent message
  simp only [tallyAfter, Tally.served, hlength, hcut, UInt64.ofNat_add]
  rfl

/-- **One message.** It comes back as far as there is room for it, and is counted. -/
theorem Working.exchange {room : Nat} {sent : List String}
    (h : Working config true { printed := linesAfter config sent, room } (tallyAfter config sent) b)
    (hroom : 0 < room) (message : String) :
    ∃ b', exchange surroundings message b = (b', .ok ()) ∧
      Working config true { printed := linesAfter config (sent ++ [message]), room }
        (tallyAfter config (sent ++ [message])) b' := by
  obtain ⟨b', hsend, hworking⟩ := h.send (Utf8.encode message)
  have hempty : ([] : List String).length < room := hroom
  rw [← tallyAfter_snoc, Desk.offer_of_lt hempty] at hworking
  -- The channel holds what just came back, and nothing else.
  let printed (d : Desk) : Desk :=
    { d with channel := d.channel.tail }.print (.echo message (some (echoOf config message)))
  have hprinted := hworking.atDesk printed
  refine ⟨Echo.atDesk printed b', ?_, ?_⟩
  · rw [Echo.exchange, Bridge.print, hsend]
    dsimp only
    rw [hworking.desk_eq]
    rfl
  · rw [linesAfter_snoc]
    exact hprinted

/-- **All messages**, as many as the channel has room for. -/
theorem Working.exchangeAll {room : Nat} {sent : List String}
    (h : Working config true { printed := linesAfter config sent, room } (tallyAfter config sent) b)
    (messages : List String) (hroom : messages.length ≤ room) :
    ∃ b', exchangeAll surroundings messages b = (b', .ok ()) ∧
      Working config true { printed := linesAfter config (sent ++ messages), room }
        (tallyAfter config (sent ++ messages)) b' := by
  induction messages generalizing sent b with
  | nil =>
    rw [List.append_nil]
    exact ⟨b, rfl, h⟩
  | cons message rest ih =>
    have hlength : (message :: rest).length = rest.length + 1 := rfl
    -- The channel is empty again after each message, so there is always room for the next.
    obtain ⟨b', hexchange, hworking⟩ := h.exchange (by omega) message
    obtain ⟨b'', hrest, hworking'⟩ := ih hworking (by omega)
    rw [List.append_assoc] at hworking'
    refine ⟨b'', ?_, hworking'⟩
    rw [Echo.exchangeAll, hexchange]
    exact hrest

/-! ### The whole conversation -/

/-- The counters are printed as they are. -/
theorem Working.printTally {running : Bool} (h : Working config running d t b) :
    Echo.printTally b = Echo.atDesk (Desk.print (.reports t)) b := by
  cases h with
  | intro hconfig hopened hsettled hown hdriver hmemory hregistry htally =>
    have hcounted : b.tally = some t := by
      simp [Bridge.tally, hopened, hsettled.mailbox, htally]
    rw [Echo.printTally, hcounted]

/-- The line with the counters tells the numbers in full, as long as a machine word holds them. -/
theorem text_reports {messages : List String} (h : messages.length < 2 ^ 64) :
    (Line.reports (tallyAfter config messages)).text
      = s!"Reports: 1 status, {messages.length} message, 0 superseded, " ++
        s!"{overlong config messages} truncated" := by
  have hcut : overlong config messages < 2 ^ 64 := Nat.lt_of_le_of_lt List.countP_le_length h
  have hone : (tallyAfter config messages).statusReports.toNat = 1 := rfl
  have hsent : (tallyAfter config messages).messageReports.toNat = messages.length :=
    UInt64.toNat_ofNat_of_lt' h
  have hnone : (tallyAfter config messages).superseded.toNat = 0 := rfl
  have htruncated : (tallyAfter config messages).truncated.toNat = overlong config messages :=
    UInt64.toNat_ofNat_of_lt' hcut
  have hhead : "Reports: " ++ toString 1 ++ " status, " = "Reports: 1 status, " := by decide
  have hmiddle : " message, " ++ (toString 0 ++ " superseded, ") = " message, 0 superseded, " := by
    decide
  rw [Line.text, hone, hsent, hnone, htruncated]
  calc
    _ = "Reports: " ++ toString 1 ++ " status, " ++ toString messages.length
          ++ (" message, " ++ (toString 0 ++ " superseded, "))
          ++ (toString (overlong config messages) ++ " truncated") := by
      simp only [String.append_assoc]
      rfl
    _ = _ := by
      rw [hhead, hmiddle]
      rfl

/-- The bridge of the program opens the link, sends the messages and closes the link, and all lines
are printed by then. -/
theorem converse_staffed (hdevice : '\x00' ∉ config.link.device.toList)
    (hname : '\x00' ∉ config.eventThreadName.toList) (messages : List String) :
    ∃ b, converse surroundings messages (staffed config messages.length) = (b, .ok ()) ∧
      b.session = none ∧ (desk b).printed = linesAfter config messages
        ++ [.reports (tallyAfter config messages), .status .stopped] := by
  obtain ⟨b₁, hstart, hstarted⟩ := working_start hdevice hname messages.length
  have hopened : Working config true { printed := linesAfter config [], room := messages.length }
      (tallyAfter config []) (atDesk (Desk.print (.opened config.link)) b₁) :=
    hstarted.atDesk (Desk.print (.opened config.link))
  obtain ⟨b₂, hall, hsent⟩ := hopened.exchangeAll messages (Nat.le_refl _)
  have hcounted := hsent.atDesk (Desk.print (.reports (tallyAfter config messages)))
  obtain ⟨b₃, hstop, hclosed, hdesk⟩ := hcounted.stop
  refine ⟨b₃, ?_, hclosed, ?_⟩
  · rw [converse, hstart]
    dsimp only
    rw [hstarted.config_eq, hall]
    dsimp only
    rw [hsent.printTally]
    exact hstop
  · rw [hdesk]
    exact List.append_assoc _ _ _

/-- **The program echoes every message.** Take any valid configuration with which threads can be
named after its device and its event thread, and any messages. The program succeeds. It prints that
the engine started and that the link is open; then each message, in order, with what came back of
it, which is its text as far as there is room for it; then the counters, which tell one status, all
messages, none of them superseded, and how many were too long; and last that the engine stopped. The
numbers stand there in full as long as a machine word holds them. -/
theorem run_echoes_every_message (config : ValidConfig)
    (hdevice : '\x00' ∉ config.link.device.toList) (hname : '\x00' ∉ config.eventThreadName.toList)
    (messages : List String) :
    let transcript := run surroundings config messages
    transcript.ending = .success ∧
      transcript.lines = linesAfter config messages
        ++ [.reports (tallyAfter config messages), .status .stopped] ∧
      (messages.length < 2 ^ 64 → transcript.lines.map Line.text =
        ["[status] Started", s!"Opened {config.link.device} at {config.link.baud.toNat} baud"]
          ++ messages.map (fun message => s!"{message} -> {echoOf config message}")
          ++ [s!"Reports: 1 status, {messages.length} message, 0 superseded, " ++
              s!"{overlong config messages} truncated", "[status] Stopped"]) := by
  intro transcript
  obtain ⟨b, hconverse, hclosed, hprinted⟩ := converse_staffed hdevice hname messages
  -- The bridge has no session any more when it is released.
  have hrun : transcript = { lines := (desk b).printed, ending := .success } := by
    change run surroundings config messages = _
    rw [run]
    change (match converse surroundings messages (staffed config messages.length) with
      | (b, outcome) => ({ lines := (desk (b.release surroundings)).printed,
                           ending := .ofOutcome outcome } : Transcript)) = _
    rw [hconverse]
    dsimp only
    rw [Bridge.release, Bridge.disable_of_disabled hclosed]
    rfl
  have hstarted : (Line.status .started).text = "[status] Started" := by decide
  have hstopped : (Line.status .stopped).text = "[status] Stopped" := by decide
  rw [hrun]
  refine ⟨rfl, hprinted, fun hlength => ?_⟩
  dsimp only
  rw [hprinted, linesAfter, List.map_append, List.map_cons, List.map_cons, List.map_map,
    List.map_cons, List.map_singleton, hstarted, hstopped, text_reports hlength]
  rfl

/-- A configuration with room for three bytes. -/
def narrowConfig : ValidConfig := { messageCapacity := 3, valid := by decide }

/-- Two messages that are cut, one of them within a character, and an empty one between them. -/
theorem narrow_run_echoes_every_message :
    '\x00' ∉ narrowConfig.link.device.toList ∧ '\x00' ∉ narrowConfig.eventThreadName.toList ∧
      (run surroundings narrowConfig ["PING", "", "a€"]).ending = .success ∧
      (run surroundings narrowConfig ["PING", "", "a€"]).lines.map Line.text =
        ["[status] Started", "Opened /dev/ttyS0 at 115200 baud", "PING -> PIN", " -> ",
          "a€ -> a\uFFFD", "Reports: 1 status, 3 message, 0 superseded, 2 truncated",
          "[status] Stopped"] := by
  have hdevice : '\x00' ∉ narrowConfig.link.device.toList := by decide
  have hname : '\x00' ∉ narrowConfig.eventThreadName.toList := by decide
  obtain ⟨hending, -, htext⟩ :=
    run_echoes_every_message narrowConfig hdevice hname ["PING", "", "a€"]
  exact ⟨hdevice, hname, hending, (htext (by decide)).trans (by decide)⟩

end Echo

end SerialBridge
