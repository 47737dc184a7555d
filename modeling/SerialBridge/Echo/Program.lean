import SerialBridge.Bridge.Lifecycle
import SerialBridge.Echo.Arguments
import SerialBridge.Hardware.Loopback

/-!
# The echo program

The program opens a bridge, sends each message and prints what comes back, and in the end prints
the counters of the bridge. Two listeners take part. One prints transitions of the engine. The
other puts received messages into a channel, from which the program takes one after each message
it sends; the channel has room for as many as are sent, and what does not fit is dropped.

Program and listeners print to the same place, so the lines printed so far are part of the
listeners' memory.
-/

namespace SerialBridge.Echo

/-- A line of output. -/
inductive Line where
  /-- A line of the help text. -/
  | usage (text : String)
  /-- There is no hardware to work with. -/
  | unsupported
  /-- The engine started or stopped. -/
  | status (transition : Transition)
  /-- The link is open. -/
  | opened (link : Link)
  /-- A message was sent, and this came back. -/
  | echo (message : String) (answer : Option String)
  /-- The counters in the end. -/
  | reports (tally : Tally)
deriving DecidableEq

/-- The text of a line. -/
def Line.text : Line → String
  | .usage text => text
  | .unsupported => "No serial hardware on this platform"
  | .status t => s!"[status] {t.name}"
  | .opened link => s!"Opened {link.device} at {link.baud.toNat} baud"
  | .echo message (some answer) => s!"{message} -> {answer}"
  | .echo message none => s!"{message} -> (no echo)"
  | .reports t =>
    s!"Reports: {t.statusReports.toNat} status, {t.messageReports.toNat} message, " ++
      s!"{t.superseded.toNat} superseded, {t.truncated.toNat} truncated"

/-- The help text. -/
def usage : List Line := [
  .usage "Usage: serial_echo [OPTIONS] [MESSAGE]...",
  .usage "",
  .usage "Options:",
  .usage "  -c, --config <PATH>     TOML config file",
  .usage "  -d, --device <DEVICE>   Device to open (default: from config)",
  .usage "  -b, --baud <BAUD>       Line speed (default: from config)",
  .usage "  -h, --help              Show this help"]

/-- What the listeners and the program have in common. -/
structure Desk where
  /-- The lines printed so far. -/
  printed : List Line := []
  /-- The messages in the channel. -/
  channel : List String := []
  /-- How many messages the channel has room for. -/
  room : Nat
deriving DecidableEq

/-- Prints a line. -/
def Desk.print (line : Line) (d : Desk) : Desk := { d with printed := d.printed ++ [line] }

/-- Puts a message into the channel if there is room. -/
def Desk.offer (message : String) (d : Desk) : Desk :=
  if d.channel.length < d.room then { d with channel := d.channel ++ [message] } else d

/-- What the program's listeners do. -/
def behaviour : Behaviour Desk Report := fun _ note =>
  .recall fun d =>
    match note with
    | .status t => .remember (d.print (.status t)) (.finish none)
    | .message text => .remember (d.offer text) (.finish none)

/-- How the program ends. -/
inductive Ending where
  /-- All went well. -/
  | success
  /-- It gave up. -/
  | failure (error : BridgeError)
  /-- It ran into a fault. -/
  | fault (cause : Fault)
deriving DecidableEq

/-- What the program leaves behind. -/
structure Transcript where
  /-- The lines it printed. -/
  lines : List Line := []
  /-- How it ended. -/
  ending : Ending := .success
deriving DecidableEq

/-- The exit code of the program. -/
def Ending.exitCode : Ending → UInt8
  | .success => 0
  | .failure _ => 1
  | .fault _ => 101

/-- The text for standard error. -/
def Ending.complaint : Ending → String
  | .success => ""
  | .failure e => s!"error: {e.message}\n"
  | .fault f => s!"fault: {f.message}\n"

section

variable {δ : Type} [Hardware δ]

/-- The program's bridge, with the common desk as the memory of its listeners. -/
abbrev Workplace (δ : Type) := Bridge δ Desk

/-- The desk. -/
def desk (b : Workplace δ) : Desk := b.audience.memory

/-- Does something at the desk. -/
def atDesk (change : Desk → Desk) (b : Workplace δ) : Workplace δ :=
  { b with audience := { b.audience with memory := change b.audience.memory } }

/-- Sends a message and prints what comes back. -/
def exchange (s : Surroundings δ Desk) (message : String) (b : Workplace δ) :
    Workplace δ × Bridge.Outcome :=
  match b.print s message with
  | (b, .error e) => (b, .error e)
  | (b, .ok ()) =>
    let answer := (desk b).channel.head?
    (atDesk (fun d => { d with channel := d.channel.tail }.print (.echo message answer)) b, .ok ())

/-- Sends one message after the other, up to the first that cannot be sent. -/
def exchangeAll (s : Surroundings δ Desk) :
    List String → Workplace δ → Workplace δ × Bridge.Outcome
  | [], b => (b, .ok ())
  | message :: rest, b =>
    match exchange s message b with
    | (b, .error e) => (b, .error e)
    | (b, .ok ()) => exchangeAll s rest b

/-- Prints the counters, if there are any. -/
def printTally (b : Workplace δ) : Workplace δ :=
  match b.tally with
  | some t => atDesk (·.print (.reports t)) b
  | none => b

/-- Opens the link, sends the messages and closes the link. -/
def converse (s : Surroundings δ Desk) (messages : List String) (b : Workplace δ) :
    Workplace δ × Bridge.Outcome :=
  match b.startConfigured s with
  | (b, .error e) => (b, .error e)
  | (b, .ok ()) =>
    match exchangeAll s messages (atDesk (·.print (.opened b.config.link)) b) with
    | (b, .error e) => (b, .error e)
    | (b, .ok ()) => (printTally b).stop s

/-- The ending that an outcome leads to. -/
def Ending.ofOutcome : Bridge.Outcome → Ending
  | .ok () => .success
  | .error (.error e) => .failure e
  | .error (.fault f) => .fault f

/-- Runs the program on a configuration and messages. -/
def run (s : Surroundings δ Desk) (config : ValidConfig) (messages : List String) : Transcript :=
  let b : Workplace δ := .ofConfig config { room := messages.length }
  match b.isSupported s with
  | (b, false) => { lines := (desk (atDesk (·.print .unsupported) b)).printed }
  | (b, true) =>
    let b := (b.addListener .status "status").addListener .message "echo"
    let (b, outcome) := converse s messages b
    { lines := (desk (b.release s)).printed, ending := .ofOutcome outcome }

/-- Runs the program on its arguments. -/
def execute (s : Surroundings δ Desk) (library : Toml.Library) (read : FileReader)
    (arguments : List String) : Transcript :=
  match Arguments.read arguments with
  | none => { lines := usage }
  | some a =>
    match a.config library read with
    | .error p => { ending := .failure p.error }
    | .ok config => run s config a.toSend

end

/-- The surroundings of the program: every discovery finds a loopback driver. -/
def surroundings : Surroundings Loopback Desk where
  discover _ := some {}
  behaviour := behaviour

end SerialBridge.Echo
