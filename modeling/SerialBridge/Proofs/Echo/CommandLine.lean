import Mathlib.Data.List.Induction
import SerialBridge.Echo.Program
import SerialBridge.Toml.Record

/-!
# Command lines

A command line is made from two lists, messages and options with their values, put together in any
way that keeps the order within each: it `Interleaves` them. An option without a value may stand at
its end.

`Echo.command_line_means_its_lists` says that the two lists are all that such a command line means.
The last value of each option counts, and whatever stands where a value is expected is one, even if
it looks like an option. A request for help where an option may stand comes before everything else.

The program deals with discovery and the driver only through its bridge. `executeOnRecord` is the
program with the contacts of that bridge, so that one can tell when there are none.
-/

namespace SerialBridge.Echo

/-! ### Putting a command line together -/

/-- The spellings of an option. -/
def Setting.words : Setting → List String
  | .config => ["--config", "-c"]
  | .device => ["--device", "-d"]
  | .baud => ["--baud", "-b"]

/-- The spellings of a request for help. -/
def helpWords : List String := ["--help", "-h"]

/-- The eight words that are no messages where an option may stand. -/
def optionWords : List String :=
  Setting.config.words ++ Setting.device.words ++ Setting.baud.words ++ helpWords

/-- The arguments are the messages and the options, each of these in one of its spellings and with
its value behind it. Both keep their order. -/
inductive Interleaves : List String → List (Setting × String) → List String → Prop where
  /-- There are no arguments. -/
  | nil : Interleaves [] [] []
  /-- The next argument is a message. -/
  | message {messages arguments : List String} {options : List (Setting × String)} {text : String}
    (htext : text ∉ optionWords) (h : Interleaves messages options arguments) :
    Interleaves (text :: messages) options (text :: arguments)
  /-- The next two arguments are an option and its value. The value may be any text. -/
  | option {messages arguments : List String} {options : List (Setting × String)} {word : String}
    {setting : Setting} (hword : word ∈ setting.words) (value : String)
    (h : Interleaves messages options arguments) :
    Interleaves messages ((setting, value) :: options) (word :: value :: arguments)

/-- What may stand at the end: nothing, or an option without a value. -/
def IsTrailing (arguments : List String) : Prop :=
  arguments = [] ∨ ∃ setting : Setting, ∃ word ∈ setting.words, arguments = [word]

/-! ### What the options say -/

/-- The value of a setting: the last that is given, if any is. -/
def lastValue (setting : Setting) (options : List (Setting × String)) : Option String :=
  (options.filterMap fun o => if o.1 = setting then some o.2 else none).getLast?

/-- The last option for a setting decides. -/
theorem lastValue_snoc (setting : Setting) (options : List (Setting × String))
    (o : Setting × String) :
    lastValue setting (options ++ [o])
      = if o.1 = setting then some o.2 else lastValue setting options := by
  rw [lastValue, List.filterMap_append, List.getLast?_append]
  by_cases h : o.1 = setting
  · simp [h]
  · simp [h, lastValue]

/-- The configuration that options are laid over: that in the last file named, which has to be in
order by itself, or the default. -/
def baseConfig (library : Toml.Library) (read : FileReader) (options : List (Setting × String)) :
    Except ConfigProblem Config :=
  match lastValue .config options with
  | none => .ok {}
  | some path => (Config.load library read path).map ValidConfig.toConfig

/-- The configuration with the options laid over it. A last line speed that is no number does not
count, and earlier ones do not either. -/
def layOver (options : List (Setting × String)) (c : Config) : Config :=
  { c with
    link :=
      { device := (lastValue .device options).getD c.link.device
        baud := ((lastValue .baud options).bind baud?).getD c.link.baud } }

/-- The configuration that the program works with. -/
def configFor (library : Toml.Library) (read : FileReader) (options : List (Setting × String)) :
    Except ConfigProblem ValidConfig :=
  match baseConfig library read options with
  | .error p => .error p
  | .ok c => (layOver options c).validate

/-! ### Reading -/

/-- Either spelling of an option is read as the option. -/
theorem ofString_of_mem_words {setting : Setting} {word : String} (h : word ∈ setting.words) :
    Word.ofString word = .option setting := by
  cases setting <;>
    · simp only [Setting.words, List.mem_cons, List.not_mem_nil, or_false] at h
      rcases h with rfl | rfl <;> decide

theorem ofString_of_mem_helpWords {word : String} (h : word ∈ helpWords) :
    Word.ofString word = .help := by
  simp only [helpWords, List.mem_cons, List.not_mem_nil, or_false] at h
  rcases h with rfl | rfl <;> decide

theorem ofString_of_notMem {text : String} (h : text ∉ optionWords) :
    Word.ofString text = .message text := by
  simp only [optionWords, Setting.words, helpWords, List.mem_append, List.mem_cons,
    List.not_mem_nil, or_false, not_or] at h
  obtain ⟨⟨⟨hconfig, hdevice⟩, hbaud⟩, hhelp⟩ := h
  rw [Word.ofString, if_neg (not_or.mpr hconfig), if_neg (not_or.mpr hdevice),
    if_neg (not_or.mpr hbaud), if_neg (not_or.mpr hhelp)]

namespace Arguments

section

variable {argument : String} {rest : List String} (a : Arguments)

theorem readMore_of_help (h : Word.ofString argument = .help) :
    readMore (argument :: rest) a = none := by
  simp [readMore, h]

/-- A message is put behind those before it. -/
theorem readMore_of_message {text : String} (h : Word.ofString argument = .message text) :
    readMore (argument :: rest) a = readMore rest { a with messages := a.messages ++ [text] } := by
  simp [readMore, h]

theorem readMore_of_option {setting : Setting} (h : Word.ofString argument = .option setting)
    (value : String) :
    readMore (argument :: value :: rest) a = readMore rest (a.set value setting) := by
  simp [readMore, h]

/-- An option at the end, without a value, is ignored. -/
theorem readMore_of_lone_option {setting : Setting}
    (h : Word.ofString argument = .option setting) : readMore [argument] a = some a := by
  simp [readMore, h]

end

/-- The arguments with more options and messages taken in. -/
def takeIn (a : Arguments) (messages : List String) (options : List (Setting × String)) :
    Arguments :=
  options.foldl (fun a o => a.set o.2 o.1) { a with messages := a.messages ++ messages }

theorem takeIn_message (a : Arguments) (text : String) (messages : List String)
    (options : List (Setting × String)) :
    ({ a with messages := a.messages ++ [text] } : Arguments).takeIn messages options
      = a.takeIn (text :: messages) options := by
  rw [takeIn, takeIn, List.append_assoc]
  rfl

/-- Messages and options do not get into each other's way. -/
theorem takeIn_option (a : Arguments) (setting : Setting) (value : String) (messages : List String)
    (options : List (Setting × String)) :
    (a.set value setting).takeIn messages options
      = a.takeIn messages ((setting, value) :: options) := by
  rw [takeIn, takeIn, List.foldl_cons]
  cases setting <;> rfl

/-- What has been taken in, starting from nothing. -/
theorem takeIn_eq (messages : List String) (options : List (Setting × String)) :
    ({} : Arguments).takeIn messages options =
      { configPath := lastValue .config options
        device := lastValue .device options
        baud := (lastValue .baud options).bind baud?
        messages } := by
  -- From the end of the options, since the last value counts.
  induction options using List.reverseRecOn with
  | nil => rfl
  | append_singleton options o ih =>
    obtain ⟨setting, value⟩ := o
    rw [takeIn, List.foldl_append, ← takeIn, ih]
    simp only [lastValue_snoc]
    cases setting <;> rfl

variable {messages arguments : List String} {options : List (Setting × String)}

/-- **Reading** a command line comes to its two lists, whatever the order in which they meet. -/
theorem readMore_of_interleaves (h : Interleaves messages options arguments)
    {trailing : List String} (htrailing : IsTrailing trailing) (a : Arguments) :
    readMore (arguments ++ trailing) a = some (a.takeIn messages options) := by
  -- `a` is what was read before, and every argument adds to it.
  induction h generalizing a with
  | nil =>
    have hnone : a.takeIn [] [] = a := by
      rw [takeIn, List.append_nil]
      rfl
    rw [hnone]
    rcases htrailing with rfl | ⟨setting, word, hword, rfl⟩
    · rfl
    · exact readMore_of_lone_option a (ofString_of_mem_words hword)
  | message htext h ih =>
    rw [List.cons_append, readMore_of_message a (ofString_of_notMem htext), ← takeIn_message]
    exact ih _
  | option hword value h ih =>
    rw [List.cons_append, List.cons_append, readMore_of_option a (ofString_of_mem_words hword),
      ← takeIn_option]
    exact ih _

/-- A request for help where an option may stand is answered at once. -/
theorem readMore_help (h : Interleaves messages options arguments) {word : String}
    (hword : word ∈ helpWords) (rest : List String) (a : Arguments) :
    readMore (arguments ++ word :: rest) a = none := by
  -- Neither a message nor an option or its value is taken for the request.
  induction h generalizing a with
  | nil => exact readMore_of_help a (ofString_of_mem_helpWords hword)
  | message htext h ih =>
    rw [List.cons_append, readMore_of_message a (ofString_of_notMem htext)]
    exact ih _
  | option hoption value h ih =>
    rw [List.cons_append, List.cons_append, readMore_of_option a (ofString_of_mem_words hoption)]
    exact ih _

end Arguments

/-! ### The program on record -/

section

variable {δ : Type} [Hardware δ]

/-- Runs the program on a configuration and messages. The record has the contacts of its bridge. -/
def runOnRecord (s : Surroundings δ Desk) (config : ValidConfig) (messages : List String) :
    Transcript × List Contact :=
  let b : Workplace δ := .ofConfig config { room := messages.length }
  match b.isSupported s with
  | (b, false) => ({ lines := (desk (atDesk (·.print .unsupported) b)).printed }, b.contacts)
  | (b, true) =>
    let b := (b.addListener .status "status").addListener .message "echo"
    let (b, outcome) := converse s messages b
    let b := b.release s
    ({ lines := (desk b).printed, ending := .ofOutcome outcome }, b.contacts)

/-- Runs the program on its arguments. As long as there is no bridge, there are no contacts. -/
def executeOnRecord (s : Surroundings δ Desk) (library : Toml.Library) (read : FileReader)
    (arguments : List String) : Transcript × List Contact :=
  match Arguments.read arguments with
  | none => ({ lines := usage }, [])
  | some a =>
    match a.config library read with
    | .error p => ({ ending := .failure p.error }, [])
    | .ok config => runOnRecord s config a.toSend

theorem fst_runOnRecord (s : Surroundings δ Desk) (config : ValidConfig) (messages : List String) :
    (runOnRecord s config messages).1 = run s config messages := by
  rw [runOnRecord, run]
  generalize (Bridge.ofConfig config { room := messages.length } : Workplace δ).isSupported s
    = answer
  obtain ⟨b, _ | _⟩ := answer <;> rfl

/-- The record is one of the program. -/
theorem fst_executeOnRecord (s : Surroundings δ Desk) (library : Toml.Library) (read : FileReader)
    (arguments : List String) :
    (executeOnRecord s library read arguments).1 = execute s library read arguments := by
  rw [executeOnRecord, execute]
  cases Arguments.read arguments with
  | none => rfl
  | some a =>
    dsimp only
    cases a.config library read with
    | error p => rfl
    | ok config => exact fst_runOnRecord s config a.toSend

/-! ### The meaning of a command line -/

/-- What the program does on a command line, told by its messages and its options. -/
structure Means (s : Surroundings δ Desk) (library : Toml.Library) (read : FileReader)
    (messages : List String) (options : List (Setting × String)) (arguments : List String) :
    Prop where
  /-- The record is that of the program. -/
  onRecord : (executeOnRecord s library read arguments).1 = execute s library read arguments
  /-- If the last file named cannot be read or is not in order, the program fails without having
  dealt with discovery or a driver. -/
  unloadable : ∀ p, baseConfig library read options = .error p →
    executeOnRecord s library read arguments = ({ ending := .failure p.error }, []) ∧
      (execute s library read arguments).ending.exitCode = 1
  /-- So it does if the configuration is not in order with the options laid over it. -/
  invalid : ∀ c p, baseConfig library read options = .ok c →
    (layOver options c).validate = .error p →
    executeOnRecord s library read arguments = ({ ending := .failure p.error }, []) ∧
      (execute s library read arguments).ending.exitCode = 1
  /-- Otherwise it runs with that configuration and the messages, or a standard one if there are
  none. -/
  valid : ∀ c config, baseConfig library read options = .ok c →
    (layOver options c).validate = .ok config →
    executeOnRecord s library read arguments
        = runOnRecord s config (if messages = [] then ["PING"] else messages) ∧
      execute s library read arguments = run s config (if messages = [] then ["PING"] else messages)

/-- The configuration depends on the options alone. -/
theorem config_takeIn (library : Toml.Library) (read : FileReader) (messages : List String)
    (options : List (Setting × String)) :
    (({} : Arguments).takeIn messages options).config library read
      = configFor library read options := by
  rw [Arguments.takeIn_eq, Arguments.config, configFor, baseConfig]
  cases lastValue .config options with
  | none => rfl
  | some path =>
    dsimp only
    cases Config.load library read path with
    | error p => rfl
    | ok c => rfl

/-- What is sent depends on the messages alone. -/
theorem toSend_takeIn (messages : List String) (options : List (Setting × String)) :
    (({} : Arguments).takeIn messages options).toSend
      = if messages = [] then ["PING"] else messages := by
  rw [Arguments.takeIn_eq, Arguments.toSend]
  cases messages with
  | nil => rfl
  | cons text rest => rfl

variable {s : Surroundings δ Desk} {library : Toml.Library} {read : FileReader}
  {messages arguments trailing : List String} {options : List (Setting × String)}

/-- The lists decide what the program does. -/
theorem executeOnRecord_of_interleaves (h : Interleaves messages options arguments)
    (htrailing : IsTrailing trailing) :
    executeOnRecord s library read (arguments ++ trailing) =
      match configFor library read options with
      | .error p => ({ ending := .failure p.error }, [])
      | .ok config => runOnRecord s config (if messages = [] then ["PING"] else messages) := by
  rw [executeOnRecord, Arguments.read, Arguments.readMore_of_interleaves h htrailing]
  dsimp only
  rw [config_takeIn, toSend_takeIn]

/-- Without a configuration to work with there is no bridge. -/
theorem executeOnRecord_of_error (h : Interleaves messages options arguments)
    (htrailing : IsTrailing trailing) {p : ConfigProblem}
    (hp : configFor library read options = .error p) :
    executeOnRecord s library read (arguments ++ trailing) = ({ ending := .failure p.error }, []) ∧
      (execute s library read (arguments ++ trailing)).ending.exitCode = 1 := by
  have hrecord : executeOnRecord s library read (arguments ++ trailing)
      = ({ ending := .failure p.error }, []) := by
    rw [executeOnRecord_of_interleaves h htrailing, hp]
  refine ⟨hrecord, ?_⟩
  rw [← fst_executeOnRecord, hrecord]
  rfl

/-- With a configuration to work with, the program runs. -/
theorem executeOnRecord_of_ok (h : Interleaves messages options arguments)
    (htrailing : IsTrailing trailing) {config : ValidConfig}
    (hconfig : configFor library read options = .ok config) :
    executeOnRecord s library read (arguments ++ trailing)
        = runOnRecord s config (if messages = [] then ["PING"] else messages) ∧
      execute s library read (arguments ++ trailing)
        = run s config (if messages = [] then ["PING"] else messages) := by
  have hrecord : executeOnRecord s library read (arguments ++ trailing)
      = runOnRecord s config (if messages = [] then ["PING"] else messages) := by
    rw [executeOnRecord_of_interleaves h htrailing, hconfig]
  refine ⟨hrecord, ?_⟩
  rw [← fst_executeOnRecord, hrecord, fst_runOnRecord]

/-- A request for help is answered before anything else is done. -/
theorem executeOnRecord_help (h : Interleaves messages options arguments) {word : String}
    (hword : word ∈ helpWords) (rest : List String) :
    executeOnRecord s library read (arguments ++ word :: rest)
        = ({ lines := usage, ending := .success }, []) ∧
      (execute s library read (arguments ++ word :: rest)).ending.exitCode = 0 := by
  have hrecord : executeOnRecord s library read (arguments ++ word :: rest)
      = ({ lines := usage, ending := .success }, []) := by
    rw [executeOnRecord, Arguments.read, Arguments.readMore_help h hword]
  refine ⟨hrecord, ?_⟩
  rw [← fst_executeOnRecord, hrecord]
  rfl

/-- **A command line means its two lists.** Take any messages, none of them one of the eight words,
any options with any values, any way of putting them together, and an option without a value at the
end or none. What the program does can be told from the lists alone. It is therefore the same for
any other way of putting them together. If a request for help stands where an option may, behind
messages and options that are complete, the program prints how it is used and succeeds. It reads no
file then and meets no driver, whatever else is asked for. -/
theorem command_line_means_its_lists (s : Surroundings δ Desk) (library : Toml.Library)
    (read : FileReader) {messages arguments : List String} {options : List (Setting × String)}
    (h : Interleaves messages options arguments) {trailing : List String}
    (htrailing : IsTrailing trailing) :
    Means s library read messages options (arguments ++ trailing) ∧
      (∀ arguments' trailing', Interleaves messages options arguments' → IsTrailing trailing' →
        executeOnRecord s library read (arguments' ++ trailing')
          = executeOnRecord s library read (arguments ++ trailing)) ∧
      ∀ word ∈ helpWords, ∀ rest read',
        executeOnRecord s library read' (arguments ++ word :: rest)
            = ({ lines := usage, ending := .success }, []) ∧
          (execute s library read' (arguments ++ word :: rest)).ending.exitCode = 0 := by
  refine ⟨⟨fst_executeOnRecord s library read _, fun p hp => ?_, fun c p hc hp => ?_,
    fun c config hc hconfig => ?_⟩, fun arguments' trailing' h' htrailing' => ?_,
    fun word hword rest read' => executeOnRecord_help h hword rest⟩
  · exact executeOnRecord_of_error h htrailing (by rw [configFor, hp])
  · exact executeOnRecord_of_error h htrailing (by rw [configFor, hc]; exact hp)
  · exact executeOnRecord_of_ok h htrailing (by rw [configFor, hc]; exact hconfig)
  · rw [executeOnRecord_of_interleaves h' htrailing', executeOnRecord_of_interleaves h htrailing]

end

/-- A disk with a single file, which is called like an option. -/
def oddDisk : FileReader := fun path =>
  if path = "-d" then .ok (Utf8.encode "[link]\nbaud = 1200\n") else .error .notFound

/-- What remains of the options in the end. -/
def oddConfig : ValidConfig := { link := { device := "--help", baud := 1200 }, valid := by decide }

/-- Values that look like options or ask for help, a file that is named in vain, a line speed that
is taken back, a message that looks like an option, and an option without a value. -/
theorem odd_command_line_means_its_lists :
    let options : List (Setting × String) := [(.config, "a.toml"), (.device, "--help"),
      (.baud, "9600"), (.config, "-d"), (.baud, "fast")]
    let arguments := ["hello", "-c", "a.toml", "-d", "--help", "--baud", "9600", "-x", "--config",
      "-d", "-b", "fast"]
    Interleaves ["hello", "-x"] options arguments ∧ IsTrailing ["--device"] ∧
      execute surroundings Toml.library oddDisk (arguments ++ ["--device"])
        = run surroundings oddConfig ["hello", "-x"] ∧
      (executeOnRecord surroundings Toml.library oddDisk (arguments ++ ["-h", "--baud"])).1.lines
        = usage := by
  intro options arguments
  have h : Interleaves ["hello", "-x"] options arguments :=
    .message (by decide) <| .option (by decide) _ <| .option (by decide) _ <|
      .option (by decide) _ <| .message (by decide) <| .option (by decide) _ <|
      .option (by decide) _ .nil
  have htrailing : IsTrailing ["--device"] := .inr ⟨.device, "--device", by decide, rfl⟩
  obtain ⟨hmeans, -, hhelp⟩ :=
    command_line_means_its_lists surroundings Toml.library oddDisk h htrailing
  have hvalid : (layOver options { link := { baud := 1200 } }).validate = .ok oddConfig :=
    Config.validate_of_none oddConfig.valid
  refine ⟨h, htrailing, (hmeans.valid _ oddConfig rfl hvalid).2, ?_⟩
  rw [(hhelp "-h" (by decide) ["--baud"] oddDisk).1]

end SerialBridge.Echo
