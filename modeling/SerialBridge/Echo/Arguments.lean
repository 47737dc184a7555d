import SerialBridge.Config.File

/-!
# Arguments of the echo program

Arguments are read from left to right. An option takes the argument after it, whatever that looks
like; an option at the very end has no value and does not count. Of several values for one option
the last counts. What is no option is a message.

A line speed that is not a number does not count either, and it still takes the place of an
earlier one.
-/

namespace SerialBridge.Echo

/-- A setting that an option may give. -/
inductive Setting where
  /-- The configuration file. -/
  | config
  /-- The device. -/
  | device
  /-- The line speed. -/
  | baud
deriving DecidableEq

/-- What an argument is where no value is expected. -/
inductive Word where
  /-- An option with a value. -/
  | option (setting : Setting)
  /-- A request for help. -/
  | help
  /-- A message. -/
  | message (text : String)
deriving DecidableEq

/-- Classifies an argument where no value is expected. -/
def Word.ofString (argument : String) : Word :=
  if argument = "--config" ∨ argument = "-c" then .option .config
  else if argument = "--device" ∨ argument = "-d" then .option .device
  else if argument = "--baud" ∨ argument = "-b" then .option .baud
  else if argument = "--help" ∨ argument = "-h" then .help
  else .message argument

/-- The line speed that a text stands for: decimal digits, perhaps after a plus. -/
def baud? (text : String) : Option UInt32 :=
  let digits := match text.toList with
    | '+' :: rest => rest
    | cs => cs
  let value := digits.foldl (fun n c => n * 10 + (c.toNat - '0'.toNat)) 0
  if !digits.isEmpty && digits.all Char.isDigit && value < UInt32.size then
    some (UInt32.ofNat value)
  else none

/-- What the arguments ask for. -/
structure Arguments where
  /-- The configuration file, if one is named. -/
  configPath : Option String := none
  /-- The device, if one is named. -/
  device : Option String := none
  /-- The line speed, if one is given. -/
  baud : Option UInt32 := none
  /-- The messages, in order. -/
  messages : List String := []
deriving DecidableEq

namespace Arguments

/-- Takes in the value of an option. -/
def set (a : Arguments) (value : String) : Setting → Arguments
  | .config => { a with configPath := some value }
  | .device => { a with device := some value }
  | .baud => { a with baud := baud? value }

/-- Takes in further arguments. There is no answer if one of them asks for help. -/
def readMore : List String → Arguments → Option Arguments
  | [], a => some a
  | argument :: rest, a =>
    match Word.ofString argument, rest with
    | .help, _ => none
    | .message text, rest => readMore rest { a with messages := a.messages ++ [text] }
    | .option _, [] => some a
    | .option setting, value :: rest => readMore rest (a.set value setting)

/-- Reads the arguments. There is no answer if one of them asks for help. -/
def read (arguments : List String) : Option Arguments := readMore arguments {}

/-- The messages to send: those that were given, or a single standard one. -/
def toSend (a : Arguments) : List String := if a.messages.isEmpty then ["PING"] else a.messages

/-- The configuration with the options laid over it. -/
def overlay (a : Arguments) (c : Config) : Config :=
  { c with link := { device := a.device.getD c.link.device, baud := a.baud.getD c.link.baud } }

/-- The configuration to work with. The file has to be in order by itself, and then together with
the options. -/
def config (library : Toml.Library) (read : FileReader) (a : Arguments) :
    Except ConfigProblem ValidConfig :=
  match a.configPath with
  | none => (a.overlay {}).validate
  | some path =>
    match Config.load library read path with
    | .error p => .error p
    | .ok c => (a.overlay c.toConfig).validate

end Arguments

end SerialBridge.Echo
