import SerialBridge.Echo.Program
import SerialBridge.Toml.Record

/-!
# The echo program as an executable

The outer layer: it reads the configuration file, if one is asked for, and prints what the program
prints.
-/

namespace SerialBridge.Echo

/-- The failure with this number, which the system describes like this. Some calls give the
number with its sign changed. -/
def failureOfCode (code : UInt32) (details : String) : ReadFailure :=
  match code.toInt32.toInt.natAbs with
  | 2 => .notFound
  | 20 => .notDirectory
  | 21 => .isDirectory
  | 36 => .nameTooLong
  | n => .other s!"{details.capitalize} (os error {n})"

/-- Reads a file. -/
def readFile (path : String) : IO (Except ReadFailure (List UInt8)) := do
  if '\x00' ∈ path.toList then return .error .nulInName
  try
    let bytes ← IO.FS.readBinFile path
    return .ok bytes.toList
  catch
    | .noFileOrDirectory _ code details
    | .permissionDenied _ code details
    | .inappropriateType _ code details
    | .invalidArgument _ code details => return .error (failureOfCode code details)
    | e => return .error (.other e.toString)

/-- A reader that knows what the one file that the arguments name holds. -/
def readerFor (arguments : List String) : IO FileReader := do
  match (Arguments.read arguments).bind Arguments.configPath with
  | some path =>
    let answer ← readFile path
    return fun _ => answer
  | none => return fun _ => .error .notFound

end SerialBridge.Echo

/-- Runs the echo program on the arguments of the command line. -/
def main (arguments : List String) : IO UInt32 := do
  let read ← SerialBridge.Echo.readerFor arguments
  let transcript := SerialBridge.Echo.execute SerialBridge.Echo.surroundings
    SerialBridge.Toml.library read arguments
  for line in transcript.lines do
    IO.println line.text
  IO.eprint transcript.ending.complaint
  return transcript.ending.exitCode.toUInt32
