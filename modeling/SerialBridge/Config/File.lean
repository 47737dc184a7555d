import SerialBridge.Config.Document
import SerialBridge.File.Reader
import SerialBridge.Text.Utf8

/-!
# Configuration files

`Config.load` reads a configuration from a file, given a function that reads files and a library
that reads documents. What is wrong with the file counts before anything that is wrong with what it
says.
-/

namespace SerialBridge

/-- Reads a configuration from a file and validates it. -/
def Config.load (library : Toml.Library) (read : FileReader) (path : String) :
    Except ConfigProblem ValidConfig :=
  match read path with
  | .error cause => .error (.unreadable path cause)
  | .ok bytes =>
    match Utf8.decode? bytes with
    | none => .error (.unreadable path .notText)
    | some text => Config.parse library text

end SerialBridge
