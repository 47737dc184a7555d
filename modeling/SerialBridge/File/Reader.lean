/-!
# Reading files

A `FileReader` is anything that answers a path with bytes, or with the reason why there are none.
The wording of a reason is that of the system, with its number for the kind of failure.
-/

namespace SerialBridge

/-- Why a file could not be read. -/
inductive ReadFailure where
  /-- There is no such file. -/
  | notFound
  /-- It is a directory. -/
  | isDirectory
  /-- The path goes on where there is no directory. -/
  | notDirectory
  /-- The path, or a name on it, is longer than the system allows. -/
  | nameTooLong
  /-- Its bytes are not UTF-8. -/
  | notText
  /-- Its name holds a NUL. -/
  | nulInName
  /-- Something else, in the words of the system. -/
  | other (reason : String)
deriving DecidableEq

/-- The text of a failure to read. -/
def ReadFailure.message : ReadFailure → String
  | .notFound => "No such file or directory (os error 2)"
  | .isDirectory => "Is a directory (os error 21)"
  | .notDirectory => "Not a directory (os error 20)"
  | .nameTooLong => "File name too long (os error 36)"
  | .notText => "stream did not contain valid UTF-8"
  | .nulInName => "file name contained an unexpected NUL byte"
  | .other reason => reason

/-- Reads the bytes of a file. -/
abbrev FileReader := String → Except ReadFailure (List UInt8)

end SerialBridge
