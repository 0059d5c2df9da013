import JsxDetect.Command.Program
import Std.Time.Format

/-!
# The command line

Reads the arguments, the environment and the file that is asked for, and writes what the program
comes to.

## Main Definitions

* `main`
-/

namespace JsxDetect

/-- The number of an error; some systems count them downwards. -/
def errorNumber (code : UInt32) : Nat := min code.toNat (0x100000000 - code.toNat)

/-- What becomes of reading a file, when an error occurred. -/
def accessOfError : IO.Error → Access
  | .noFileOrDirectory .. => .refused .notFound
  | .inappropriateType _ code details | .illegalOperation code details
  | .invalidArgument _ code details | .hardwareFault code details | .otherError code details =>
    match errorNumber code with
    | 5 => .unreadable .inputOutput
    | 20 => .refused .notDirectory
    | 21 => .notAFile
    | 36 => .refused .nameTooLong
    | 40 => .refused .tooManyLinks
    | _ => .refused (.other details)
  | error => .refused (.other (toString error))

/-- What becomes of reading the file at a path. -/
def readFile (path : String) : IO Access := do
  try
    let content ← IO.FS.readBinFile path
    return .content content.toList
  catch error => return accessOfError error

/-- The present time, as logs show it. -/
def timestamp : IO String := do
  let now ← Std.Time.Timestamp.now
  let format : Std.Time.GenericFormat .any := datespec("uuuu-MM-dd'T'HH:mm:ss.SSSSSS'Z'")
  return format.format (Std.Time.DateTime.ofTimestamp now .UTC)

/-- The variables of the environment that the program knows. -/
def readEnvironment : IO Environment := do
  let names := [filterVariable, fallbackVariable, formatVariable, colourVariable]
  let pairs ← names.mapM fun name => return (name, ← IO.getEnv name)
  return fun name => ((pairs.lookup name).bind id).map Utf8.encodeString

/-- Writes bytes to a stream, as far as it takes them. -/
def writeTo (stream : IO.FS.Stream) (bytes : Bytes) : IO Unit := do
  try
    stream.write (ByteArray.mk bytes.toArray)
    stream.flush
  catch _ => return ()

end JsxDetect

open JsxDetect in
/-- Runs the program. -/
def main (arguments : List String) : IO UInt32 := do
  let arguments := Utf8.encodeString programName :: arguments.map Utf8.encodeString
  let access ← match requestedFile arguments with
    | some path => readFile path
    | none => pure .notAFile
  let completed := program (fun _ => access) (← readEnvironment) (← timestamp).toList arguments
  writeTo (← IO.getStdout) completed.stdout
  writeTo (← IO.getStderr) completed.stderr
  return UInt32.ofNat completed.code
