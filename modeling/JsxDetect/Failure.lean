import JsxDetect.Files.Access

/-!
# Failures

What can go wrong before there is an answer, and how it is told.

## Main Definitions

* `Failure`
* `Failure.message`, `Failure.cause?`
-/

namespace JsxDetect

/-- Why there is no answer. -/
inductive Failure where
  /-- There is no file at a path. -/
  | notFound (path : Bytes)
  /-- There is something else than a regular file at a path. -/
  | notAFile (path : Bytes)
  /-- The file at a path cannot be read. -/
  | read (path : Bytes) (cause : OsError)
  /-- A value is not a string but of another kind. -/
  | typeMismatch (found : String)
  /-- There is nothing to look at. -/
  | missingInput
  /-- The answer cannot be written. -/
  | output (cause : String)
  /-- The report cannot be made. -/
  | report (cause : String)
  deriving Repr, DecidableEq

namespace Failure

/-- A path in a message; what is no text in it is replaced. -/
def showPath (path : Bytes) : String := String.ofList (Utf8.decodeLossy path)

/-- What a user is told. -/
def message : Failure → String
  | notFound path => "File not found: " ++ showPath path
  | notAFile path => "Path is not a file: " ++ showPath path
  | read path cause => "Failed to read " ++ showPath path ++ ": " ++ cause.text
  | typeMismatch found => "Expected source to be a string, got " ++ found
  | missingInput => "No input provided. Use -f <filepath> or provide source code string."
  | output cause => "Failed to write output: " ++ cause
  | report cause => "Failed to serialize report: " ++ cause

/-- What the failure goes back to, if it comes from elsewhere. -/
def cause? : Failure → Option String
  | read _ cause => some cause.text
  | output cause => some cause
  | report cause => some cause
  | _ => none

end Failure

end JsxDetect
