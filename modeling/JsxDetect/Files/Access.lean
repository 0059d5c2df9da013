import JsxDetect.Text.Utf8

/-!
# Reading files

The little that is asked of a file system: what becomes of an attempt to read the file at a
path.  Loading is defined over these answers alone, so it is the same for a model of a file
system and for a real one.

## Main Definitions

* `OsError`, `OsError.text`
* `Access`
-/

namespace JsxDetect

/-- Why an operating system refuses. -/
inductive OsError where
  | notFound
  | inputOutput
  | busy
  | alreadyThere
  | notDirectory
  | isDirectory
  | invalidArgument
  | nameTooLong
  | notEmpty
  | tooManyLinks
  /-- A path with a null byte never reaches the system. -/
  | nullInPath
  /-- Any other reason, as the system words it. -/
  | other (text : String)
  deriving Repr, DecidableEq

/-- The wording in messages. -/
def OsError.text : OsError → String
  | notFound => "No such file or directory (os error 2)"
  | inputOutput => "Input/output error (os error 5)"
  | busy => "Device or resource busy (os error 16)"
  | alreadyThere => "File exists (os error 17)"
  | notDirectory => "Not a directory (os error 20)"
  | isDirectory => "Is a directory (os error 21)"
  | invalidArgument => "Invalid argument (os error 22)"
  | nameTooLong => "File name too long (os error 36)"
  | notEmpty => "Directory not empty (os error 39)"
  | tooManyLinks => "Too many levels of symbolic links (os error 40)"
  | nullInPath => "file name contained an unexpected NUL byte"
  | other text => text

/-- What becomes of reading the file at a path. -/
inductive Access where
  /-- The path leads nowhere. -/
  | refused (cause : OsError)
  /-- The path leads to something else than a regular file. -/
  | notAFile
  /-- The path leads to a regular file that cannot be read. -/
  | unreadable (cause : OsError)
  /-- The path leads to a regular file. -/
  | content (bytes : Bytes)
  deriving Repr, DecidableEq

end JsxDetect
