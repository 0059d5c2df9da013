import JsxDetect.Command.Request
import JsxDetect.Command.Similarity
import JsxDetect.Command.Usage
import JsxDetect.Files.FileSystem

/-!
# Reading arguments

Arguments are read from left to right.  A value that was read is pending: it is checked only
when the next argument asks for it or the arguments end.  So an unknown argument is complained
about before a value that it follows, while an option that is known has the value checked first.

## Main Definitions

* `Invocation`: what arguments mean
* `Reading`: what was read so far
* `parseArguments`

## Design Notes

When a value is checked decides which of two complaints is heard, and whether help is shown instead.
So what is pending is part of the state of reading, and the check, `resolve`, is made at the same
moments as by the library that the program uses for its arguments.  Unknown arguments are looked up
before the check, known ones after it.
-/

namespace JsxDetect

/-- What the arguments of a call mean. -/
inductive Invocation where
  /-- A run is asked for. -/
  | run (request : Request)
  /-- A notice is asked for, by a program of some name. -/
  | info (notice : Notice) (program : List Char)
  /-- The arguments of a program of some name are wrong. -/
  | usage (complaint : Complaint) (program : List Char)
  deriving Repr, DecidableEq

/-- Why reading ends before the arguments do. -/
inductive Stop where
  | notice (notice : Notice)
  | complaint (complaint : Complaint)
  deriving Repr, DecidableEq

/-- A value that was not checked yet. -/
inductive Pending where
  /-- The path of a file, which may be still to come. -/
  | file (path : Option Bytes)
  | source (text : Bytes)
  deriving Repr, DecidableEq

/-- What was read so far. -/
structure Reading where
  /-- The arguments that were understood, in order. -/
  used : List Argument
  file : Option String
  source : Option String
  pending : Option Pending
  /-- Was there an argument that is not an option? -/
  sourceSeen : Bool
  deriving Repr, DecidableEq

namespace Reading

/-- Before the first argument. -/
def start : Reading := ⟨[], none, none, none, false⟩

/-- The request that was read. -/
def request (r : Reading) : Request :=
  ⟨r.source, r.file, r.used.contains .verbose, r.used.contains .quiet⟩

/-! ### Taking arguments -/

/-- Takes an argument, which must be the first of its kind. -/
def take (r : Reading) (argument : Argument) : Reading × Option Complaint :=
  if r.used.contains argument then
    ({ r with used := r.used.filter (· ≠ argument) }, some (.repeated argument))
  else ({ r with used := r.used ++ [argument] }, none)

/-- Takes an argument with a value, which must be a text. -/
def takeValue (r : Reading) (argument : Argument) (value : Bytes)
    (store : String → Reading → Reading) : Reading × Option Complaint :=
  match r.take argument with
  | (taken, some complaint) => (taken, some complaint)
  | (taken, none) =>
    match Utf8.decode? value with
    | some text => (store (String.ofList text) taken, none)
    | none => (taken, some .notText)

/-- Takes the path of a file. -/
def takeFile (r : Reading) (path : Bytes) : Reading × Option Complaint :=
  r.takeValue .file path fun text taken => { taken with file := some text }

/-- Checks the pending value. -/
def resolve (r : Reading) : Reading × Option Complaint :=
  let settled := { r with pending := none }
  match r.pending with
  | none => (settled, none)
  | some (.file none) => (settled, some .missingFile)
  | some (.file (some path)) => settled.takeFile path
  | some (.source text) =>
    settled.takeValue .source text fun text taken => { taken with source := some text }

/-- Stops for a complaint. -/
def orStop : Reading × Option Complaint → Except Stop Reading
  | (_, some complaint) => .error (.complaint complaint)
  | (r, none) => .ok r

/-- Stops at an argument that is not known, whatever is wrong with the pending value. -/
def unknown {α : Type} (argument : List Char) (tip : Tip) (used : List Argument) :
    Except Stop α :=
  .error (.complaint (.unknown argument tip used))

/-- Takes an option without a value. -/
def option (r : Reading) (argument : Argument) : Except Stop Reading := do
  let r ← orStop r.resolve
  match argument with
  | .help => .error (.notice .help)
  | .version => .error (.notice .version)
  | _ => orStop (r.take argument)

/-- Takes the option for a file, whose path may come with it. -/
def fileOption (r : Reading) (attached : Option Bytes) : Except Stop Reading := do
  let r ← orStop r.resolve
  match attached with
  | some path => orStop (r.takeFile path)
  | none => .ok { r with pending := some (.file none) }

/-! ### The shapes of arguments -/

/-- The byte before options. -/
def dash : UInt8 := 0x2D

/-- The byte before an attached value. -/
def equals : UInt8 := 0x3D

/-- What is before the first equals sign, and what is behind it. -/
def splitValue (bytes : Bytes) : Bytes × Option Bytes :=
  let name := bytes.takeWhile (· ≠ equals)
  match bytes.drop name.length with
  | [] => (name, none)
  | _ :: value => (name, some value)

/-- Stops at a long option that is not known. -/
def unknownLong (r : Reading) (name : Bytes) : Except Stop Reading :=
  let word := Utf8.decodeLossy name
  let used := r.resolve.1.used
  match mostSimilar word (Argument.options.map fun (long, option) => (long.toList, option)) with
  | some option =>
    let long := (Argument.options.find? (·.2 = option)).elim "" (·.1)
    unknown ('-' :: '-' :: word) (.similar ("--" ++ long)) (used ++ [option])
  | none => unknown ('-' :: '-' :: word) .asValue used

/-- Takes a long option; `bytes` is what is behind the dashes. -/
def long (r : Reading) (bytes : Bytes) : Except Stop Reading :=
  let (name, value) := splitValue bytes
  match Argument.options.find? (Utf8.encodeString ·.1 = name) with
  | none => r.unknownLong name
  | some (_, .file) => r.fileOption value
  | some (_, option) =>
    match value with
    | none => r.option option
    | some value =>
      .error (.complaint (.unneededValue option (Utf8.decodeLossy value) (r.used ++ [option])))

/-- The option of a letter, apart from that for a file. -/
def letterOption (letter : UInt8) : Option Argument :=
  if letter = 0x76 then some .verbose
  else if letter = 0x71 then some .quiet
  else if letter = 0x68 then some .help
  else if letter = 0x56 then some .version
  else none

/-- The letter of the option for a file. -/
def fileLetter : UInt8 := 0x66

/-- The path behind the letter of the option for a file. -/
def attachedPath : Bytes → Option Bytes
  | [] => none
  | byte :: rest => some (if byte = equals then rest else byte :: rest)

/-- The first character of some bytes, or all of them if they start with none. -/
def firstShown (bytes : Bytes) : List Char :=
  match Utf8.parts bytes with
  | some c :: _ => [c]
  | _ => Utf8.decodeLossy bytes

/-- Takes the options of a cluster; `bytes` is what is left of it. -/
def cluster (r : Reading) : Bytes → Except Stop Reading
  | [] => .ok r
  | letter :: rest =>
    if letter = fileLetter then r.fileOption (attachedPath rest)
    else match letterOption letter with
      | some option => do cluster (← r.option option) rest
      | none => unknown ('-' :: firstShown (letter :: rest)) .asValue []

/-- Takes an argument that is not an option. -/
def positional (r : Reading) (text : Bytes) : Except Stop Reading :=
  if r.sourceSeen then unknown (Utf8.decodeLossy text) .none []
  else do
    let r ← orStop r.resolve
    .ok { r with pending := some (.source text), sourceSeen := true }

/-- Takes an argument that does not look like an option: the path that is still to come, or one
that is not an option. -/
def plain (r : Reading) (bytes : Bytes) : Except Stop Reading :=
  match r.pending with
  | some (.file none) => .ok { r with pending := some (.file (some bytes)) }
  | _ => r.positional bytes

/-- Takes an argument. -/
def argument (r : Reading) : Bytes → Except Stop Reading
  | 0x2D :: 0x2D :: bytes => r.long bytes
  | 0x2D :: byte :: bytes => r.cluster (byte :: bytes)
  | bytes => r.plain bytes

/-- Takes the arguments behind two dashes, none of which is an option. -/
def positionals (r : Reading) : List Bytes → Except Stop Reading
  | [] => orStop r.resolve
  | text :: rest => do positionals (← r.positional text) rest

/-- Takes all arguments. -/
def arguments (r : Reading) : List Bytes → Except Stop Reading
  | [] => orStop r.resolve
  | argument :: rest =>
    if argument = [dash, dash] then r.positionals rest
    else do arguments (← r.argument argument) rest

end Reading

/-- The name by which a program is called, if its path has one that is a text. -/
def calledName (path : Bytes) : List Char :=
  let name := do
    let last ← ((Path.names path).filter (· ≠ Path.dot)).getLast?
    if last = Path.dotDot then none else Utf8.decode? last
  name.getD programName.toList

/-- What the arguments of a call mean, the first of which is the path of the program. -/
def parseArguments : List Bytes → Invocation
  | [] => .run Reading.start.request
  | path :: arguments =>
    match Reading.start.arguments arguments with
    | .ok r => .run r.request
    | .error (.notice notice) => .info notice (calledName path)
    | .error (.complaint complaint) => .usage complaint (calledName path)

end JsxDetect
