import JsxDetect.Command.Arguments
import JsxDetect.Command.Run
import JsxDetect.Log.Filter
import JsxDetect.Log.Format

/-!
# The program

What a call of the program comes to: its exit code and all that it writes.  A log is kept only
if the environment asks for one; it goes where failures are told, before them.

## Main Definitions

* `Environment`, `Logging`
* `execute`: a call without a log
* `program`: a call as a whole

## Design Notes

A call is computed in two steps: what it comes to without a log, with the events, and then the log
of these events.  Events are data, so a log is a function of them and cannot change what a call
does.  What is left to the outer layer is reading the environment and the file, and writing two
streams.
-/

namespace JsxDetect

/-! ### Logging -/

/-- The variable that holds the filter of the log. -/
def filterVariable : String := "HAS_JSX_LOG"

/-- The variable that holds the filter if the other one does not. -/
def fallbackVariable : String := "RUST_LOG"

/-- The variable that holds the format of the log. -/
def formatVariable : String := "HAS_JSX_LOG_FORMAT"

/-- The variable that forbids colours, unless it is empty. -/
def colourVariable : String := "NO_COLOR"

/-- The variables of a call that are set. -/
abbrev Environment := String → Option Bytes

/-- The value of a variable, if it is set and a text. -/
def Environment.text? (environment : Environment) (name : String) : Option (List Char) :=
  (environment name).bind Utf8.decode?

/-- What log is kept. -/
structure Logging where
  filter : Filter
  format : LogFormat
  /-- What is wrong with the filter. -/
  complaints : List Char

namespace Logging

/-- The format of a log. -/
def formatOf (environment : Environment) : LogFormat :=
  let name := (environment.text? formatVariable).getD []
  if name.map Char.toLower = "json".toList then .json
  else .text ((environment.text? colourVariable).all (·.isEmpty))

/-- The log with the filter of a text. -/
def ofText (format : LogFormat) (default : Option Directive) (text : List Char) : Logging :=
  ⟨Filter.parse default text, format, Filter.complaints text⟩

/-- The log that an environment asks for.  Only the filter in place of the other one shows errors
by default. -/
def of? (environment : Environment) : Option Logging :=
  let format := formatOf environment
  match environment.text? filterVariable with
  | some text => some (ofText format none text)
  | none => (environment.text? fallbackVariable).map (ofText format (some Directive.errors))

/-- The log of some events. -/
def lines (logging : Logging) (timestamp : List Char) (events : List Event) : List Char :=
  (events.filter logging.filter.enables).flatMap (logging.format.line timestamp)

end Logging

/-! ### Calls -/

/-- What comes of a call. -/
inductive Execution where
  | ran (run : Run)
  | info (notice : Notice) (program : List Char)
  | usage (complaint : Complaint) (program : List Char)

/-- Does what some arguments mean, the first of which is the path of the program. -/
def execute (access : Bytes → Access) (arguments : List Bytes) (answers errors : Sink) :
    Execution :=
  match parseArguments arguments with
  | .run request => .ran (run access request answers errors)
  | .info notice program => .info notice program
  | .usage complaint program => .usage complaint program

/-- The file that a call reads, the only one if any. -/
def requestedFile (arguments : List Bytes) : Option String :=
  match parseArguments arguments with
  | .run request =>
    match request.input with
    | some (.file path) => some path
    | _ => none
  | _ => none

/-- What a call comes to for others. -/
structure Completed where
  code : Nat
  stdout : Bytes
  stderr : Bytes
  deriving Repr, DecidableEq

/-- A call of the program in an environment, all events of which happen at one time. -/
def program (access : Bytes → Access) (environment : Environment) (timestamp : List Char)
    (arguments : List Bytes) : Completed :=
  let logging := Logging.of? environment
  let complaints := logging.elim [] (·.complaints)
  match execute access arguments .unlimited .unlimited with
  | .ran run =>
    let log := logging.elim [] (·.lines timestamp run.events)
    ⟨run.exit.code, run.stdout, Utf8.encode (complaints ++ log) ++ run.stderr⟩
  | .info notice program =>
    ⟨0, Utf8.encode (notice.text program), Utf8.encode complaints⟩
  | .usage complaint program =>
    ⟨Exit.failure.code, [], Utf8.encode (complaints ++ complaint.text program)⟩

end JsxDetect
