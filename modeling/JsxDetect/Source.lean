import JsxDetect.Detection
import JsxDetect.Failure
import JsxDetect.Files.FileSystem

/-!
# Where texts come from

A text to look at is the content of a file or a value of unknown type.  Looking for JSX in
either is looking for it in that text, with the events of getting it before the others.

## Main Definitions

* `Outcome`: a result or a failure, with what there is to report
* `load`: the text of a file
* `Value`, `accept`: the text that a value is
* `detectFile`, `detectValue`
-/

namespace JsxDetect

/-- What comes of an attempt. -/
structure Outcome (α : Type) where
  /-- The result, or why there is none. -/
  result : Except Failure α
  /-- What there is to report. -/
  events : List Event

namespace Outcome

variable {α β : Type}

/-- Goes on with a result, reporting what comes of that as well. -/
def andThen (first : Outcome α) (next : α → Outcome β) : Outcome β :=
  match first.result with
  | .error failure => ⟨.error failure, first.events⟩
  | .ok value =>
    let second := next value
    ⟨second.result, first.events ++ second.events⟩

end Outcome

/-- The answer for a text, as something that cannot fail. -/
def Detection.outcome (d : Detection) : Outcome Bool := ⟨.ok d.jsx, d.events⟩

/-! ### Files -/

/-- The text of a file whose content was read.  What is ill-formed in it is replaced. -/
def decodeFile (path content : Bytes) : Outcome (List Char) :=
  let shown := Failure.showPath path
  let loaded := Event.fileLoaded shown content.length
  match Utf8.decode? content with
  | some text => ⟨.ok text, [loaded]⟩
  | none => ⟨.ok (Utf8.decodeLossy content), [loaded, .invalidUtf8 shown]⟩

/-- The text of the file at a path, when `access` tells what becomes of reading files. -/
def load (access : Bytes → Access) (path : Bytes) : Outcome (List Char) :=
  match access path with
  | .refused .notFound => ⟨.error (.notFound path), []⟩
  | .refused cause => ⟨.error (.read path cause), []⟩
  | .notAFile => ⟨.error (.notAFile path), []⟩
  | .unreadable cause => ⟨.error (.read path cause), []⟩
  | .content content => decodeFile path content

/-- Looks for JSX in a file. -/
def detectFile (access : Bytes → Access) (path : Bytes) : Outcome Bool :=
  (load access path).andThen fun text => (detectIn text).outcome

/-! ### Values -/

/-- A value of unknown type; of all but strings, only the type matters. -/
inductive Value where
  | absent
  | null
  | boolean
  | number
  | string (text : String)
  | array
  | object
  deriving Repr, DecidableEq

/-- The name of the type of a value. -/
def Value.kind : Value → String
  | absent => "undefined"
  | null => "null"
  | boolean => "boolean"
  | number => "number"
  | string _ => "string"
  | array => "array"
  | object => "object"

/-- The text that a value is, which it must be as it stands. -/
def accept : Value → Outcome String
  | .string text => ⟨.ok text, []⟩
  | other => ⟨.error (.typeMismatch other.kind), []⟩

/-- Looks for JSX in a value. -/
def detectValue (value : Value) : Outcome Bool :=
  (accept value).andThen fun text => (detect text).outcome

end JsxDetect
