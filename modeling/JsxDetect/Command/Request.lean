/-!
# Requests

What a user can ask of the program.

## Main Definitions

* `Request`
* `Input`, `Request.input`: what a request is about
-/

namespace JsxDetect

/-- What is asked of a run. -/
structure Request where
  /-- A text to look at. -/
  source : Option String
  /-- The path of a file to look at. -/
  file : Option String
  /-- Shall the answer be a report? -/
  verbose : Bool
  /-- Shall nothing be written? -/
  quiet : Bool
  deriving Repr, DecidableEq

/-- What a run is about. -/
inductive Input where
  | file (path : String)
  | source (text : String)
  deriving Repr, DecidableEq

namespace Request

/-- A value that is not empty. -/
def nonEmpty (value : Option String) : Option String := value.filter (· ≠ "")

/-- What the request is about.  A file wins over a text; empty values count as absent. -/
def input (r : Request) : Option Input :=
  ((nonEmpty r.file).map Input.file).or ((nonEmpty r.source).map Input.source)

end Request

end JsxDetect
