import JsxDetect.Command.Request
import JsxDetect.Command.Sink
import JsxDetect.Source
import JsxDetect.Text.Quoted

/-!
# Runs

A run looks for JSX in what a request is about and writes the answer.  What is written goes to
sinks that may become full; an answer that does not fit makes the run fail, while a failure
that cannot be told is still the same failure.

## Main Definitions

* `Exit`
* `report`: the answer as a JSON document
* `judge`: the answer to a request
* `run`: a run as a whole
-/

namespace JsxDetect

/-- How a run ends. -/
inductive Exit where
  | detected
  | notDetected
  | failure
  deriving Repr, DecidableEq

namespace Exit

/-- The exit code. -/
def code : Exit → Nat
  | detected => 0
  | notDetected => 1
  | failure => 2

/-- How a run with an answer ends. -/
def ofAnswer (jsx : Bool) : Exit := if jsx then detected else notDetected

end Exit

/-! ### Answers -/

/-- A member of the report, on a line of its own. -/
def reportLine (name : String) (value : List Char) : List Char :=
  ' ' :: ' ' :: quote name.toList ++ ':' :: ' ' :: value

/-- The answer for an input as a JSON document. -/
def report (jsx : Bool) (input : Input) : List Char :=
  let (type, name, text) :=
    match input with
    | .file path => ("file", "file", path)
    | .source text => ("string", "source", text)
  '\x7b' :: '\n' ::
    reportLine "hasJSX" (if jsx then "true" else "false").toList ++ ',' :: '\n' ::
    reportLine "inputType" (quote type.toList) ++ ',' :: '\n' ::
    reportLine name (quote text.toList) ++ '\n' :: ['\x7d']

/-- What a run with an answer writes, piece by piece. -/
def answerPieces (request : Request) (input : Input) (jsx : Bool) : List (List Char) :=
  if request.quiet then []
  else if request.verbose then [report jsx input, ['\n']]
  else if jsx then ["JSX detected\n".toList]
  else ["No JSX detected\n".toList]

/-- What a run with an answer writes. -/
def answerText (request : Request) (input : Input) (jsx : Bool) : List Char :=
  (answerPieces request input jsx).flatten

/-- What a run that failed writes, piece by piece. -/
def failurePieces (request : Request) (failure : Failure) : List (List Char) :=
  if request.quiet then [] else ["Error: ".toList, failure.message.toList, ['\n']]

/-- What a run that failed writes. -/
def failureText (request : Request) (failure : Failure) : List Char :=
  (failurePieces request failure).flatten

theorem answerText_eq (request : Request) (input : Input) (jsx : Bool) :
    answerText request input jsx =
      if request.quiet then []
      else if request.verbose then report jsx input ++ ['\n']
      else if jsx then "JSX detected\n".toList
      else "No JSX detected\n".toList := by
  simp only [answerText, answerPieces]
  repeat' split
  all_goals simp

theorem failureText_eq (request : Request) (failure : Failure) :
    failureText request failure =
      if request.quiet then [] else "Error: ".toList ++ failure.message.toList ++ ['\n'] := by
  simp only [failureText, failurePieces]
  split <;> simp

/-- Looks for JSX in an input. -/
def detectInput (access : Bytes → Access) : Input → Outcome Bool
  | .file path => detectFile access (Utf8.encodeString path)
  | .source text => (detect text).outcome

/-- What a request is about, and the answer. -/
def judge (access : Bytes → Access) (request : Request) : Outcome (Input × Bool) :=
  match request.input with
  | none => ⟨.error .missingInput, []⟩
  | some input => (detectInput access input).andThen fun jsx => ⟨.ok (input, jsx), []⟩

/-! ### Runs -/

/-- What comes of a run. -/
structure Run where
  exit : Exit
  /-- What was written of the answer. -/
  stdout : Bytes
  /-- What was written of a failure. -/
  stderr : Bytes
  events : List Event
  deriving Repr, DecidableEq

/-- A run that fails, after some output and events. -/
def Run.failed (request : Request) (errors : Sink) (stdout : Bytes) (events : List Event)
    (failure : Failure) : Run where
  exit := .failure
  stdout := stdout
  stderr := (errors.print (failurePieces request failure)).1
  events := events ++ [.failed failure.message]

/-- Does what is asked, writing answers to one sink and failures to another. -/
def run (access : Bytes → Access) (request : Request) (answers errors : Sink) : Run :=
  let judged := judge access request
  match judged.result with
  | .error failure => Run.failed request errors [] judged.events failure
  | .ok (input, jsx) =>
    let (stdout, complete) := answers.print (answerPieces request input jsx)
    if complete then ⟨.ofAnswer jsx, stdout, [], judged.events⟩
    else Run.failed request errors stdout judged.events (.output Sink.refusal)

/-- A run that fails tells as much of the failure as is taken. -/
theorem Run.failed_eq (request : Request) (errors : Sink) (stdout : Bytes) (events : List Event)
    (failure : Failure) :
    Run.failed request errors stdout events failure =
      ⟨.failure, stdout, errors.accept (Utf8.encode (failureText request failure)),
        events ++ [.failed failure.message]⟩ := by
  rw [Run.failed, Sink.print_eq]
  rfl

/-- A run with an answer that is not taken as a whole fails. -/
theorem run_eq (access : Bytes → Access) (request : Request) (answers errors : Sink) :
    run access request answers errors =
      match (judge access request).result with
      | .error failure => Run.failed request errors [] (judge access request).events failure
      | .ok (input, jsx) =>
        let text := Utf8.encode (answerText request input jsx)
        if answers.fits text then ⟨.ofAnswer jsx, text, [], (judge access request).events⟩
        else Run.failed request errors (answers.accept text) (judge access request).events
          (.output Sink.refusal) := by
  simp only [run, Sink.print_eq]
  cases (judge access request).result with
  | error failure => rfl
  | ok answer =>
    change (if answers.fits (Utf8.encode (answerText request answer.1 answer.2)) = true then _
      else _) = _
    cases fits : answers.fits (Utf8.encode (answerText request answer.1 answer.2)) with
    | true =>
      have whole := (answers.fits_iff _).mp fits
      simp only [fits, if_true]
      exact congrArg (fun text => (⟨.ofAnswer answer.2, text, [], _⟩ : Run)) whole
    | false => simp only [fits, Bool.false_eq_true, if_false]; rfl

end JsxDetect
