import JsxDetect.Proofs.Command.LogIndependence
import JsxDetect.Proofs.Log.JsonLines
import JsxDetect.Proofs.Text.RoundTrip

/-!
# The JSON log of a call

Scripts that want to know what a call did read its JSON log.  This module shows that they read
what the library tells: with the name of a level for a filter, a call writes one line for each
event that is important enough, in order, and each line says what the event is, whatever texts it
carries.  What users are told of a failure comes behind the log.

## Main Definitions

* `Level.word`: the name of a level in a filter
* `Level.covers`: the events that a level is detailed enough for

## Main Results

* `enables_word`: a filter that is a level shows what this level covers
* `json_log_lines`: the lines of the log are the events of the run

## Design Notes

Three results are put together here: which events a filter shows (`enables_word`), that the line of
an event is read back as the event, and that a call writes its log before all else.  The name of the
format may be in any letters, as the program compares it without regard to case.  Nothing depends on
what texts the events carry, since a line is one for all texts.
-/

namespace JsxDetect

namespace Level

/-- The name in a filter. -/
def word : Level → String
  | error => "error"
  | warn => "warn"
  | info => "info"
  | debug => "debug"
  | trace => "trace"

/-- Is the level detailed enough for an event? -/
def covers (level : Level) (event : Event) : Bool := event.level.detail ≤ level.detail

end Level

/-! ### Levels as filters -/

/-- The name of a level is a filter with one directive, for all targets. -/
theorem parse_word (level : Level) :
    Filter.parse none level.word.toList = ⟨[⟨some level, none, false, none⟩]⟩ := by
  cases level <;> decide +kernel

theorem complaints_word (level : Level) : Filter.complaints level.word.toList = [] := by
  cases level <;> decide +kernel

/-- A filter that is a level shows what this level covers. -/
theorem enables_word (level : Level) (event : Event) :
    (Filter.parse none level.word.toList).enables event = level.covers event := by
  rw [parse_word]
  simp [Filter.enables, Directive.concerns, Directive.decisive, Directive.shows, Level.covers]

section Calls

variable {access : Bytes → Access} {environment : Environment} {request : Request}
  {level : Level} {format : List Char}

/-- The log of a call with a level for a filter and the name of a format in any letters. -/
theorem logging_of_word (filter : environment filterVariable = some (Utf8.encodeString level.word))
    (named : environment formatVariable = some (Utf8.encode format))
    (json : format.map Char.toLower = "json".toList) :
    Logging.of? environment = some ⟨Filter.parse none level.word.toList, .json, []⟩ := by
  have formatOf : Logging.formatOf environment = .json := by
    rw [Logging.formatOf, Environment.text?, named, Option.bind_some, Utf8.decode?_encode]
    exact if_pos json
  rw [Logging.of?, Environment.text?, filter, Option.bind_some, Utf8.encodeString,
    Utf8.decode?_encode]
  simp [Logging.ofText, complaints_word, formatOf]

/-- The lines of a JSON log say what the events are that its filter shows. -/
theorem lines_json (filter : Filter) (timestamp : List Char) (events : List Event) :
    ∃ lines, Logging.lines ⟨filter, .json, []⟩ timestamp events = lines.flatMap (· ++ ['\n']) ∧
      List.Forall₂ (Event.SaidBy timestamp) (events.filter filter.enables) lines := by
  refine ⟨(events.filter filter.enables).map (Event.jsonLine timestamp), ?_, ?_⟩
  · rw [List.flatMap_map]
    rfl
  · rw [List.forall₂_map_right_iff]
    exact List.forall₂_same.mpr fun event _ => event.saidBy_jsonLine timestamp

/-- What a run tells users of a failure: nothing, or a line with the failure that it tells last. -/
theorem stderr_wholeRun (access : Bytes → Access) (request : Request) :
    ∃ ending, (request.wholeRun access).stderr = Utf8.encode ending ∧
      (request.quiet = true ∨ (request.wholeRun access).exit ≠ .failure → ending = []) ∧
      (request.quiet = false → (request.wholeRun access).exit = .failure →
        ∃ message, (request.wholeRun access).events.getLast? = some (.failed message) ∧
          ending = "Error: ".toList ++ message.toList ++ ['\n']) := by
  rcases failsWith_or_answersWith access request with ⟨failure, fails⟩ | ⟨input, jsx, answers⟩
  · rw [wholeRun_of_failsWith fails, Run.failed_eq]
    refine ⟨failureText request failure, rfl, ?_, fun loud _ => ?_⟩
    · rintro (quiet | succeeds)
      · simp [failureText_eq, quiet]
      · exact absurd rfl succeeds
    · exact ⟨failure.message, List.getLast?_concat, by simp [failureText_eq, loud]⟩
  · rw [wholeRun_of_answersWith answers]
    refine ⟨[], rfl, fun _ => rfl, fun _ failed => ?_⟩
    cases jsx <;> cases failed

/-- **The lines of a JSON log are the events of the run.**  The log comes first: a line for each
event that the level covers, in order, which says what the event is, whatever texts it carries.
What users are told of a failure, unless nothing is to be written, is all that comes behind. -/
theorem json_log_lines (access : Bytes → Access) (environment : Environment)
    (timestamp : List Char) (arguments : List Bytes) (request : Request) (level : Level)
    (format : List Char) (asked : parseArguments arguments = .run request)
    (filter : environment filterVariable = some (Utf8.encodeString level.word))
    (named : environment formatVariable = some (Utf8.encode format))
    (json : format.map Char.toLower = "json".toList) :
    let run := request.wholeRun access
    ∃ lines ending,
      Utf8.decode? (program access environment timestamp arguments).stderr =
        some (lines.flatMap (· ++ ['\n']) ++ ending) ∧
      List.Forall₂ (Event.SaidBy timestamp) (run.events.filter level.covers) lines ∧
      (request.quiet = true ∨ run.exit ≠ .failure → ending = []) ∧
      (request.quiet = false → run.exit = .failure →
        ∃ message, run.events.getLast? = some (.failed message) ∧
          ending = "Error: ".toList ++ message.toList ++ ['\n']) := by
  intro run
  obtain ⟨lines, log, each⟩ := lines_json (Filter.parse none level.word.toList) timestamp run.events
  obtain ⟨ending, told, silent, loud⟩ := stderr_wholeRun access request
  have shown : (Filter.parse none level.word.toList).enables = level.covers :=
    funext (enables_word level)
  have written : (program access environment timestamp arguments).stderr =
      Utf8.encode (lines.flatMap (· ++ ['\n']) ++ ending) := by
    have called : execute access arguments .unlimited .unlimited = .ran run := by
      rw [execute, asked]
      rfl
    rw [program_eq, called, logging_of_word filter named json, Utf8.encode, List.flatMap_append,
      ← log]
    exact congrArg (_ ++ ·) told
  rw [shown] at each
  refine ⟨lines, ending, ?_, each, silent, loud⟩
  rw [written, Utf8.decode?_encode]

/-- A call about a file whose name would end a literal and a line, and begin another record. -/
theorem json_log_lines_breaking_out :
    let access : Bytes → Access := fun _ => .refused .notFound
    let path := "\"\x7d\n\x7b\\"
    let arguments := ["has-jsx", "-qf", path].map Utf8.encodeString
    let request : Request := ⟨none, some path, false, true⟩
    let environment : Environment := fun name =>
      if name = filterVariable then some (Utf8.encodeString "debug")
      else if name = formatVariable then some (Utf8.encodeString "jSoN")
      else none
    parseArguments arguments = .run request ∧
    ∃ lines ending,
      Utf8.decode? (program access environment [] arguments).stderr =
        some (lines.flatMap (· ++ ['\n']) ++ ending) ∧
      List.Forall₂ (Event.SaidBy []) [.failed ("File not found: " ++ path)] lines ∧
      ending = [] := by
  intro access path arguments request environment
  have asked : parseArguments arguments = .run request := by decide +kernel
  obtain ⟨lines, ending, written, each, silent, -⟩ :=
    json_log_lines access environment [] arguments request .debug "jSoN".toList asked rfl rfl rfl
  have events : (request.wholeRun access).events.filter Level.debug.covers =
      [.failed ("File not found: " ++ path)] := by decide +kernel
  rw [events] at each
  exact ⟨asked, lines, ending, written, each, silent (.inl rfl)⟩

end Calls

end JsxDetect
