import JsxDetect.Command.Program

/-!
# Exit codes and streams

A script that calls the program reads its exit code and, perhaps, one of its two streams.  This
module shows that these never disagree when no log is kept: a call has exactly one exit that its
arguments and the files *warrant*, its code is that of this exit, and the stream that does not
belong to the exit stays empty.

`Warrants` says what exit a call should have, without a look at how a run is carried out: a
notice and an answer are told apart from a complaint and from an input that is missing or
cannot be loaded.  `RunContract` says how the fields of a request enter into its run: which of
its inputs is selected, and that the two modes of output change nothing but the output.

## Main Definitions

* `Environment.Silent`, `Input.text?`
* `Warrants`: the exit that a call should have
* `RunContract`: what the fields of a request decide

## Main Results

* `existsUnique_warrants`: every call warrants exactly one exit
* `run_contract`: every request keeps the contract
* `exit_code_agrees_with_streams`: codes and streams of the program

## Design Notes

**A specification beside the program.**  `Warrants` has a constructor for each reason for an exit
and mentions arguments, files and detection only, not runs.  The theorem is that the program's code
is the warranted one; since exactly one exit is warranted, the constructors neither overlap nor
leave a gap.

**What enters into a run.**  A request has four fields, and `RunContract` tells which of them matter
to what.  `wholeRun_congr` is the reason behind most of it: a run is determined by the selected
input, up to what it writes.
-/

namespace JsxDetect

/-- No variable asks for a log; then the format of a log does not matter. -/
structure Environment.Silent (environment : Environment) : Prop where
  filter : environment filterVariable = none
  fallback : environment fallbackVariable = none

/-- The text of an input, or why it cannot be loaded. -/
def Input.text? (access : Bytes → Access) : Input → Except Failure (List Char)
  | .file path => (load access (Utf8.encodeString path)).result
  | .source text => .ok text.toList

/-- The exit that a call should have. -/
inductive Warrants (access : Bytes → Access) (arguments : List Bytes) : Exit → Prop where
  | notice {notice : Notice} {name : List Char}
      (asked : parseArguments arguments = .info notice name) : Warrants access arguments .detected
  | found {request : Request} {input : Input} {text : List Char}
      (asked : parseArguments arguments = .run request) (selected : request.input = some input)
      (loaded : input.text? access = .ok text) (jsx : (detectIn text).jsx = true) :
      Warrants access arguments .detected
  | notFound {request : Request} {input : Input} {text : List Char}
      (asked : parseArguments arguments = .run request) (selected : request.input = some input)
      (loaded : input.text? access = .ok text) (plain : (detectIn text).jsx = false) :
      Warrants access arguments .notDetected
  | complaint {complaint : Complaint} {name : List Char}
      (asked : parseArguments arguments = .usage complaint name) :
      Warrants access arguments .failure
  | noInput {request : Request}
      (asked : parseArguments arguments = .run request) (missing : request.input = none) :
      Warrants access arguments .failure
  | unloadable {request : Request} {input : Input} {failure : Failure}
      (asked : parseArguments arguments = .run request) (selected : request.input = some input)
      (refused : input.text? access = .error failure) : Warrants access arguments .failure

/-- Why a request cannot be answered. -/
inductive Request.FailsWith (access : Bytes → Access) (request : Request) : Failure → Prop where
  | noInput (missing : request.input = none) : FailsWith access request .missingInput
  | unloadable {input : Input} {failure : Failure} (selected : request.input = some input)
      (refused : input.text? access = .error failure) : FailsWith access request failure

/-- The answer to a request. -/
def Request.AnswersWith (access : Bytes → Access) (request : Request) (input : Input)
    (jsx : Bool) : Prop :=
  request.input = some input ∧ ∃ text, input.text? access = .ok text ∧ jsx = (detectIn text).jsx

/-- A run whose output is not cut. -/
def Request.wholeRun (access : Bytes → Access) (request : Request) : Run :=
  run access request .unlimited .unlimited

/-! ### The input of a request -/

namespace Request

theorem nonEmpty_some {value : String} (present : value ≠ "") :
    nonEmpty (some value) = some value := by
  simp [nonEmpty, Option.filter, present]

theorem nonEmpty_absent {value : Option String} (absent : ∀ v, value = some v → v = "") :
    nonEmpty value = none := by
  cases value with
  | none => rfl
  | some v =>
    rw [absent v rfl]
    rfl

theorem input_of_file {request : Request} {path : String} (given : request.file = some path)
    (present : path ≠ "") : request.input = some (.file path) := by
  rw [input, given, nonEmpty_some present]
  rfl

theorem input_of_source {request : Request} {text : String}
    (noFile : ∀ path, request.file = some path → path = "") (given : request.source = some text)
    (present : text ≠ "") : request.input = some (.source text) := by
  rw [input, nonEmpty_absent noFile, given, nonEmpty_some present]
  rfl

theorem input_of_neither {request : Request}
    (noFile : ∀ path, request.file = some path → path = "")
    (noSource : ∀ text, request.source = some text → text = "") : request.input = none := by
  rw [input, nonEmpty_absent noFile, nonEmpty_absent noSource]
  rfl

end Request

/-! ### The result of a run -/

section Runs

variable {access : Bytes → Access} {request : Request} {input : Input} {failure : Failure}
  {jsx : Bool}

/-- Looking into an input succeeds exactly when it can be loaded. -/
theorem detectInput_result (access : Bytes → Access) (input : Input) :
    (detectInput access input).result =
      (input.text? access).map fun text => (detectIn text).jsx := by
  cases input with
  | source text => rfl
  | file path =>
    simp only [detectInput, detectFile, Outcome.andThen, Input.text?]
    cases (load access (Utf8.encodeString path)).result with
    | error failure => rfl
    | ok text => rfl

/-- Why a request cannot be answered is what is judged. -/
theorem judge_of_failsWith (fails : request.FailsWith access failure) :
    (judge access request).result = .error failure := by
  cases fails with
  | noInput missing => simp only [judge, missing]
  | @unloadable input _ selected refused =>
    have unanswered : (detectInput access input).result = .error failure := by
      rw [detectInput_result, refused]
      rfl
    simp only [judge, selected, Outcome.andThen, unanswered]

theorem judge_of_answersWith (answers : request.AnswersWith access input jsx) :
    (judge access request).result = .ok (input, jsx) := by
  obtain ⟨selected, text, loaded, rfl⟩ := answers
  have answered : (detectInput access input).result = .ok (detectIn text).jsx := by
    rw [detectInput_result, loaded]
    rfl
  simp only [judge, selected, Outcome.andThen, answered]

/-- A request either fails or is answered. -/
theorem failsWith_or_answersWith (access : Bytes → Access) (request : Request) :
    (∃ failure, request.FailsWith access failure) ∨
      ∃ input jsx, request.AnswersWith access input jsx := by
  cases selected : request.input with
  | none => exact .inl ⟨_, .noInput selected⟩
  | some input =>
    cases loaded : input.text? access with
    | error failure => exact .inl ⟨failure, .unloadable selected loaded⟩
    | ok text => exact .inr ⟨input, _, selected, text, loaded, rfl⟩

theorem wholeRun_of_failsWith (fails : request.FailsWith access failure) :
    request.wholeRun access =
      Run.failed request .unlimited [] (judge access request).events failure := by
  rw [Request.wholeRun, run_eq, judge_of_failsWith fails]

theorem wholeRun_of_answersWith (answers : request.AnswersWith access input jsx) :
    request.wholeRun access =
      ⟨.ofAnswer jsx, Utf8.encode (answerText request input jsx), [],
        (judge access request).events⟩ := by
  rw [Request.wholeRun, run_eq, judge_of_answersWith answers]
  rfl

/-- What is judged depends on the selected input alone. -/
theorem judge_congr {other : Request} (same : other.input = request.input) :
    judge access other = judge access request := by
  rw [judge, judge, same]

/-- Exit and events of a run depend on the selected input alone. -/
theorem wholeRun_congr {other : Request} (same : other.input = request.input) :
    (other.wholeRun access).exit = (request.wholeRun access).exit ∧
      (other.wholeRun access).events = (request.wholeRun access).events := by
  simp only [Request.wholeRun, run_eq, judge_congr same]
  cases (judge access request).result with
  | error failure => exact ⟨rfl, rfl⟩
  | ok answer => exact ⟨rfl, rfl⟩

end Runs

/-! ### The fields of a request -/

/-- What the fields of a request decide about its run. -/
structure RunContract (access : Bytes → Access) (request : Request) : Prop where
  /-- A file that is given is the input. -/
  file_selected : ∀ path, request.file = some path → path ≠ "" →
    request.input = some (.file path)
  /-- Without a file, a text that is given is the input. -/
  source_selected : (∀ path, request.file = some path → path = "") →
    ∀ text, request.source = some text → text ≠ "" → request.input = some (.source text)
  /-- Without either there is no input. -/
  none_selected : (∀ path, request.file = some path → path = "") →
    (∀ text, request.source = some text → text = "") → request.input = none
  /-- Beside a file, the text is not looked at. -/
  source_irrelevant : ∀ path, request.file = some path → path ≠ "" →
    ∀ source, ({ request with source } : Request).wholeRun access = request.wholeRun access
  /-- The modes of output change neither exit nor events, nor does anything else that leaves
  the selected input as it is. -/
  modes_irrelevant : ∀ other : Request, other.input = request.input →
    (other.wholeRun access).exit = (request.wholeRun access).exit ∧
      (other.wholeRun access).events = (request.wholeRun access).events
  /-- Whether the answer is a report does not show in what is told of failures. -/
  verbose_irrelevant : ∀ verbose,
    (({ request with verbose } : Request).wholeRun access).stderr =
      (request.wholeRun access).stderr
  quiet_silent : request.quiet = true →
    (request.wholeRun access).stdout = [] ∧ (request.wholeRun access).stderr = []
  /-- A failure is told on a line of its own, and nothing else is written. -/
  failure_told : request.quiet = false → ∀ failure, request.FailsWith access failure →
    (request.wholeRun access).exit = .failure ∧ (request.wholeRun access).stdout = [] ∧
      (request.wholeRun access).stderr =
        Utf8.encode ("Error: ".toList ++ failure.message.toList ++ ['\n'])
  /-- An answer is told, and no failure. -/
  answer_told : request.quiet = false → ∀ input jsx, request.AnswersWith access input jsx →
    (request.wholeRun access).exit = .ofAnswer jsx ∧ (request.wholeRun access).stderr = [] ∧
      (request.wholeRun access).stdout = Utf8.encode
        (if request.verbose then report jsx input ++ ['\n']
        else if jsx then "JSX detected\n".toList else "No JSX detected\n".toList)

/-- Beside a file, the text of a request does not matter at all. -/
theorem wholeRun_source_irrelevant {access : Bytes → Access} {request : Request} {path : String}
    (given : request.file = some path) (present : path ≠ "") (source : Option String) :
    ({ request with source } : Request).wholeRun access = request.wholeRun access := by
  have input : ({ request with source } : Request).input = request.input := by
    rw [Request.input_of_file given present]
    exact Request.input_of_file given present
  simp only [Request.wholeRun, run_eq, judge_congr input]
  rfl

/-- Asking for a report changes nothing in what is told of failures. -/
theorem wholeRun_verbose_irrelevant (access : Bytes → Access) (request : Request)
    (verbose : Bool) :
    (({ request with verbose } : Request).wholeRun access).stderr =
      (request.wholeRun access).stderr := by
  have input : ({ request with verbose } : Request).input = request.input := rfl
  simp only [Request.wholeRun, run_eq, judge_congr input]
  cases (judge access request).result with
  | error failure => rfl
  | ok answer => rfl

/-- A quiet run writes nothing. -/
theorem wholeRun_quiet {access : Bytes → Access} {request : Request}
    (quiet : request.quiet = true) :
    (request.wholeRun access).stdout = [] ∧ (request.wholeRun access).stderr = [] := by
  rcases failsWith_or_answersWith access request with ⟨failure, fails⟩ | ⟨input, jsx, answers⟩
  · rw [wholeRun_of_failsWith fails]
    refine ⟨rfl, ?_⟩
    simp only [Run.failed_eq, failureText_eq, quiet, if_true]
    rfl
  · rw [wholeRun_of_answersWith answers]
    refine ⟨?_, rfl⟩
    simp only [answerText_eq, quiet, if_true]
    rfl

/-- **Every request keeps the contract**, whatever is in the files.  The fields are independent of
each other but for a file that hides a text, and a quiet run that writes nothing. -/
theorem run_contract (access : Bytes → Access) (request : Request) :
    RunContract access request where
  file_selected _ given present := Request.input_of_file given present
  source_selected noFile _ given present := Request.input_of_source noFile given present
  none_selected := Request.input_of_neither
  source_irrelevant _ given present source := wholeRun_source_irrelevant given present source
  modes_irrelevant _ same := wholeRun_congr same
  verbose_irrelevant := wholeRun_verbose_irrelevant access request
  quiet_silent := wholeRun_quiet
  failure_told loud failure fails := by
    rw [wholeRun_of_failsWith fails]
    refine ⟨rfl, rfl, ?_⟩
    simp only [Run.failed_eq, failureText_eq, loud]
    rfl
  answer_told loud input jsx answers := by
    rw [wholeRun_of_answersWith answers]
    refine ⟨rfl, rfl, ?_⟩
    simp only [answerText_eq, loud]
    rfl

/-! ### Calls -/

section Calls

variable {access : Bytes → Access} {arguments : List Bytes} {environment : Environment}
  {request : Request}

/-- A call warrants some exit. -/
theorem exists_warrants (access : Bytes → Access) (arguments : List Bytes) :
    ∃ exit, Warrants access arguments exit := by
  cases asked : parseArguments arguments with
  | info notice name => exact ⟨_, .notice asked⟩
  | usage complaint name => exact ⟨_, .complaint asked⟩
  | run request =>
    cases selected : request.input with
    | none => exact ⟨_, .noInput asked selected⟩
    | some input =>
      cases loaded : input.text? access with
      | error failure => exact ⟨_, .unloadable asked selected loaded⟩
      | ok text =>
        cases jsx : (detectIn text).jsx with
        | true => exact ⟨_, .found asked selected loaded jsx⟩
        | false => exact ⟨_, .notFound asked selected loaded jsx⟩

/-- A call warrants no two exits. -/
theorem Warrants.unique {first second : Exit} (one : Warrants access arguments first)
    (two : Warrants access arguments second) : first = second := by
  cases one <;> cases two <;> simp_all

/-- **Every call warrants exactly one exit**, since arguments come to one of three things, and an
input that is selected can be loaded or not. -/
theorem existsUnique_warrants (access : Bytes → Access) (arguments : List Bytes) :
    ∃ exit, Warrants access arguments exit ∧
      ∀ other, Warrants access arguments other → other = exit := by
  obtain ⟨exit, warranted⟩ := exists_warrants access arguments
  exact ⟨exit, warranted, fun _ another => another.unique warranted⟩

/-- Without a variable that asks for it there is no log. -/
theorem logging_of_silent (silent : environment.Silent) : Logging.of? environment = none := by
  simp only [Logging.of?, Environment.text?, silent.filter, silent.fallback]
  rfl

/-- Without a log, a call that asks for a run comes to that run. -/
theorem program_run (silent : environment.Silent) (timestamp : List Char)
    (asked : parseArguments arguments = .run request) :
    program access environment timestamp arguments =
      ⟨(request.wholeRun access).exit.code, (request.wholeRun access).stdout,
        (request.wholeRun access).stderr⟩ := by
  simp only [program, execute, asked, logging_of_silent silent]
  rfl

/-- Without a log, a call that asks for a notice writes this notice. -/
theorem program_info (silent : environment.Silent) (timestamp : List Char) {notice : Notice}
    {name : List Char} (asked : parseArguments arguments = .info notice name) :
    program access environment timestamp arguments =
      ⟨0, Utf8.encode (notice.text name), []⟩ := by
  simp only [program, execute, asked, logging_of_silent silent]
  rfl

/-- Without a log, a call with wrong arguments writes what is wrong with them. -/
theorem program_usage (silent : environment.Silent) (timestamp : List Char)
    {complaint : Complaint} {name : List Char}
    (asked : parseArguments arguments = .usage complaint name) :
    program access environment timestamp arguments =
      ⟨2, [], Utf8.encode (complaint.text name)⟩ := by
  simp only [program, execute, asked, logging_of_silent silent]
  rfl

/-- The code of a call is that of the exit it warrants, and the stream that does not belong to
this exit stays empty. -/
theorem program_of_warrants (silent : environment.Silent) (timestamp : List Char) {exit : Exit}
    (warranted : Warrants access arguments exit) :
    (program access environment timestamp arguments).code = exit.code ∧
      (exit ≠ .failure → (program access environment timestamp arguments).stderr = []) ∧
      (exit = .failure → (program access environment timestamp arguments).stdout = []) := by
  cases warranted with
  | notice asked =>
    rw [program_info silent timestamp asked]
    exact ⟨rfl, fun _ => rfl, nofun⟩
  | complaint asked =>
    rw [program_usage silent timestamp asked]
    exact ⟨rfl, fun absurd => (absurd rfl).elim, fun _ => rfl⟩
  | @found request input text asked selected loaded jsx =>
    have answers : request.AnswersWith access input true := ⟨selected, text, loaded, jsx.symm⟩
    rw [program_run silent timestamp asked, wholeRun_of_answersWith answers]
    exact ⟨rfl, fun _ => rfl, nofun⟩
  | @notFound request input text asked selected loaded plain =>
    have answers : request.AnswersWith access input false := ⟨selected, text, loaded, plain.symm⟩
    rw [program_run silent timestamp asked, wholeRun_of_answersWith answers]
    exact ⟨rfl, fun _ => rfl, nofun⟩
  | noInput asked missing =>
    rw [program_run silent timestamp asked, wholeRun_of_failsWith (.noInput missing)]
    exact ⟨rfl, fun absurd => (absurd rfl).elim, fun _ => rfl⟩
  | unloadable asked selected refused =>
    rw [program_run silent timestamp asked, wholeRun_of_failsWith (.unloadable selected refused)]
    exact ⟨rfl, fun absurd => (absurd rfl).elim, fun _ => rfl⟩

/-- **Codes and streams of the program agree.**  Without a log, for all arguments and whatever
the files are: a call warrants exactly one exit; its code is the code of that exit; it writes no
failure unless the exit is one, and no answer if it is; and a run that it asks for keeps the
contract of its request and is all that the call comes to. -/
theorem exit_code_agrees_with_streams (access : Bytes → Access) (environment : Environment)
    (timestamp : List Char) (arguments : List Bytes) (silent : environment.Silent) :
    (∃ exit, Warrants access arguments exit ∧
      (∀ other, Warrants access arguments other → other = exit) ∧
      (program access environment timestamp arguments).code = exit.code ∧
      (exit ≠ .failure → (program access environment timestamp arguments).stderr = []) ∧
      (exit = .failure → (program access environment timestamp arguments).stdout = [])) ∧
    ∀ request, parseArguments arguments = .run request →
      RunContract access request ∧
      program access environment timestamp arguments =
        ⟨(request.wholeRun access).exit.code, (request.wholeRun access).stdout,
          (request.wholeRun access).stderr⟩ := by
  constructor
  · obtain ⟨exit, warranted, unique⟩ := existsUnique_warrants access arguments
    exact ⟨exit, warranted, unique, program_of_warrants silent timestamp warranted⟩
  · intro request asked
    exact ⟨run_contract access request, program_run silent timestamp asked⟩

/-- A call about a file that is not there fails without an answer. -/
theorem missing_file_exit_code :
    Environment.Silent (fun _ => none) ∧
      (program (fun _ => .refused .notFound) (fun _ => none) []
        (["has-jsx", "-f", "no.tsx"].map Utf8.encodeString)).code = 2 ∧
      (program (fun _ => .refused .notFound) (fun _ => none) []
        (["has-jsx", "-f", "no.tsx"].map Utf8.encodeString)).stdout = [] := by
  have silent : Environment.Silent (fun _ => none) := ⟨rfl, rfl⟩
  have asked : parseArguments (["has-jsx", "-f", "no.tsx"].map Utf8.encodeString) =
      .run ⟨none, some "no.tsx", false, false⟩ := by decide +kernel
  obtain ⟨⟨exit, -, unique, code, -, failed⟩, -⟩ := exit_code_agrees_with_streams
    (fun _ => .refused .notFound) (fun _ => none) [] _ silent
  have refused : Exit.failure = exit := unique _ (.unloadable asked rfl rfl)
  subst refused
  exact ⟨silent, code, failed rfl⟩

end Calls

end JsxDetect
