import JsxDetect.Proofs.Command.ExitCodes
import JsxDetect.Proofs.Text.Decoding

/-!
# A log changes nothing

Whether a log is kept, which and how is up to four variables, and users set them without a thought
for scripts that call the program.  So nothing but the log may depend on them.  What a call comes
to is here taken apart into what it comes to without a log and what the log adds: first what is
wrong with its filter, then its lines, both before anything that the call itself has to tell.

A variable whose value is not a text is one that is not set.

## Main Definitions

* `Environment.Unset`, `Environment.Unreadable`
* `Execution.completed`: a call without a log
* `Logging.added`: what a log adds to it

## Main Results

* `program_eq`: a call is what it is without a log, behind what the log adds
* `log_changes_nothing`: two calls that differ in the environment alone

## Design Notes

**Taking apart, then comparing.**  `program_eq` writes any call as what it comes to without a log,
with the log put before what it tells.  Two calls with different environments then have the same
first part, and that the log goes to one stream only is seen in the equation.  No other lemma on
calls looks into how logging is done.

**Unreadable is unset.**  A variable with a value that is not valid UTF-8 cannot be given a meaning,
and the program treats it as if it were not there.  `Environment.Unreadable` covers both, so that no
result distinguishes them.
-/

namespace JsxDetect

namespace Environment

/-- No variable is set that decides about a log. -/
def Unset (environment : Environment) : Prop :=
  ∀ name ∈ [filterVariable, fallbackVariable, formatVariable, colourVariable],
    environment name = none

/-- A variable is not set, or its value is not valid UTF-8. -/
def Unreadable (environment : Environment) (name : String) : Prop :=
  ∀ bytes, environment name = some bytes → ∀ text, Utf8.encode text ≠ bytes

/-- A variable has no text exactly if it is not set or cannot be read. -/
theorem text?_eq_none_iff {environment : Environment} {name : String} :
    environment.text? name = none ↔ environment.Unreadable name := by
  rw [text?, Option.bind_eq_none_iff]
  constructor
  · intro none bytes set text same
    have decoded := Utf8.decode?_eq_some_iff.mpr same
    rw [none bytes set] at decoded
    cases decoded
  · intro unreadable bytes set
    cases decoded : Utf8.decode? bytes with
    | none => rfl
    | some text => exact absurd (Utf8.decode?_eq_some_iff.mp decoded) (unreadable bytes set text)

theorem Unset.unreadable {environment : Environment} (unset : environment.Unset) {name : String}
    (mem : name ∈ [filterVariable, fallbackVariable, formatVariable, colourVariable]) :
    environment.Unreadable name := by
  intro bytes set
  rw [unset name mem] at set
  cases set

end Environment

/-- A log is kept exactly if the filter or the one in its place can be read, so no value of the two
other variables starts one. -/
theorem logging_eq_none_iff {environment : Environment} : Logging.of? environment = none ↔
    environment.Unreadable filterVariable ∧ environment.Unreadable fallbackVariable := by
  rw [← Environment.text?_eq_none_iff, ← Environment.text?_eq_none_iff, Logging.of?]
  cases environment.text? filterVariable <;> simp

/-! ### Taking calls apart -/

/-- What a call comes to when no log is kept. -/
def Execution.completed : Execution → Completed
  | .ran run => ⟨run.exit.code, run.stdout, run.stderr⟩
  | .info notice name => ⟨0, Utf8.encode (notice.text name), []⟩
  | .usage complaint name => ⟨Exit.failure.code, [], Utf8.encode (complaint.text name)⟩

/-- What a log adds to a call: what is wrong with its filter, then a line for each event. -/
def Logging.added (logging : Logging) (timestamp : List Char) : Execution → List Char
  | .ran run => logging.complaints ++ logging.lines timestamp run.events
  | .info .. | .usage .. => logging.complaints

/-- **A call** comes to what it comes to without a log; its log goes before what it tells.  All that
depends on the environment is on the right-hand side in one place. -/
theorem program_eq (access : Bytes → Access) (environment : Environment) (timestamp : List Char)
    (arguments : List Bytes) :
    program access environment timestamp arguments =
      let call := execute access arguments .unlimited .unlimited
      let log := (Logging.of? environment).elim [] (·.added timestamp call)
      { call.completed with stderr := Utf8.encode log ++ call.completed.stderr } := by
  simp only [program]
  cases execute access arguments .unlimited .unlimited with
  | ran run => cases Logging.of? environment <;> rfl
  | info notice name => cases Logging.of? environment <;> simp [Execution.completed, Logging.added]
  | usage complaint name =>
    cases Logging.of? environment <;> simp [Execution.completed, Logging.added, Utf8.encode]

section Calls

variable {access : Bytes → Access} {environment : Environment} {arguments : List Bytes}

/-- Without a filter that can be read, a call comes to what it comes to without a log. -/
theorem program_of_unreadable (filter : environment.Unreadable filterVariable)
    (fallback : environment.Unreadable fallbackVariable) (timestamp : List Char) :
    program access environment timestamp arguments =
      (execute access arguments .unlimited .unlimited).completed := by
  rw [program_eq, logging_eq_none_iff.mpr ⟨filter, fallback⟩]
  rfl

theorem program_of_unset (unset : environment.Unset) (timestamp : List Char) :
    program access environment timestamp arguments =
      (execute access arguments .unlimited .unlimited).completed :=
  program_of_unreadable (unset.unreadable (by simp)) (unset.unreadable (by simp)) timestamp

end Calls

/-- **A log changes nothing.**  Two calls that differ in the environment and in time have the same
exit code and the same output.  What a call without a log tells of failures comes last in what any
other call tells, and it is all that is told if the variables for the filter are unset or not
valid UTF-8. -/
theorem log_changes_nothing (access : Bytes → Access) (arguments : List Bytes)
    (bare first second : Environment) (now soon later : List Char) (unset : bare.Unset) :
    let plain := program access bare now arguments
    let one := program access first soon arguments
    let two := program access second later arguments
    one.code = two.code ∧ one.stdout = two.stdout ∧ plain.stderr <:+ one.stderr ∧
      (first.Unreadable filterVariable → first.Unreadable fallbackVariable →
        second.Unreadable filterVariable → second.Unreadable fallbackVariable →
        one.stderr = two.stderr) := by
  intro plain one two
  have onePlain : plain = (execute access arguments .unlimited .unlimited).completed :=
    program_of_unset unset now
  have oneEq := program_eq access first soon arguments
  have twoEq := program_eq access second later arguments
  refine ⟨?_, ?_, ?_, fun filter fallback filter' fallback' => ?_⟩
  · exact (congrArg Completed.code oneEq).trans (congrArg Completed.code twoEq).symm
  · exact (congrArg Completed.stdout oneEq).trans (congrArg Completed.stdout twoEq).symm
  · rw [onePlain]
    exact ⟨_, (congrArg Completed.stderr oneEq).symm⟩
  · exact congrArg Completed.stderr ((program_of_unreadable filter fallback soon).trans
      (program_of_unreadable filter' fallback' later).symm)

/-- A call about a file that is not there, with a filter half of which is wrong, and with one that
is not valid UTF-8. -/
theorem log_changes_nothing_missing_file :
    let access : Bytes → Access := fun _ => .refused .notFound
    let arguments := ["has-jsx", "-f", "no.tsx"].map Utf8.encodeString
    let bare : Environment := fun _ => none
    let first : Environment := fun name =>
      if name = filterVariable then some (Utf8.encodeString "=,debug") else none
    let second : Environment := fun name => if name = filterVariable then some [0xFF] else none
    bare.Unset ∧
      (program access first [] arguments).code = (program access second [] arguments).code ∧
      (program access first [] arguments).stdout = (program access second [] arguments).stdout ∧
      (program access bare [] arguments).stderr <:+ (program access first [] arguments).stderr ∧
      (program access bare [] arguments).stderr = (program access second [] arguments).stderr := by
  intro access arguments bare first second
  have unset : bare.Unset := fun _ _ => rfl
  have illFormed : second.Unreadable filterVariable :=
    Environment.text?_eq_none_iff.mp (by decide +kernel)
  have noFallback : second.Unreadable fallbackVariable :=
    Environment.text?_eq_none_iff.mp (by decide +kernel)
  obtain ⟨code, stdout, suffix, -⟩ :=
    log_changes_nothing access arguments bare first second [] [] [] unset
  obtain ⟨-, -, -, same⟩ :=
    log_changes_nothing access arguments bare bare second [] [] [] unset
  exact ⟨unset, code, stdout, suffix,
    same (unset.unreadable (by simp)) (unset.unreadable (by simp)) illFormed noFallback⟩

end JsxDetect
