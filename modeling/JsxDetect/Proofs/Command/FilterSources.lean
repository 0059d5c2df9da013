import JsxDetect.Proofs.Command.LogIndependence
import JsxDetect.Proofs.Text.RoundTrip

/-!
# Where filters come from

The filter of a log is the value of one variable or, if this is unset, of another one.  The two
are set up in different ways: a filter from the second variable shows errors when there is nothing
right in its text, while one from the first shows nothing then.  Users are told that one variable
stands in for the other, and so it is, because the library tells nothing that is an error: the
default never decides about an event.

## Main Definitions

* `Environment.set`: an environment with another value of a variable

## Main Results

* `Filter.enables_parse`: the default of a filter decides about no event
* `filter_sources_agree`: calls with the same text in one variable or the other

## Design Notes

The two variables lead to logs with different defaults, so two calls can be equal only if the
default never decides.  It would decide about events at the level of errors, and there is none:
`Event.error_lt_level` is checked over the whole list of events, and an event at this level, if one
is added, will break this proof and with it the claim that users rely on.  That the format does not
depend on which variable has the filter is `formatOf_congr`.
-/

namespace JsxDetect

namespace Environment

/-- The environment with another value of a variable, or without it. -/
def set (environment : Environment) (name : String) (value : Option Bytes) : Environment :=
  fun other => if other = name then value else environment other

variable {environment : Environment} {name other : String} {value : Option Bytes}

@[simp] theorem set_self : environment.set name value name = value := if_pos rfl

end Environment

/-! ### Defaults -/

/-- No event is an error. -/
theorem Event.error_lt_level (event : Event) : Level.error.detail < event.level.detail := by
  cases event <;> simp [Event.level, Level.detail]

theorem Directive.errors_shows (event : Event) : Directive.errors.shows event = false := by
  have lower := event.error_lt_level
  simp only [Directive.shows, Directive.errors, Option.any_some, decide_eq_false_iff_not]
  omega

/-- The default of a filter decides about no event, whatever the text of the filter. -/
theorem Filter.enables_parse (text : List Char) (event : Event) :
    (Filter.parse (some Directive.errors) text).enables event =
      (Filter.parse none text).enables event := by
  unfold Filter.parse
  dsimp only
  split
  · have concerned : Directive.errors.concerns event = true := rfl
    simp [Filter.enables, concerned, Directive.decisive, Directive.errors_shows]
  · rfl

/-- What a log adds to a call does not depend on its default. -/
theorem Logging.added_ofText (format : LogFormat) (text timestamp : List Char)
    (call : Execution) :
    (Logging.ofText format (some Directive.errors) text).added timestamp call =
      (Logging.ofText format none text).added timestamp call := by
  have same : (Filter.parse (some Directive.errors) text).enables =
      (Filter.parse none text).enables := funext (Filter.enables_parse text)
  cases call with
  | ran run => simp only [Logging.added, Logging.lines, Logging.ofText, same]
  | info => rfl
  | usage => rfl

/-! ### Calls -/

section Calls

variable {access : Bytes → Access} {environment other : Environment} {timestamp : List Char}
  {arguments : List Bytes}

/-- What a log with the filter of a text adds to a call, whichever default the filter has. -/
theorem program_of_logging {text : List Char} {default : Option Directive}
    (known : default = none ∨ default = some Directive.errors)
    (logging : Logging.of? environment =
      some (Logging.ofText (Logging.formatOf environment) default text)) :
    program access environment timestamp arguments =
      let call := execute access arguments .unlimited .unlimited
      let log := (Logging.ofText (Logging.formatOf environment) none text).added timestamp call
      { call.completed with stderr := Utf8.encode log ++ call.completed.stderr } := by
  rw [program_eq, logging]
  rcases known with rfl | rfl
  · rfl
  · simp only [Option.elim_some, Logging.added_ofText]

theorem logging_of_filter {text : List Char}
    (filter : environment filterVariable = some (Utf8.encode text)) : Logging.of? environment =
      some (Logging.ofText (Logging.formatOf environment) none text) := by
  simp only [Logging.of?, Environment.text?, filter, Option.bind_some, Utf8.decode?_encode]

theorem logging_of_fallback {text : List Char} (unset : environment filterVariable = none)
    (fallback : environment fallbackVariable = some (Utf8.encode text)) :
    Logging.of? environment =
      some (Logging.ofText (Logging.formatOf environment) (some Directive.errors) text) := by
  simp only [Logging.of?, Environment.text?, unset, fallback, Option.bind_none, Option.bind_some,
    Utf8.decode?_encode, Option.map_some]

/-- The format of a log depends on two variables alone. -/
theorem formatOf_congr (format : environment formatVariable = other formatVariable)
    (colour : environment colourVariable = other colourVariable) :
    Logging.formatOf environment = Logging.formatOf other := by
  unfold Logging.formatOf Environment.text?
  rw [format, colour]

/-- A filter that is not valid UTF-8 is one that is not set. -/
theorem logging_of_unreadable {bytes : Bytes} (illFormed : ∀ text, Utf8.encode text ≠ bytes) :
    Logging.of? (environment.set filterVariable (some bytes)) =
      Logging.of? (environment.set filterVariable none) := by
  have format : Logging.formatOf (environment.set filterVariable (some bytes)) =
      Logging.formatOf (environment.set filterVariable none) := formatOf_congr rfl rfl
  have unreadable : (environment.set filterVariable (some bytes)).text? filterVariable = none := by
    refine Environment.text?_eq_none_iff.mpr ?_
    intro value set text
    rw [Environment.set_self] at set
    cases set
    exact illFormed text
  have unset : (environment.set filterVariable none).text? filterVariable = none := rfl
  have fallback : (environment.set filterVariable (some bytes)).text? fallbackVariable =
      (environment.set filterVariable none).text? fallbackVariable := rfl
  simp only [Logging.of?, unreadable, unset, fallback, format]

end Calls

/-- **One variable stands in for the other.**  With a filter in the first variable, a call comes to
the same as with this filter in the second one and the first unset, whatever the second one was,
also in what it tells of directives that are wrong.  A value that is not valid UTF-8 is like
none. -/
theorem filter_sources_agree (access : Bytes → Access) (environment : Environment)
    (timestamp : List Char) (arguments : List Bytes) (filter : List Char)
    (fallback : Option Bytes) :
    program access ((environment.set filterVariable (some (Utf8.encode filter))).set
        fallbackVariable fallback) timestamp arguments =
      program access ((environment.set filterVariable none).set
        fallbackVariable (some (Utf8.encode filter))) timestamp arguments ∧
    ∀ bytes, (∀ text, Utf8.encode text ≠ bytes) →
      program access (environment.set filterVariable (some bytes)) timestamp arguments =
        program access (environment.set filterVariable none) timestamp arguments := by
  constructor
  · generalize first : (environment.set filterVariable (some (Utf8.encode filter))).set
      fallbackVariable fallback = one
    generalize second : (environment.set filterVariable none).set
      fallbackVariable (some (Utf8.encode filter)) = two
    have given : one filterVariable = some (Utf8.encode filter) := by rw [← first]; rfl
    have unset : two filterVariable = none := by rw [← second]; rfl
    have stands : two fallbackVariable = some (Utf8.encode filter) := by rw [← second]; rfl
    have format : Logging.formatOf one = Logging.formatOf two := by
      rw [← first, ← second]
      exact formatOf_congr rfl rfl
    rw [program_of_logging (.inl rfl) (logging_of_filter given),
      program_of_logging (.inr rfl) (logging_of_fallback unset stands), format]
  · intro bytes illFormed
    rw [program_eq, program_eq, logging_of_unreadable illFormed]

/-- A filter that is one byte with which no text begins, before a second variable that holds a
text.  The call is one without the filter, so that it has the log that the second variable asks
for. -/
theorem filter_sources_agree_stray_byte :
    let access : Bytes → Access := fun _ => .refused .notFound
    let arguments := ["has-jsx", "-f", "no.tsx"].map Utf8.encodeString
    let environment : Environment := fun name =>
      if name = fallbackVariable then some (Utf8.encodeString "=,debug") else none
    (∀ text, Utf8.encode text ≠ [0xFF]) ∧
      program access (environment.set filterVariable (some [0xFF])) [] arguments =
        program access (environment.set filterVariable none) [] arguments ∧
      (Logging.of? (environment.set filterVariable (some [0xFF]))).isSome = true := by
  intro access arguments environment
  have illFormed : ∀ text, Utf8.encode text ≠ [0xFF] := by
    intro text same
    have unreadable : Utf8.decode? [0xFF] = none := by decide +kernel
    rw [← same, Utf8.decode?_encode] at unreadable
    cases unreadable
  obtain ⟨-, unreadable⟩ := filter_sources_agree access environment [] arguments [] none
  exact ⟨illFormed, unreadable [0xFF] illFormed, by decide +kernel⟩

end JsxDetect
