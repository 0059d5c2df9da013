import JsxDetect.Event
import JsxDetect.Text.Letters
import JsxDetect.Text.Pieces
import JsxDetect.Text.Utf8

/-!
# Log filters

A filter says which events a log shows.  It is a list of directives between commas, each with a
level, and optionally the target that it is about, a span in square brackets and a field of that
span in curly ones: `has_jsx::source[{path}]=debug`.

There are no spans here, so a directive that names one decides nothing; one that only names a
field decides on the events with that field.  Of the directives about an event the most specific
one decides.

## Main Definitions

* `Directive`, `Directive.parse`
* `Filter.parse`: the filter of a text, with what is wrong with it
* `Filter.enables`: does the log show an event?

## Design Notes

A filter is read leniently: directives that are wrong are told and left out, and the others decide.
The most specific directive about an event decides, by a fixed order on directives, of which only
the parts that can matter to events outside of spans are kept.
-/

namespace JsxDetect

/-- A part of a filter. -/
structure Directive where
  /-- The least important level to show, unless nothing is to be shown. -/
  level : Option Level
  /-- How the targets begin that the directive is about, unless it is about all. -/
  target : Option (List Char)
  /-- Is the directive about a span of some name? -/
  span : Bool
  /-- The field that the directive is about, and whether it is about a value of it. -/
  field : Option (List Char × Bool)
  deriving Repr, DecidableEq

/-- What is wrong with a directive. -/
inductive DirectiveError where
  | shape
  | level
  deriving Repr, DecidableEq

/-- What a user is told about a directive that is ignored. -/
def DirectiveError.text : DirectiveError → String
  | shape => "invalid filter directive"
  | level =>
    "error parsing level filter: expected one of \"off\", \"error\", \"warn\", \"info\", " ++
      "\"debug\", \"trace\", or a number 0-5"

/-! ### Levels -/

namespace Level

/-- The levels by their numbers; nothing is shown at zero. -/
def ofNumber? : Nat → Option (Option Level)
  | 0 => some none
  | 1 => some (some error)
  | 2 => some (some warn)
  | 3 => some (some info)
  | 4 => some (some debug)
  | 5 => some (some trace)
  | _ => none

/-- The number of a text of digits, which may have a sign. -/
def number? (text : List Char) : Option Nat :=
  let digits := match text with
    | '+' :: rest => rest
    | _ => text
  if digits.isEmpty || !digits.all Char.isDigit then none
  else some (digits.foldl (fun n c => 10 * n + (c.toNat - 48)) 0)

/-- The levels by their names. -/
def ofName? (text : List Char) : Option (Option Level) :=
  let names : List (String × Option Level) :=
    [("error", some error), ("warn", some warn), ("info", some info), ("debug", some debug),
      ("trace", some trace), ("off", none)]
  names.lookup (String.ofList (text.map Char.toLower))

/-- The level of a text: a number or a name in any letters. -/
def parse? (text : List Char) : Option (Option Level) :=
  ((number? text).bind ofNumber?).or (ofName? text)

end Level

/-! ### Directives -/

namespace Directive

/-- What a directive says that was not read yet. -/
def blank : Directive := ⟨some .trace, none, false, none⟩

/-- What is being read of a directive.  The numbers are offsets of bytes. -/
inductive Stage where
  | start
  /-- A level or a target. -/
  | word
  /-- The name of a span, from an offset on. -/
  | span (start : Nat)
  /-- A field, from an offset on. -/
  | field (start : Nat)
  /-- The end of the square brackets. -/
  | closing
  /-- What is behind the square brackets. -/
  | behind
  /-- A level, from an offset on. -/
  | level (start : Nat)
  deriving Repr, DecidableEq

/-- A part of a text, between two offsets. -/
def cut (text : List Char) (start stop : Nat) : List Char :=
  Utf8.decodeLossy (((Utf8.encode text).take stop).drop start)

/-- The directive that shows errors, whatever they are about. -/
def errors : Directive := ⟨some .error, none, false, none⟩

/-- The directive about a target. -/
def withTarget (d : Directive) (target : List Char) : Directive := { d with target := some target }

/-- May a directive start with the character? -/
def startsWord (c : Char) : Bool := c == '-' || c == ':' || c == '_' || isLetterOrDigit c

/-- The field of a text, which may be followed by a value. -/
def parseField (text : List Char) : List Char × Bool :=
  (text.takeWhile (· ≠ '='), text.contains '=')

/-- Reads a character of a directive at an offset.  Parts are cut out of `text`. -/
def read (text : List Char) (offset : Nat) (c : Char) :
    Directive × Stage → Except DirectiveError (Directive × Stage)
  | (d, .start) =>
    if c = '[' then .ok (d, .span (offset + 1))
    else if startsWord c then .ok (d, .word)
    else .error .shape
  | (d, .word) =>
    if c = '=' then .ok (d.withTarget (cut text 0 offset), .level (offset + 1))
    else if c = '[' then .ok (d.withTarget (cut text 0 offset), .span (offset + 1))
    else .ok (d, .word)
  | (d, .span start) =>
    if c = ']' then .ok ({ d with span := true }, .behind)
    else if c = '\x7b' then
      .ok ({ d with span := !(cut text start offset).isEmpty }, .field (offset + 1))
    else .ok (d, .span start)
  | (d, .field start) =>
    if c = '\x7d' then
      let field := cut text start offset
      if field.isEmpty then .error .shape
      else .ok ({ d with field := some (parseField field) }, .closing)
    else .ok (d, .field start)
  | (d, .closing) => if c = ']' then .ok (d, .behind) else .error .shape
  | (d, .behind) => if c = '=' then .ok (d, .level (offset + 1)) else .error .shape
  | (d, .level start) => .ok (d, .level start)

/-- Reads the rest of a directive from an offset on. -/
def readAll (text : List Char) :
    Nat → List Char → Directive × Stage → Except DirectiveError (Directive × Stage)
  | _, [], state => .ok state
  | offset, c :: rest, state => do
    readAll text (offset + c.utf8Size) rest (← read text offset c state)

/-- The directive of a text.  White space around it is not read; still the parts are cut out of
the text with it, so it is harmless only around what is no part. -/
def parse (text : List Char) : Except DirectiveError Directive := do
  let stop := (Utf8.encode text).length
  match ← readAll text 0 (trim text) (blank, .start) with
  | (d, .word) =>
    match Level.parse? text with
    | some level => .ok { d with level := level }
    | none => .ok (d.withTarget text)
  | (d, .behind) => .ok d
  | (d, .level start) =>
    match cut text start stop with
    | [] => .ok d
    | word =>
      match Level.parse? word with
      | some level => .ok { d with level := level }
      | none => .error .level
  | _ => .error .shape

/-! ### Deciding -/

/-- Is the directive about an event? -/
def concerns (d : Directive) (event : Event) : Bool :=
  let fields := "message" :: event.fields.map (·.1)
  !d.span
    && d.target.all (·.isPrefixOf event.target.toList)
    && d.field.all fun (name, value) => !value && fields.contains (String.ofList name)

/-- Does the level of the directive show an event? -/
def shows (d : Directive) (event : Event) : Bool :=
  d.level.any (event.level.detail ≤ ·.detail)

/-- Is one directive more specific than another, both being about the same event?  Then one of
their targets begins with the other. -/
def moreSpecific (d other : Directive) : Bool :=
  let target (d : Directive) : Nat := d.target.elim 0 (·.length + 1)
  let field (d : Directive) : List (List Char) := (d.field.map (·.1)).toList
  target other < target d || (target other = target d && field other < field d)

/-- The directive that decides, when there is one more: it unless the one so far is more
specific. -/
def decisive (best : Option Directive) (d : Directive) : Option Directive :=
  match best with
  | some best => if best.moreSpecific d then some best else some d
  | none => some d

end Directive

/-! ### Filters -/

/-- Which events a log shows. -/
structure Filter where
  directives : List Directive
  deriving Repr, DecidableEq

namespace Filter

/-- The texts of the directives of a filter. -/
def directiveTexts (text : List Char) : List (List Char) :=
  (pieces ',' text).filter (!·.isEmpty)

/-- The filter of a text; directives that are wrong are ignored.  If there is none that is right,
`default` is the only one, unless there is no default either. -/
def parse (default : Option Directive) (text : List Char) : Filter :=
  let directives := (directiveTexts text).filterMap fun piece => (Directive.parse piece).toOption
  ⟨if directives.isEmpty then default.toList else directives⟩

/-- What a user is told about a filter. -/
def complaints (text : List Char) : List Char :=
  (directiveTexts text).flatMap fun piece =>
    match Directive.parse piece with
    | .ok _ => []
    | .error error =>
      "ignoring ".toList ++ '\x60' :: piece ++ '\x60' :: ": ".toList ++ error.text.toList ++ ['\n']

/-- Does the log show an event? -/
def enables (filter : Filter) (event : Event) : Bool :=
  let decisive := (filter.directives.filter (·.concerns event)).foldl Directive.decisive none
  decisive.any (·.shows event)

end Filter

end JsxDetect
