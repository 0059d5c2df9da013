import JsxDetect.Event
import JsxDetect.Text.Quoted

/-!
# Log lines

A log shows an event as a line of text or as a JSON document.

## Main Definitions

* `LogFormat`
* `LogFormat.line`: the line of an event
-/

namespace JsxDetect

/-- How a log shows events. -/
inductive LogFormat where
  /-- Lines of text, coloured or not. -/
  | text (coloured : Bool)
  /-- JSON documents, one a line. -/
  | json
  deriving Repr, DecidableEq

/-! ### Text -/

/-- A style of text in a terminal, by its number there. -/
structure Style where
  code : List Char
  deriving Repr, DecidableEq

namespace Style

/-- Less bright. -/
def dim : Style := ⟨['2']⟩

/-- In italics. -/
def italic : Style := ⟨['3']⟩

/-- The colour of a level. -/
def ofLevel : Level → Style
  | .error => ⟨['3', '1']⟩
  | .warn => ⟨['3', '3']⟩
  | .info => ⟨['3', '2']⟩
  | .debug => ⟨['3', '4']⟩
  | .trace => ⟨['3', '5']⟩

/-- A text in a style, if there are to be styles. -/
def paint (style : Style) (coloured : Bool) (text : List Char) : List Char :=
  if coloured then
    '\x1b' :: '[' :: style.code ++ 'm' :: text ++ ['\x1b', '[', '0', 'm']
  else text

end Style

namespace FieldValue

/-- A value in a line of text: as it is, even where it breaks the line. -/
def plain : FieldValue → List Char
  | number value => (toString value).toList
  | text value => value.toList

/-- A value in a JSON document. -/
def json : FieldValue → List Char
  | number value => (toString value).toList
  | text value => quote value.toList

end FieldValue

namespace Event

/-- The name of the level, as wide as the widest. -/
def paddedLevel (event : Event) : List Char :=
  let name := event.level.name.toList
  List.replicate (5 - name.length) ' ' ++ name

/-- A field in a line of text. -/
def fieldText (coloured : Bool) (name : String) (value : FieldValue) : List Char :=
  ' ' :: Style.italic.paint coloured name.toList ++ Style.dim.paint coloured ['='] ++ value.plain

/-- An event as a line of text. -/
def textLine (coloured : Bool) (timestamp : List Char) (event : Event) : List Char :=
  Style.dim.paint coloured timestamp ++ ' ' ::
    (Style.ofLevel event.level).paint coloured event.paddedLevel ++ ' ' ::
    Style.dim.paint coloured event.target.toList ++ Style.dim.paint coloured [':'] ++ ' ' ::
    event.message.toList ++
    event.fields.flatMap (fun (name, value) => fieldText coloured name value)

/-! ### JSON -/

/-- A JSON object. -/
def object (members : List (String × List Char)) : List Char :=
  let texts := members.map fun (name, value) => quote name.toList ++ ':' :: value
  '\x7b' :: List.intercalate [','] texts ++ ['\x7d']

/-- An event as a JSON document. -/
def jsonLine (timestamp : List Char) (event : Event) : List Char :=
  object
    [("timestamp", quote timestamp),
      ("level", quote event.level.name.toList),
      ("fields", object (("message", quote event.message.toList) ::
        event.fields.map fun (name, value) => (name, value.json))),
      ("target", quote event.target.toList)]

end Event

/-- The line of an event. -/
def LogFormat.line (format : LogFormat) (timestamp : List Char) (event : Event) : List Char :=
  match format with
  | .text coloured => event.textLine coloured timestamp ++ ['\n']
  | .json => event.jsonLine timestamp ++ ['\n']

end JsxDetect
