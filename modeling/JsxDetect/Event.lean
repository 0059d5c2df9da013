/-!
# Events

What the library reports while it works, for a log.

## Main Definitions

* `Level`, `JsxKind`, `Event`
* `Event.level`, `Event.target`, `Event.message`, `Event.fields`
-/

namespace JsxDetect

/-- How important an event is. -/
inductive Level where
  | error
  | warn
  | info
  | debug
  | trace
  deriving Repr, DecidableEq

namespace Level

/-- The name in a log. -/
def name : Level → String
  | error => "ERROR"
  | warn => "WARN"
  | info => "INFO"
  | debug => "DEBUG"
  | trace => "TRACE"

/-- How detailed the level is. -/
def detail : Level → Nat
  | error => 1
  | warn => 2
  | info => 3
  | debug => 4
  | trace => 5

end Level

/-- The kinds of JSX that are looked for. -/
inductive JsxKind where
  /-- An element with an opening and a closing tag, or a fragment. -/
  | element
  /-- An element that is a single tag. -/
  | selfClosingElement
  deriving Repr, DecidableEq

namespace JsxKind

/-- The name in reports. -/
def name : JsxKind → String
  | element => "Element"
  | selfClosingElement => "SelfClosingElement"

/-- The name of the nodes of the syntax tree. -/
def nodeKind : JsxKind → String
  | element => "jsx_element"
  | selfClosingElement => "jsx_self_closing_element"

/-- The kind of the nodes of a name. -/
def ofNodeKind? (name : String) : Option JsxKind :=
  if name = element.nodeKind then some element
  else if name = selfClosingElement.nodeKind then some selfClosingElement
  else none

end JsxKind

/-- Something that happened. -/
inductive Event where
  /-- A text of `len` bytes holds a null character. -/
  | binaryText (len : Nat)
  /-- A text of `len` bytes is not without syntax errors. -/
  | syntaxErrors (len : Nat)
  /-- JSX was found. -/
  | jsxFound (kind : JsxKind)
  /-- A file of `len` bytes was read. -/
  | fileLoaded (path : String) (len : Nat)
  /-- A file is not valid UTF-8. -/
  | invalidUtf8 (path : String)
  /-- A run failed. -/
  | failed (error : String)
  deriving Repr, DecidableEq

/-- A value that an event carries. -/
inductive FieldValue where
  | number (value : Nat)
  /-- A text that the log shows as it is. -/
  | text (value : String)
  deriving Repr, DecidableEq

namespace Event

/-- The level of an event. -/
def level : Event → Level
  | jsxFound _ => .trace
  | _ => .debug

/-- The part of the library that an event comes from. -/
def target : Event → String
  | binaryText _ => "has_jsx::detect"
  | syntaxErrors _ => "has_jsx::detect::tree"
  | jsxFound _ => "has_jsx::detect"
  | fileLoaded .. => "has_jsx::source"
  | invalidUtf8 _ => "has_jsx::source"
  | failed _ => "has_jsx::cli"

/-- What an event says. -/
def message : Event → String
  | binaryText _ => "null byte in input, treating as binary"
  | syntaxErrors _ => "parsed with syntax errors"
  | jsxFound _ => "jsx node found"
  | fileLoaded .. => "loaded source file"
  | invalidUtf8 _ => "invalid utf-8, decoding lossily"
  | failed _ => "detection failed"

/-- The values that an event carries, by name. -/
def fields : Event → List (String × FieldValue)
  | binaryText len => [("len", .number len)]
  | syntaxErrors len => [("len", .number len)]
  | jsxFound kind => [("kind", .text kind.name)]
  | fileLoaded path len => [("path", .text path), ("len", .number len)]
  | invalidUtf8 path => [("path", .text path)]
  | failed error => [("error", .text error)]

end Event

end JsxDetect
