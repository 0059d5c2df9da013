/-!
# Texts for a terminal

Messages repeat what a user typed.  What a terminal would obey rather than show is left out of
them: control sequences, and control characters other than white space.

A sequence starts with an escape character.  Each of its characters leads to another state or
back to plain text; white space inside a sequence abandons it.

## Main Definitions

* `visible`: what a terminal shows of a text
-/

namespace JsxDetect

namespace Terminal

/-- What a terminal is reading. -/
inductive State where
  /-- Plain text. -/
  | plain
  /-- A sequence whose kind is not known yet. -/
  | escape
  /-- A short sequence. -/
  | short
  /-- The parameters of a control sequence; may a marker still come first? -/
  | parameters (first : Bool)
  /-- The end of a control sequence, after its parameters. -/
  | intermediate
  /-- A control sequence that has no meaning. -/
  | ignored
  /-- A device control string, before its content. -/
  | device (stage : Nat)
  /-- A string that nothing but an escape ends. -/
  | string
  /-- A command, up to a bell. -/
  | command
  deriving Repr, DecidableEq

/-- Is the character white space that a terminal obeys at once? -/
def isBreak (c : Char) : Bool := c == '\t' || c == '\n' || c == '\x0c' || c == '\r'

/-- Is the character between two others? -/
def within (low high c : Char) : Bool := low ≤ c && c ≤ high

/-- The state behind a character of a sequence. -/
def State.next (s : State) (c : Char) : State :=
  if c = '\x1b' then .escape
  else if c = '\x18' || c = '\x1a' then .plain
  else match s with
    | .plain => .plain
    | .escape =>
      if within ' ' '/' c then .short
      else if c = '[' then .parameters true
      else if c = ']' then .command
      else if c = 'P' then .device 0
      else if c = 'X' || c = '^' || c = '_' then .string
      else if within '0' '~' c then .plain
      else .escape
    | .short => if within '0' '~' c then .plain else .short
    | .parameters first =>
      if within ' ' '/' c then .intermediate
      else if within '0' ';' c then .parameters false
      else if within '<' '?' c then if first then .parameters false else .ignored
      else if within '@' '~' c then .plain
      else .parameters first
    | .intermediate =>
      if within '0' '?' c then .ignored
      else if within '@' '~' c then .plain
      else .intermediate
    | .ignored => if within '@' '~' c then .plain else .ignored
    | .device stage =>
      if stage = 0 && (within '0' '9' c || within ';' '?' c) then .device 1
      else if stage ≤ 1 && within ' ' '/' c then .device 2
      else if within '0' '?' c then
        if stage = 1 && (within '0' '9' c || c = ';') then .device 1 else .string
      else if within '@' '~' c then .string
      else .device stage
    | .string => .string
    | .command => if c = '\x07' then .plain else .command

/-- Does white space end what is being read? -/
def State.abandonable : State → Bool
  | .device _ | .string | .command => false
  | _ => true

/-- Reads a character: the next state, and whether it is shown. -/
def State.read (s : State) (c : Char) : State × Bool :=
  if s = .plain && (within ' ' '~' c || c.toNat ≥ 0x80) then (.plain, true)
  else if s.abandonable && isBreak c then (.plain, true)
  else (s.next c, false)

/-- What is shown of a text, from a state on. -/
def shown (s : State) : List Char → List Char
  | [] => []
  | c :: rest =>
    match s.read c with
    | (next, true) => c :: shown next rest
    | (next, false) => shown next rest

end Terminal

/-- What a terminal shows of a text. -/
def visible (text : List Char) : List Char := Terminal.shown .plain text

end JsxDetect
