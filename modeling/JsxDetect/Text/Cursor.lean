/-!
# Places in a text

A `Cursor` is a place in a text: what is left to read from there, with the bytes and line
feeds already behind it.  Every extent the parser weighs is the distance between two cursors
of one text, so no token has to store its own length.

## Main Definitions

* `Cursor`, `Cursor.ofText`, `Cursor.next`
* `Cursor.bytesTo`, `Cursor.rowsTo`: the distance to a later cursor
-/

namespace JsxDetect

/-- A place in a text. -/
structure Cursor where
  /-- The characters still to be read. -/
  rest : List Char
  /-- The bytes of the UTF-8 encoding of the text before this place. -/
  offset : Nat
  /-- The line feeds before this place. -/
  row : Nat
  deriving Repr, DecidableEq, Inhabited

namespace Cursor

/-- The beginning of a text. -/
def ofText (text : List Char) : Cursor := ⟨text, 0, 0⟩

/-- The bytes a character takes in UTF-8. -/
def width (c : Char) : Nat :=
  if c.toNat < 0x80 then 1 else if c.toNat < 0x800 then 2 else if c.toNat < 0x10000 then 3 else 4

/-- The place behind the character `c`, when `rest` follows it. -/
def past (cursor : Cursor) (c : Char) (rest : List Char) : Cursor :=
  ⟨rest, cursor.offset + width c, if c = '\n' then cursor.row + 1 else cursor.row⟩

/-- The place one character further on; the end of the text stays where it is. -/
def next (cursor : Cursor) : Cursor :=
  match cursor.rest with
  | [] => cursor
  | c :: rest => cursor.past c rest

/-- The next character, unless the text ends here. -/
def peek (cursor : Cursor) : Option Char := cursor.rest.head?

/-- Does the text end here? -/
def atEnd (cursor : Cursor) : Bool := cursor.rest.isEmpty

/-- The bytes between two places. -/
def bytesTo (start stop : Cursor) : Nat := stop.offset - start.offset

/-- The line feeds between two places. -/
def rowsTo (start stop : Cursor) : Nat := stop.row - start.row

/-- The characters from one place up to a later one. -/
def lexeme (start stop : Cursor) : List Char :=
  go start.rest start.offset
where
  /-- Collects characters until `stop` is reached. -/
  go : List Char → Nat → List Char
    | [], _ => []
    | c :: rest, offset => if offset < stop.offset then c :: go rest (offset + width c) else []

/-- The first place, from here on, whose next character fails `p`, or the end. -/
def skipWhile (p : Char → Bool) (cursor : Cursor) : Cursor :=
  go cursor.rest cursor.offset cursor.row
where
  /-- Walks along the remaining characters. -/
  go : List Char → Nat → Nat → Cursor
    | [], offset, row => ⟨[], offset, row⟩
    | c :: rest, offset, row =>
      if p c then go rest (offset + width c) (if c = '\n' then row + 1 else row)
      else ⟨c :: rest, offset, row⟩

end Cursor

end JsxDetect
