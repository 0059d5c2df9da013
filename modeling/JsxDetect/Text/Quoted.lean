/-!
# Quoted texts

The string literals of JSON documents.  Everything below the space and the two characters that
would end or alter a literal are escaped, so a literal stays on its line and within its quotes.

## Main Definitions

* `quote`: the literal of a text
-/

namespace JsxDetect

/-- A character inside a literal. -/
def quoteChar (c : Char) : List Char :=
  if c = '"' then ['\\', '"']
  else if c = '\\' then ['\\', '\\']
  else if c = '\x08' then ['\\', 'b']
  else if c = '\x0c' then ['\\', 'f']
  else if c = '\n' then ['\\', 'n']
  else if c = '\r' then ['\\', 'r']
  else if c = '\t' then ['\\', 't']
  else if c.toNat < 0x20 then
    ['\\', 'u', '0', '0', Nat.digitChar (c.toNat / 16), Nat.digitChar (c.toNat % 16)]
  else [c]

/-- The literal of a text. -/
def quote (text : List Char) : List Char := '"' :: text.flatMap quoteChar ++ ['"']

end JsxDetect
