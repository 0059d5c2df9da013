import JsxDetect.Token.Lexicon

/-!
# Tokens that depend on their surroundings

Some tokens are no regular expressions: the semicolon that a line break stands for, the
characters of a template literal, the question mark of a conditional, the comments borrowed
from markup.  Each is looked for only where the parser can use it, which `Expected` records.

## Main Definitions

* `Expected`: what the parser can use at a place
* `Semicolon`, `semicolon`: may a semicolon be left out here?
* `Expected.read`: the token found, if any
-/

namespace JsxDetect.Token

/-- The context-dependent tokens that the parser can use at a place. -/
structure Expected where
  automaticSemicolon : Bool := false
  templateChars : Bool := false
  ternaryMark : Bool := false
  htmlComment : Bool := false
  logicalOr : Bool := false
  escapeSequence : Bool := false
  regexPattern : Bool := false
  signatureSemicolon : Bool := false
  deriving Repr, DecidableEq

/-- A token and the places it lies between; blanks before `start` belong to none. -/
structure Lexeme where
  symbol : Symbol
  start : Cursor
  stop : Cursor
  deriving Repr, DecidableEq

/-- The blanks of the context-dependent tokens: the ASCII ones. -/
def isSpace (c : Char) : Bool := c == ' ' || ('\x09'.toNat ≤ c.toNat && c.toNat ≤ '\x0d'.toNat)

/-- An ASCII letter. -/
def isLetter (c : Char) : Bool :=
  ('a'.toNat ≤ c.toNat && c.toNat ≤ 'z'.toNat) || ('A'.toNat ≤ c.toNat && c.toNat ≤ 'Z'.toNat)

/-- An ASCII digit. -/
def isDigit (c : Char) : Bool := '0'.toNat ≤ c.toNat && c.toNat ≤ '9'.toNat

/-! ### Template literals -/

/-- The end of the characters of a template literal: the next backtick, backslash or
substitution, if anything stands before it. -/
def templateEnd (seen : Bool) : List Char → Nat → Nat → Option Cursor
  | [], _, _ => none
  | c :: rest, offset, row =>
    let here := if seen then some (Cursor.mk (c :: rest) offset row) else none
    if c = '\x60' || c = '\\' then here
    else if c = '$' && rest.head? == some '\x7b' then here
    else templateEnd true rest (offset + Cursor.width c) (if c = '\n' then row + 1 else row)

/-! ### Automatic semicolons -/

/-- Where a walk over blanks and comments stands. -/
inductive Gap where
  /-- Between blanks. -/
  | blank
  /-- Behind a slash that may open a comment. -/
  | slash
  /-- In a comment to the end of the line. -/
  | line
  /-- In a comment up to its closing mark. -/
  | block
  /-- In such a comment, behind a star. -/
  | star
  deriving Repr, DecidableEq

/-- The end of a walk over blanks and comments. -/
structure GapEnd where
  /-- Did the walk end before a character that belongs to neither? -/
  clean : Bool
  /-- The place where it ended. -/
  stop : Cursor
  /-- Was a comment passed? -/
  comment : Bool
  deriving Repr, DecidableEq

/-- Walks over blanks and comments.  A slash that opens no comment ends the walk unclean. -/
def skipGap (gap : Gap) (comment : Bool) : List Char → Nat → Nat → GapEnd
  | [], offset, row => ⟨gap ≠ .slash, ⟨[], offset, row⟩, comment || gap = .line⟩
  | c :: rest, offset, row =>
    let here : Cursor := ⟨c :: rest, offset, row⟩
    let offset' := offset + Cursor.width c
    let row' := if c = '\n' then row + 1 else row
    match gap with
    | .blank =>
      if isSpace c then skipGap .blank comment rest offset' row'
      else if c = '/' then skipGap .slash comment rest offset' row'
      else ⟨true, here, comment⟩
    | .slash =>
      if c = '/' then skipGap .line comment rest offset' row'
      else if c = '*' then skipGap .block comment rest offset' row'
      else ⟨false, here, comment⟩
    | .line => skipGap (if c = '\n' then .blank else .line) (comment || c = '\n') rest offset' row'
    | .block => skipGap (if c = '*' then .star else .block) comment rest offset' row'
    | .star =>
      if c = '/' then skipGap .blank true rest offset' row'
      else skipGap (if c = '*' then .star else .block) comment rest offset' row'

/-- The answer to whether a semicolon may be left out. -/
inductive Semicolon where
  /-- It may. -/
  | inserted
  /-- It may not; the question was settled at a place, perhaps behind a comment. -/
  | refused (settledAt : Cursor) (comment : Bool)
  deriving Repr, DecidableEq

/-- The characters that carry on the statement of the line before. -/
def continuesStatement (c : Char) : Bool :=
  [',', '.', ';', '*', '%', '>', '<', '=', '?', '^', '|', '&', '/', ':'].contains c

/-- After a letter `i` at the beginning of a line: an operator `in` or `instanceof` carries on
the statement, any other word begins a new one. -/
def semicolonBeforeWord (comment : Bool) (behindI : Cursor) : Semicolon :=
  if behindI.peek ≠ some 'n' then .inserted
  else
    let behindN := behindI.next
    if !(behindN.peek.any isLetter) then .refused behindN comment
    else walk ['s', 't', 'a', 'n', 'c', 'e', 'o', 'f'] behindN
where
  /-- Compares the letters that are left of `instanceof`. -/
  walk : List Char → Cursor → Semicolon
    | [], cursor => if cursor.peek.any isLetter then .inserted else .refused cursor comment
    | c :: word, cursor => if cursor.peek == some c then walk word cursor.next else .inserted

/-- May a semicolon be left out behind a line break, given what begins the next line? -/
def semicolonBeforeLine (expected : Expected) (gap : GapEnd) : Semicolon :=
  let refusedAt (cursor : Cursor) : Semicolon := .refused cursor gap.comment
  if !gap.clean then refusedAt gap.stop
  else match gap.stop.peek with
    | none => .inserted
    | some c =>
      if continuesStatement c then refusedAt gap.stop
      else if c = '\x7b' then
        if expected.signatureSemicolon then refusedAt gap.stop else .inserted
      else if c = '(' || c = '[' then
        if expected.logicalOr then refusedAt gap.stop else .inserted
      else if c = '+' || c = '-' then
        if gap.stop.next.peek == some c then .inserted else refusedAt gap.stop.next
      else if c = '!' then
        if gap.stop.next.peek == some '=' then refusedAt gap.stop.next else .inserted
      else if c = 'i' then semicolonBeforeWord gap.comment gap.stop.next
      else .inserted

/-- May a semicolon be left out here?  It may at the end of the text, before a closing brace
(unless a colon makes the brace part of a pattern), and behind a line break, unless the next
line carries on the statement. -/
def semicolon (expected : Expected) (cursor : Cursor) : Semicolon :=
  let stop := cursor.skipWhile fun c => isSpace c && c != '\n'
  match stop.peek with
  | none => .inserted
  | some '\n' =>
    let line := stop.next
    semicolonBeforeLine expected (skipGap .blank false line.rest line.offset line.row)
  | some '\x7d' =>
    let behind := stop.next.skipWhile isSpace
    if behind.peek == some ':' && !expected.logicalOr then .refused behind false else .inserted
  | some _ => .refused stop false

/-! ### The other tokens -/

/-- The question mark of a conditional: one that begins no other operator and is followed by
neither a colon, a comma nor a closing parenthesis; before a point only if a digit follows. -/
def conditionalMark (cursor : Cursor) : Option Lexeme :=
  let start := cursor.skipWhile isSpace
  if start.peek ≠ some '?' then none
  else
    let stop := start.next
    let mark : Lexeme := ⟨170, start, stop⟩
    if stop.peek == some '?' || stop.peek == some '.' then none
    else
      let behind := stop.skipWhile isSpace
      match behind.peek with
      | some c =>
        if c = ':' || c = ')' || c = ',' then none
        else if c = '.' then if behind.next.peek.any isDigit then some mark else none
        else some mark
      | none => some mark

/-- Does a line of markup comment end before this character? -/
def endsMarkupLine (c : Char) : Bool := c == '\n' || c == '\u2028' || c == '\u2029'

/-- A comment borrowed from markup: an opening or closing mark and the rest of the line. -/
def markupComment (cursor : Cursor) : Option Lexeme :=
  let start := cursor.skipWhile fun c => isSpace c || c == '\u2028' || c == '\u2029'
  if ['<', '!', '-', '-'].isPrefixOf start.rest || ['-', '-', '>'].isPrefixOf start.rest then
    some ⟨171, start, start.next.next.next.skipWhile fun c => !endsMarkupLine c⟩
  else none

/-- Looks for a context-dependent token. -/
def Expected.read (expected : Expected) (cursor : Cursor) : Option Lexeme :=
  let cursor := Lexicon.skipMark cursor
  if expected.templateChars then
    if expected.automaticSemicolon then none
    else (templateEnd false cursor.rest cursor.offset cursor.row).map fun stop => ⟨169, cursor, stop⟩
  else if expected.automaticSemicolon || expected.signatureSemicolon then
    match semicolon expected cursor with
    | .inserted => some ⟨168, cursor, cursor⟩
    | .refused settledAt comment =>
      if !comment && expected.ternaryMark && settledAt.peek == some '?' then conditionalMark settledAt
      else none
  else if expected.ternaryMark then conditionalMark cursor
  else if expected.htmlComment && !expected.logicalOr && !expected.escapeSequence
      && !expected.regexPattern then
    markupComment cursor
  else none

end JsxDetect.Token
