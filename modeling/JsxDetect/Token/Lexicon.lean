import JsxDetect.Text.Cursor
import JsxDetect.Token.Pattern

/-!
# Reading a token

A `Lexicon` is the list of tokens that may come next.  `Lexicon.read` follows all their
patterns at once, character by character, and keeps the last place where one was complete.

Blanks may precede a token unless its rule is *immediate*.  Where one token is complete and
the reading could go on, it goes on only for a token of higher priority, or of the same
priority as long as this is no mere skipping of blanks.

## Main Definitions

* `Rule`, `Rule.beats`: a token and its standing among the tokens complete at one place
* `Lexicon`, `Lexicon.read`, `Reading`

## Design Notes

The parser's lexer is a table of states made from regular expressions.  Here it is the list of these
expressions, followed by derivatives, and the priorities that the table was made with are applied as
characters are read.  So what a lexicon reads can be computed without the table, and rules can be
told apart in proofs.
-/

namespace JsxDetect

/-- A symbol of the grammar, by its number. -/
abbrev Symbol := Nat

namespace Token

/-- The blanks that may stand before a token. -/
def blanks : CharSet :=
  .within [('\x09', '\x0d'), (' ', ' '), ('\u00a0', '\u00a0'), ('\u1680', '\u1680'),
    ('\u2000', '\u200b'), ('\u2028', '\u2029'), ('\u202f', '\u202f'), ('\u205f', '\u2060'),
    ('\u3000', '\u3000'), ('\ufeff', '\ufeff')]

/-- A token of the grammar. -/
structure Rule where
  /-- The place of the rule in the grammar; of two equal rules the earlier one wins. -/
  rank : Nat
  /-- The symbol that the token stands for. -/
  symbol : Symbol
  /-- The shape of the token. -/
  pattern : Pattern
  /-- The declared priority. -/
  priority : Int := 0
  /-- How exactly the shape is given: a fixed text is more exact than a class of texts. -/
  exactness : Nat := 0
  /-- Must the token follow without blanks? -/
  immediate : Bool := false
  deriving Repr, DecidableEq

/-- Is `a` taken when both tokens are complete at one place? -/
def Rule.beats (a b : Rule) : Bool :=
  if a.priority ≠ b.priority then a.priority > b.priority
  else if a.exactness ≠ b.exactness then a.exactness > b.exactness
  else a.rank < b.rank

/-- The tokens that may come next. -/
structure Lexicon where
  /-- May the text end here? -/
  acceptsEnd : Bool
  /-- The rules of the tokens. -/
  rules : List Rule
  deriving Repr, DecidableEq

/-- What is still to be read of a token that has begun. -/
structure Thread where
  rule : Rule
  remaining : Pattern
  deriving DecidableEq

namespace Thread

/-- Is the token complete? -/
def complete (t : Thread) : Bool := t.remaining.nullable

/-- The threads that go on after one more character. -/
def step (c : Char) (t : Thread) : List Thread :=
  (t.remaining.step c).map fun p => { t with remaining := p }

/-- Do two threads wait for the same thing? -/
def same (a b : Thread) : Bool := a.rule.rank == b.rule.rank && a.remaining == b.remaining

/-- Drops repeated threads. -/
def dedupe : List Thread → List Thread
  | [] => []
  | t :: ts =>
    let rest := dedupe ts
    if rest.any (same t) then rest else t :: rest

/-- The token taken among those complete here. -/
def best (ts : List Thread) : Option Rule :=
  ts.foldl (fun found t =>
    if t.complete then
      match found with
      | some r => if r.beats t.rule then some r else some t.rule
      | none => some t.rule
    else found) none

end Thread

/-- The outcome of reading a token. -/
structure Reading where
  /-- The place behind the blanks that were skipped. -/
  start : Cursor
  /-- The place where reading stopped. -/
  reached : Cursor
  /-- The token, with the place behind it. -/
  found : Option (Symbol × Cursor)

namespace Lexicon

/-- The threads of all tokens at their beginning. -/
def starts (lexicon : Lexicon) : List Thread :=
  lexicon.rules.map fun r => ⟨r, r.pattern⟩

/-- The threads of the tokens that may follow a blank. -/
def startsAfterBlank (lexicon : Lexicon) : List Thread :=
  (lexicon.rules.filter fun r => !r.immediate).map fun r => ⟨r, r.pattern⟩

/-- The priority of going on: the highest among the threads, and that of a skipped blank. -/
def goingPriority (blank : Bool) (moved : List Thread) : Int :=
  let priorities : List Int := moved.map fun t => t.rule.priority
  (priorities ++ if blank then [0] else []).max?.getD 0

/-- Does reading go on, past the complete token `done`, to the threads `moved`?  `loose` says
that blanks could stand here, `blank` that the next character is one of them. -/
def goesOn (done : Option Rule) (loose blank : Bool) (moved : List Thread) : Bool :=
  match done with
  | none => true
  | some r =>
    let priority := goingPriority blank moved
    if priority = r.priority then
      !moved.isEmpty &&
        (!loose || (blank && !r.immediate) || moved.any fun t => t.rule.rank == r.rank)
    else r.priority < priority

/-- Follows the threads along the remaining characters.  `loose` says that only blanks, or
nothing, may have been read by some thread, `onlyBlanks` that nothing else has been read. -/
def follow (lexicon : Lexicon) (threads : List Thread) (loose onlyBlanks : Bool)
    (start : Cursor) (found : Option (Symbol × Cursor)) :
    List Char → Nat → Nat → Reading
  | [], offset, row =>
    let here : Cursor := ⟨[], offset, row⟩
    let found :=
      if lexicon.acceptsEnd && onlyBlanks then some (0, here)
      else match Thread.best threads with
        | some r => some (r.symbol, here)
        | none => found
    ⟨start, here, found⟩
  | c :: rest, offset, row =>
    let here : Cursor := ⟨c :: rest, offset, row⟩
    let done := Thread.best threads
    let found := match done with
      | some r => some (r.symbol, here)
      | none => found
    let moved := threads.flatMap (Thread.step c)
    let blank := loose && blanks.contains c
    if moved.isEmpty && !blank then ⟨start, here, found⟩
    else if goesOn done loose blank moved then
      let offset' := offset + Cursor.width c
      let row' := if c = '\n' then row + 1 else row
      let skipped := moved.isEmpty
      follow lexicon
        (Thread.dedupe moved ++ if blank then lexicon.startsAfterBlank else [])
        blank (onlyBlanks && skipped) (if skipped then ⟨rest, offset', row'⟩ else start) found
        rest offset' row'
    else ⟨start, here, found⟩

/-- A byte order mark at the very beginning of a text belongs to no token. -/
def skipMark (cursor : Cursor) : Cursor :=
  if cursor.offset = 0 && cursor.peek == some '\ufeff' then cursor.next else cursor

/-- Reads the next token of the lexicon. -/
def read (lexicon : Lexicon) (cursor : Cursor) : Reading :=
  let cursor := skipMark cursor
  follow lexicon lexicon.starts (lexicon.rules.any fun r => !r.immediate) true cursor none
    cursor.rest cursor.offset cursor.row

end Lexicon

end Token

end JsxDetect
