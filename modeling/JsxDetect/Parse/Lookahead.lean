import JsxDetect.Automaton.Table
import JsxDetect.Grammar.Tokens
import JsxDetect.Grammar.Expectations
import JsxDetect.Tree.Syntax

/-!
# The next token

`lookahead` reads the token that comes next in a state.  Context-dependent tokens are looked
for first.  Where the tokens of the state do not fit, those of the error state are tried, and
where these do not fit either, text is skipped until one of them does.

## Main Definitions

* `lookahead`

## Design Notes

A token depends on the state it is read for, so each version reads its own.  In what order the
lexicons are asked is fixed: the tokens that depend on their surroundings, the tokens of the state,
and both again for the error state, which knows all tokens.  Text is skipped only if none of these
finds anything, character by character.
-/

namespace JsxDetect.Parse

open Automaton Grammar Token

/-- A context-dependent token at a place.  One that takes no text counts only outside errors,
if something has been read since the last one, and if it leads to another state. -/
def contextual (state : StateId) (inError hasAdvanced : Bool) (cursor : Cursor) : Option Lexeme :=
  let number := (row (if inError then 0 else state)).expected
  if number = 0 then none
  else
    match (expectedOf number).read cursor with
    | none => none
    | some found =>
      if found.stop.offset ≤ cursor.offset
          && (inError || !hasAdvanced || goto state found.symbol = state) then none
      else some found

/-- The symbol of a token read as a name: that of a keyword, if the state can use it. -/
def nameSymbol (state : StateId) (start stop : Cursor) : Symbol :=
  if start.bytesTo stop > longestKeyword then Symbol.identifier
  else
    match keyword? (start.lexeme stop) with
    | some symbol => if acts state symbol then symbol else Symbol.identifier
    | none => Symbol.identifier

/-- What was found after, perhaps, skipping some text. -/
inductive Found where
  /-- A token; `named` if it was read as a name. -/
  | token (lexeme : Lexeme) (named : Bool)
  /-- Text that fits no token. -/
  | skipped (start stop : Cursor)

/-- Looks for a token from `cursor` on.  `skipped` is the text skipped so far, `before` the place
where the search began. -/
def search (state : StateId) (hasAdvanced : Bool) (before : Cursor) :
    Nat → Bool → Option (Cursor × Cursor) → Cursor → Found
  | 0, _, skipped, cursor =>
    match skipped with
    | some (start, stop) => .skipped start stop
    | none => .skipped cursor cursor
  | fuel + 1, inError, skipped, cursor =>
    let found (token : Found) : Found :=
      match skipped with
      | some (start, stop) => .skipped start stop
      | none => token
    match contextual state inError hasAdvanced cursor with
    | some lexeme => found (.token lexeme false)
    | none =>
      let reading := (lexiconOf (row (if inError then 0 else state)).lexicon).read cursor
      match reading.found with
      | some (symbol, stop) =>
        found (.token ⟨symbol, reading.start, stop⟩ (symbol = Symbol.identifier))
      | none =>
        if !inError then search state hasAdvanced before fuel true none before
        else
          let (start, stop) := skipped.getD (reading.start, reading.start)
          if reading.reached.offset = stop.offset then
            if reading.reached.atEnd then .skipped start stop
            else
              let next := reading.reached.next
              search state hasAdvanced before fuel true (some (start, next)) next
          else
            search state hasAdvanced before fuel true (some (start, reading.reached))
              reading.reached

/-- The next token in a state, as a leaf of a syntax tree.  `hasAdvanced` tells whether
anything has been read since the last error. -/
def lookahead (fuel : Nat) (state : StateId) (hasAdvanced : Bool) (cursor : Cursor) : SyntaxTree :=
  match search state hasAdvanced cursor fuel (state = 0) none cursor with
  | .token lexeme named =>
    let symbol := if named then nameSymbol state lexeme.start lexeme.stop else lexeme.symbol
    SyntaxTree.leaf symbol cursor lexeme.start lexeme.stop
  | .skipped start stop => SyntaxTree.leaf Symbol.error cursor start stop

end JsxDetect.Parse
