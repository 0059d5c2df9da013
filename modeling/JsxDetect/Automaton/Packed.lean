import JsxDetect.Grammar.Symbols

/-!
# Rows of the parsing automaton

The row of a state lists, for each symbol, what to do when that symbol comes next.  Many
symbols share an entry, so a row is a list of pairs of a set of symbols and the entry they
share.  Few sets occur, so a row is kept *packed*, with a set known by its number.

## Main Definitions

* `Action`: what the parser can do at a token
* `PackedRow`, `Row`, `PackedRow.unpack`, `entry`

## Design Notes

The table is data, and is kept in a form that is small and quick to compile: a row is four numbers,
whose digits are the pairs.  Unpacking is a function like any other and can be evaluated by the
kernel, so facts about all rows are checked over the packed form without the unpacked table ever
being built.
-/

namespace JsxDetect.Automaton

/-- A state of the automaton, by its number. -/
abbrev StateId := Nat

/-- What the parser can do at a token. -/
inductive Action where
  /-- Takes the token and goes to a state.  If `repeats`, the state belongs to a list whose
  items are to be grouped first, and the shift is not made. -/
  | shift (next : StateId) (repeats : Bool)
  /-- Takes the token as one that may stand anywhere, such as a comment. -/
  | shiftExtra
  /-- Looks for a way out of an error. -/
  | recover
  /-- Groups the last `count` nodes under a symbol; `bonus` speaks for this reading. -/
  | reduce (symbol : Symbol) (count : Nat) (bonus : Int)
  /-- Ends the parse. -/
  | accept
  deriving Repr, DecidableEq, Inhabited

/-! ### Tables -/

/-- A table in chunks of 64 entries. -/
structure Chunked (α : Type) where
  chunks : Array (Array α)

namespace Chunked

variable {α : Type}

/-- The table with the given chunks, all but the last of 64 entries. -/
def ofLists (chunks : List (List α)) : Chunked α := ⟨(chunks.map List.toArray).toArray⟩

/-- The entry with a number, or `default` behind the end of the table. -/
def get (table : Chunked α) (index : Nat) (default : α) : α :=
  (table.chunks.getD (index / 64) #[]).getD (index % 64) default

end Chunked

/-! ### Rows -/

/-- A row as it is stored.  `actions` and `gotos` hold a pair in each 24 bits: the number of a
set of symbols in the lower ten, and the entry its symbols share above. -/
structure PackedRow where
  lexicon : Nat
  expected : Nat
  actions : Nat
  gotos : Nat

/-- Pairs of a set of symbols, as a number with a bit for each, and the entry they share. -/
abbrev Entries := List (Nat × Nat)

/-- A row ready for use. -/
structure Row where
  /-- The lexicon that the state reads with. -/
  lexicon : Nat
  /-- The context-dependent tokens that the state can use. -/
  expected : Nat
  /-- What to do at each token. -/
  actions : Entries
  /-- The state behind each completed symbol. -/
  gotos : Entries
  deriving Inhabited

/-- The digits of a number, `bits` bits each, the least significant first, up to the last one
that is not zero. -/
def digits (bits : Nat) : Nat → Nat → List Nat
  | 0, _ => []
  | fuel + 1, n => if n = 0 then [] else n % (1 <<< bits) :: digits bits fuel (n >>> bits)

/-- The entry of a symbol; 0 if it is in none of the sets. -/
def entry (symbol : Nat) : Entries → Nat
  | [] => 0
  | (set, shared) :: entries => if set.testBit symbol then shared else entry symbol entries

/-- The pairs that a number holds. -/
def entriesOf (sets : Chunked Nat) (pairs : Nat) : Entries :=
  (digits 24 256 pairs).map fun d => (sets.get (d % 1024) 0, d >>> 10)

/-- A stored row, ready for use. -/
def PackedRow.unpack (tokens phrases : Chunked Nat) (r : PackedRow) : Row :=
  ⟨r.lexicon, r.expected, entriesOf tokens r.actions, entriesOf phrases r.gotos⟩

end JsxDetect.Automaton
