/-!
# Patterns

The shapes of tokens as regular expressions over characters, read one character at a time.
`Pattern.step` gives the patterns that describe what may follow once a character has been
read; a text matches a pattern when, after its characters, one of them accepts nothing more.

## Main Definitions

* `CharSet`: a set of characters, by its ranges or by the ranges it leaves out
* `Pattern`, `Pattern.nullable`, `Pattern.step`
-/

namespace JsxDetect.Token

/-- A set of characters. -/
inductive CharSet where
  /-- The characters in one of the ranges, ends included. -/
  | within (ranges : List (Char × Char))
  /-- The characters in none of the ranges. -/
  | outside (ranges : List (Char × Char))
  deriving Repr, DecidableEq

namespace CharSet

/-- Is the character in one of the ranges? -/
def inRanges (c : Char) : List (Char × Char) → Bool
  | [] => false
  | (low, high) :: ranges => (low.toNat ≤ c.toNat && c.toNat ≤ high.toNat) || inRanges c ranges

/-- The characters of a list. -/
def ofList (chars : List Char) : CharSet := within (chars.map fun c => (c, c))

/-- Is the character in the set? -/
def contains (c : Char) : CharSet → Bool
  | within ranges => inRanges c ranges
  | outside ranges => !inRanges c ranges

end CharSet

/-- The shape of a token. -/
inductive Pattern where
  /-- Exactly these characters. -/
  | literal (chars : List Char)
  /-- One character of a set. -/
  | one (set : CharSet)
  /-- One shape after another. -/
  | seq (first second : Pattern)
  /-- One of two shapes. -/
  | alt (left right : Pattern)
  /-- Any number of repetitions. -/
  | star (body : Pattern)
  deriving Repr, DecidableEq

namespace Pattern

/-- The shape of the empty text. -/
def empty : Pattern := literal []

/-- At least one repetition. -/
def plus (body : Pattern) : Pattern := seq body (star body)

/-- Once or not at all. -/
def opt (body : Pattern) : Pattern := alt body empty

/-- Exactly `n` repetitions. -/
def exactly : Nat → Pattern → Pattern
  | 0, _ => empty
  | 1, body => body
  | n + 1, body => seq body (exactly n body)

/-- From one to `n + 1` repetitions. -/
def upTo : Nat → Pattern → Pattern
  | 0, body => body
  | n + 1, body => seq body (opt (upTo n body))

/-- One shape after the other, for each in a list. -/
def all : List Pattern → Pattern
  | [] => empty
  | [p] => p
  | p :: ps => seq p (all ps)

/-- One of the shapes in a nonempty list. -/
def any : List Pattern → Pattern
  | [] => empty
  | [p] => p
  | p :: ps => alt p (any ps)

/-- Does the pattern accept the empty text? -/
def nullable : Pattern → Bool
  | literal chars => chars.isEmpty
  | one _ => false
  | seq first second => first.nullable && second.nullable
  | alt left right => left.nullable || right.nullable
  | star _ => true

/-- `first`, then `second`, without a needless empty step in front. -/
def chain (second : Pattern) : Pattern → Pattern
  | literal [] => second
  | first => seq first second

/-- What may follow once `c` has been read: a text `c :: cs` matches `p` exactly when `cs`
matches a member of `p.step c`. -/
def step (c : Char) : Pattern → List Pattern
  | literal [] => []
  | literal (d :: chars) => if c = d then [literal chars] else []
  | one set => if set.contains c then [empty] else []
  | seq first second =>
    (first.step c).map (chain second) ++ if first.nullable then second.step c else []
  | alt left right => left.step c ++ right.step c
  | star body => (body.step c).map (chain (star body))

end Pattern

end JsxDetect.Token
