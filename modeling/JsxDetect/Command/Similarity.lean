/-!
# Similar words

How similar a misspelt word is to a known one: the share of the characters of either that match
a character of the other nearby, and of the matches that come in the same order.

The measure is taken in binary fractions of 53 digits, as known words that are all but equally
similar are told apart by the last of them.

## Main Definitions

* `Similarity.measure`
* `mostSimilar`: the known word that is most similar to another, if any is similar enough
-/

namespace JsxDetect

namespace Similarity

/-! ### Matching characters -/

/-- Marks the first of some characters, the first of them at `index`, that equals `c`, is not
marked and lies in a window. -/
def mark (c : Char) (first last : Nat) : Nat → List (Char × Bool) → Option (List (Char × Bool))
  | _, [] => none
  | index, (other, marked) :: rest =>
    if last < index then none
    else if first ≤ index ∧ other = c ∧ ¬ marked then some ((other, true) :: rest)
    else (mark c first last (index + 1) rest).map ((other, marked) :: ·)

/-- The characters, the first of them at `index`, that match one of `others` in a window of some
width, and the others with those marked that were matched. -/
def matching (width : Nat) :
    Nat → List Char → List (Char × Bool) → List Char → List Char × List (Char × Bool)
  | _, [], others, found => (found.reverse, others)
  | index, c :: rest, others, found =>
    match mark c (index - width) (index + width) 0 others with
    | some marked => matching width (index + 1) rest marked (c :: found)
    | none => matching width (index + 1) rest others found

/-- How many of the pairs are different. -/
def differing : List Char → List Char → Nat
  | a :: as, b :: bs => (if a = b then 0 else 1) + differing as bs
  | _, _ => 0

/-! ### Fractions -/

/-- The unit of measures. -/
def unit : Nat := 1 <<< 64

/-- The binary fraction of 53 digits that is next to a fraction, in units; of two that are
equally near, the even one. -/
def nearest (numerator denominator : Nat) : Nat :=
  let step := 1 <<< ((numerator * unit / denominator).log2 - 52)
  let quotient := numerator * unit / (denominator * step)
  let twice := 2 * (numerator * unit % (denominator * step))
  let up := denominator * step < twice || (twice = denominator * step && quotient % 2 = 1)
  (if up then quotient + 1 else quotient) * step

/-- The sum of two measures. -/
def add (a b : Nat) : Nat := nearest (a + b) unit

/-- How similar two words are, in units. -/
def measure (a b : List Char) : Nat :=
  let width := max a.length b.length / 2 - 1
  let (found, others) := matching width 0 a (b.map (·, false)) []
  let same := found.length
  if same = 0 then 0
  else
    let swapped := differing found ((others.filter (·.2)).map (·.1)) / 2
    let shares := add (nearest same a.length) (nearest same b.length)
    nearest (add shares (nearest (same - swapped) same)) (3 * unit)

/-- Only words that are more similar than this are taken for misspelt. -/
def threshold : Nat := nearest 7 10

end Similarity

/-- The better of a candidate and the best one so far, a later one being better if it is as
similar. -/
def Similarity.better {α : Type} (word : List Char) (best : Option (Nat × α))
    (candidate : List Char × α) : Option (Nat × α) :=
  let measure := Similarity.measure word candidate.1
  if measure ≤ Similarity.threshold || best.any (measure < ·.1) then best
  else some (measure, candidate.2)

/-- The known word that is most similar to another, if any is similar enough; the last of those
that are equally similar. -/
def mostSimilar {α : Type} (word : List Char) (known : List (List Char × α)) : Option α :=
  (known.foldl (Similarity.better word) none).map (·.2)

end JsxDetect
