import JsxDetect.Proofs.Comparison.Rounds
import JsxDetect.Proofs.Detection.Answer

/-!
# Comparisons are no JSX

A `<` between two operands is an operator, wherever the lines end, although what stands behind it
may look like a tag or like type arguments.  Some reading of a chain of comparisons has a way on at
each token, so the parser comes to the end of the text without an error, and no reading has a JSX
node.

## Main Results

* `no_jsx_in_comparisons`: there is no JSX in a chain of comparisons

## Design Notes

The result is about texts that a programmer would not suspect: `a < b > c` may begin type arguments
in one reading and be an element in another, and a line break may end a statement.  The parser keeps
several readings at once and may drop some.  So it is not enough that no reading has JSX; it must be
seen that some reading without errors survives, since recovery could put anything in its place.
-/

namespace JsxDetect

open Parse Comparison SyntaxTree

/-- **Comparisons are no JSX.**  In a declaration whose value is a chain of operands with operators
between them, each operator between any blanks and line breaks, there is no JSX, and none is
reported. -/
theorem no_jsx_in_comparisons (c : Chain) :
    (detect (String.ofList c.text)).jsx = false ∧
      ∀ event ∈ (detect (String.ofList c.text)).events, event.message ≠ "jsx node found" := by
  have noNull : '\x00' ∉ c.text := fun mem => by
    have known := c.isOfChain_of_mem _ mem
    cases known
  have noJsx : (detectIn c.text).jsx = false := by
    rw [Detection.jsx, detectIn_kind noNull, c.parse_clean.first]
    rfl
  rw [detect, String.toList_ofList]
  refine ⟨noJsx, fun event mem found => ?_⟩
  rw [jsx_of_jsxFound mem found] at noJsx
  cases noJsx

/-- A chain whose second operator stands first on a line. -/
example : ∃ c : Chain, c.text = "const ok = a < b\n> 10;".toList :=
  ⟨⟨.name ['a'] ⟨by decide, by decide⟩ (by decide +kernel),
    [⟨.space, .less, .space, .name ['b'] ⟨by decide, by decide⟩ (by decide +kernel)⟩,
      ⟨⟨['\n'], by decide, by decide⟩, .greater, .space,
        .numeral ['1', '0'] ⟨by decide, by decide, by decide⟩⟩]⟩,
    rfl⟩

end JsxDetect
