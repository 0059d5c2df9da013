import JsxDetect.Event
import JsxDetect.Parse.Parser
import JsxDetect.Tree.Search

/-!
# Detecting JSX

A text contains JSX if its syntax tree has an element.  Syntax errors elsewhere do not matter;
a text with a null character is no program and contains none.

## Main Definitions

* `Rose.firstJsxNode?`, `SyntaxTree.firstJsx?`: the first JSX node of a tree
* `detect`: the answer for a text, with what there is to report

## Design Notes

**A parse always gives a tree.**  Syntax errors end up inside the tree, the grammar is fixed, and
nothing interrupts a parse.  So `parse` is total, and the only texts that are answered without
looking at a tree are those with a null character.

**Kinds are read off names.**  A node counts by the name of its symbol alone, whatever lies below
it and however it came about; the search does not ask whether a part of it is missing.
-/

namespace JsxDetect

/-- The kind of the nodes of a name, if it is acceptable. -/
def JsxKind.acceptedOf? (acceptable : JsxKind → Bool) (name : String) : Option JsxKind :=
  (ofNodeKind? name).filter acceptable

/-- The kind of the first JSX node of a tree that is acceptable, when `nodeKind` names the nodes. -/
def Rose.firstJsxNode? {α : Type} (nodeKind : α → String) (acceptable : JsxKind → Bool)
    (tree : Rose α) : Option JsxKind :=
  tree.findFirst? fun label => JsxKind.acceptedOf? acceptable (nodeKind label)

/-- The kind of the first JSX node of a syntax tree that is acceptable. -/
def SyntaxTree.firstJsx? (acceptable : JsxKind → Bool) (tree : SyntaxTree) : Option JsxKind :=
  tree.firstJsxNode? (fun info => info.symbol.name) acceptable

/-- Does the grammar have nodes of a kind? -/
def JsxKind.known (kind : JsxKind) : Bool :=
  Grammar.symbolTable.any fun info => info.visible && info.name = kind.nodeKind

/-- The answer for a text. -/
structure Detection where
  /-- The first JSX of the text. -/
  kind : Option JsxKind
  /-- What there is to report. -/
  events : List Event
  deriving Repr, DecidableEq

/-- Does the text contain JSX? -/
def Detection.jsx (d : Detection) : Bool := d.kind.isSome

/-- The bytes of the UTF-8 encoding of some characters. -/
def byteLength (text : List Char) : Nat := text.foldl (fun n c => n + Cursor.width c) 0

/-- Looks for JSX in a text. -/
def detectIn (text : List Char) : Detection :=
  if text.contains '\x00' then ⟨none, [.binaryText (byteLength text)]⟩
  else
    let tree := Parse.parse text
    let errors := if tree.hasError then [Event.syntaxErrors (byteLength text)] else []
    match tree.firstJsx? fun _ => true with
    | some kind => ⟨some kind, errors ++ [.jsxFound kind]⟩
    | none => ⟨none, errors⟩

/-- Looks for JSX in a string. -/
def detect (text : String) : Detection := detectIn text.toList

end JsxDetect
