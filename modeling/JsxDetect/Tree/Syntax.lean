import JsxDetect.Tree.Rose
import JsxDetect.Grammar.Symbols

/-!
# Syntax trees

The nodes that the parser builds.  A leaf is a token, a piece of text that fits no token, or a
token that the parser added because it was missing.  Every node knows the cost of the errors
below it, which decides between readings of the same text.

## Main Definitions

* `SyntaxInfo`, `SyntaxTree`
* `SyntaxTree.leaf`, `SyntaxTree.missing`, `SyntaxTree.ofChildren`
* `SyntaxTree.cost`, `SyntaxTree.hasError`
* `SyntaxTree.replaces`: which of two readings of the same text is kept

## Design Notes

A node keeps sums of what is below it, such as cost and number of nodes, since the parser compares
trees all the time and must not walk over them.  They are computed when the node is made;
`SyntaxTree.ofChildren` is the only way to make an inner node.  Places are kept as cursors of the
text, from which all lengths follow.
-/

namespace JsxDetect

/-! ### Costs of errors -/

namespace Cost

/-- For every stretch of text that fits no rule. -/
def recovery : Nat := 500

/-- For every token that is missing. -/
def missingToken : Nat := 110

/-- For every visible node inside such a stretch. -/
def skippedNode : Nat := 100

/-- For every byte of such a stretch. -/
def skippedByte : Nat := 1

/-- For every line of such a stretch. -/
def skippedLine : Nat := 30

end Cost

/-- What a node of a syntax tree knows. -/
structure SyntaxInfo where
  symbol : Symbol
  /-- The place before the blanks in front of the node. -/
  before : Cursor
  /-- The place of the first character of the node. -/
  start : Cursor
  /-- The place behind the node. -/
  stop : Cursor
  /-- May the node stand anywhere, as a comment may? -/
  extra : Bool
  /-- Is it a token that the text lacks? -/
  isMissing : Bool
  /-- Is the node part of the syntax tree, or does it only group others? -/
  visible : Bool
  /-- The cost of the errors in the nodes below, and in the node itself if it is one. -/
  damage : Nat
  /-- What the rules below add in favour of this reading. -/
  bonus : Int
  /-- The visible nodes next below. -/
  visibleChildren : Nat
  /-- All visible nodes below. -/
  visibleBelow : Nat
  /-- All nodes, this one included. -/
  size : Nat

/-- A syntax tree. -/
abbrev SyntaxTree := Rose SyntaxInfo

namespace SyntaxTree

/-- The symbol of the root. -/
def symbol (t : SyntaxTree) : Symbol := t.label.symbol

/-- May the node stand anywhere? -/
def extra (t : SyntaxTree) : Bool := t.label.extra

/-- Is the root part of the syntax tree? -/
def visible (t : SyntaxTree) : Bool := t.label.visible

/-- Has the tree nothing below its root? -/
def isLeaf (t : SyntaxTree) : Bool := t.children.isEmpty

/-- The cost of the errors in the tree. -/
def cost (t : SyntaxTree) : Nat :=
  if t.label.isMissing then Cost.missingToken + Cost.recovery else t.label.damage

/-- Does the tree contain an error or a missing token? -/
def hasError (t : SyntaxTree) : Bool := t.cost > 0

/-- What speaks for this reading. -/
def bonus (t : SyntaxTree) : Int := if t.isLeaf then 0 else t.label.bonus

/-- The bytes of the blanks in front of the tree. -/
def padding (t : SyntaxTree) : Nat := t.label.before.bytesTo t.label.start

/-- The bytes of the tree without the blanks in front. -/
def bytes (t : SyntaxTree) : Nat := t.label.start.bytesTo t.label.stop

/-- The bytes of the tree and the blanks in front. -/
def totalBytes (t : SyntaxTree) : Nat := t.label.before.bytesTo t.label.stop

/-- The line feeds in the tree and the blanks in front. -/
def totalRows (t : SyntaxTree) : Nat := t.label.before.rowsTo t.label.stop

/-- The nodes that count when readings are compared: the visible ones, and each stretch of
text that is being skipped. -/
def nodeCount (t : SyntaxTree) : Nat :=
  t.label.visibleBelow + (if t.visible then 1 else 0) + if t.symbol = Symbol.skipped then 1 else 0

/-! ### Building trees -/

/-- A leaf between two places. -/
def leaf (symbol : Symbol) (before start stop : Cursor) : SyntaxTree :=
  .node ⟨symbol, before, start, stop, symbol = Symbol.endOfText, false, symbol.visible, 0, 0, 0, 0, 1⟩ []

/-- A token that the text lacks at a place. -/
def missing (symbol : Symbol) (cursor : Cursor) : SyntaxTree :=
  .node ⟨symbol, cursor, cursor, cursor, false, true, symbol.visible, 0, 0, 0, 0, 1⟩ []

/-- The tree, marked as one that may stand anywhere, or as one that may not. -/
def withExtra (extra : Bool) : SyntaxTree → SyntaxTree
  | .node info children => .node { info with extra } children

/-- The leaf under another symbol. -/
def withSymbol (symbol : Symbol) : SyntaxTree → SyntaxTree
  | .node info children => .node { info with symbol, visible := symbol.visible } children

/-- The tree with something more in its favour. -/
def addBonus (more : Int) : SyntaxTree → SyntaxTree
  | .node info children => .node { info with bonus := info.bonus + more } children

/-- Does the symbol stand for text that fits no rule? -/
def isErrorSymbol (symbol : Symbol) : Bool := symbol = Symbol.error || symbol = Symbol.skipped

/-- What a child adds to the cost of a stretch of text that fits no rule: for a visible node
once, for another one as often as it has visible nodes next below. -/
def skippedCost (child : SyntaxTree) : Nat :=
  if child.extra || (child.symbol = Symbol.error && child.isLeaf) then 0
  else if child.visible then Cost.skippedNode
  else Cost.skippedNode * child.label.visibleChildren

/-- What the nodes of a list add up to. -/
structure Sums where
  damage : Nat := 0
  bonus : Int := 0
  visibleChildren : Nat := 0
  visibleBelow : Nat := 0
  size : Nat := 1

/-- Adds a child; `inError` tells whether the parent is text that fits no rule. -/
def Sums.add (inError : Bool) (sums : Sums) (child : SyntaxTree) : Sums where
  damage := sums.damage + (if child.symbol = Symbol.skipped then 0 else child.cost) +
    if inError then skippedCost child else 0
  bonus := sums.bonus + child.bonus
  visibleChildren := sums.visibleChildren + if child.visible then 1 else child.label.visibleChildren
  visibleBelow := sums.visibleBelow + child.label.visibleBelow + if child.visible then 1 else 0
  size := sums.size + child.label.size

/-- The last tree of a list that is not empty. -/
def lastOf (first : SyntaxTree) : List SyntaxTree → SyntaxTree
  | [] => first
  | t :: ts => lastOf t ts

/-- A node over some children; `cursor` is the place of a node without children. -/
def ofChildren (symbol : Symbol) (cursor : Cursor) (children : List SyntaxTree) : SyntaxTree :=
  let inError := isErrorSymbol symbol
  let sums := children.foldl (Sums.add inError) {}
  let (before, start, stop) := match children with
    | [] => (cursor, cursor, cursor)
    | t :: ts => (t.label.before, t.label.start, (lastOf t ts).label.stop)
  let own :=
    if inError then
      Cost.recovery + Cost.skippedByte * start.bytesTo stop + Cost.skippedLine * start.rowsTo stop
    else 0
  .node ⟨symbol, before, start, stop, false, false, symbol.visible, sums.damage + own, sums.bonus,
    sums.visibleChildren, sums.visibleBelow, sums.size⟩ children

/-! ### Choosing between trees -/

/-- Compares two lists of trees by symbols and numbers of children, from left to right and from
the top down. -/
def compareShapes : Nat → List (SyntaxTree × SyntaxTree) → Ordering
  | 0, _ => .eq
  | _, [] => .eq
  | fuel + 1, (a, b) :: rest =>
    match compare a.symbol b.symbol with
    | .eq =>
      match compare a.children.length b.children.length with
      | .eq => compareShapes fuel (a.children.zip b.children ++ rest)
      | other => other
    | other => other

/-- Of two readings of the same text, does `b` replace `a`?  The cheaper one is kept, then the
one with more in its favour; of two faulty ones the later, of two sound ones the smaller. -/
def replaces (a b : SyntaxTree) : Bool :=
  if b.cost < a.cost then true
  else if a.cost < b.cost then false
  else if b.bonus > a.bonus then true
  else if a.bonus > b.bonus then false
  else if a.cost > 0 then true
  else compareShapes (a.label.size + 1) [(a, b)] == .gt

/-- Do two trees stand for the same piece of text, so that one of them will do? -/
def alike (a b : SyntaxTree) : Bool :=
  a.symbol == b.symbol &&
    ((a.cost > 0 && b.cost > 0) ||
      (a.padding == b.padding && a.bytes == b.bytes &&
        a.children.length == b.children.length && a.extra == b.extra))

/-- Splits off the trees at the end of a list that may stand anywhere. -/
def splitExtras (trees : List SyntaxTree) : List SyntaxTree × List SyntaxTree :=
  let reversed := trees.reverse
  ((reversed.dropWhile extra).reverse, (reversed.takeWhile extra).reverse)

end SyntaxTree

end JsxDetect
