import JsxDetect.Automaton.Table
import JsxDetect.Tree.Syntax

/-!
# The stack

While the grammar leaves several readings open the parser keeps them all, on stacks that share
what they have in common.  A `Stack` is the collection of their nodes; a node knows the nodes
below it, and a *link* to one of them carries the tree between the two.  Two readings that
come to the same state at the same place are joined, so a node may have several links.

## Main Definitions

* `StackNode`, `Link`, `Stack`
* `Stack.push`, `Stack.addLink`
* `Stack.walk`: all the ways down from a node, `Stack.pop`: those over a number of trees

## Design Notes

**A growing array.**  Nodes are never removed; those that no version stands on are just not come to.
So the number of a node is its name for good, what is known of a node stays known when others are
added, and proofs need not speak of which nodes are in use.  Links are only added, to nodes in the
same state at the same place.

**Walks.**  All questions about the ways down from a node go through `Stack.walk`, which takes a
function that says, for each way, whether to record it and whether to leave it.  The number of ways
followed at once is bounded, as the number of links of a node is, and both bounds are part of the
behaviour.
-/

namespace JsxDetect.Parse

open Automaton

/-- The step from a node of the stack to one below it. -/
structure Link where
  /-- The node below. -/
  below : Nat
  /-- The tree between the two; none where an error begins. -/
  tree : Option SyntaxTree

/-- A node of the stack. -/
structure StackNode where
  /-- The state of the automaton. -/
  state : StateId
  /-- The place in the text behind the trees below. -/
  place : Cursor
  /-- The ways down, the oldest first. -/
  links : List Link
  /-- The cost of the errors in the trees below. -/
  cost : Nat
  /-- The nodes in the trees below that count when readings are compared. -/
  nodeCount : Nat
  /-- What speaks for the trees below. -/
  bonus : Int
  deriving Inhabited

/-- The nodes of all stacks, by number. -/
abbrev Stack := Array StackNode

/-- The most links a node may have. -/
def maxLinks : Nat := 8

/-- The most ways down that are followed at once. -/
def maxPaths : Nat := 64

namespace Stack

/-- The node with a number. -/
def node (stack : Stack) (index : Nat) : StackNode := stack.getD index default

/-- A node in a state, on top of another one. -/
def nodeOver (stack : Stack) (below : Nat) (tree : Option SyntaxTree) (state : StateId) :
    StackNode :=
  let base := stack.node below
  match tree with
  | none => { base with state, links := [⟨below, none⟩] }
  | some t =>
    { state
      place := t.label.stop
      links := [⟨below, some t⟩]
      cost := base.cost + t.cost
      nodeCount := base.nodeCount + t.nodeCount
      bonus := base.bonus + t.bonus }

/-- Replaces a node. -/
def setNode (stack : Stack) (index : Nat) (node : StackNode) : Stack :=
  stack.setIfInBounds index node

/-! ### Joining -/

/-- Is the tree of a link as good as another one? -/
def sameTree : Option SyntaxTree → Option SyntaxTree → Bool
  | some a, some b => SyntaxTree.alike a b
  | none, none => true
  | _, _ => false

/-- What speaks for the trees below a link. -/
def linkBonus (stack : Stack) (link : Link) : Int :=
  (stack.node link.below).bonus +
    match link.tree with
    | some t => t.bonus
    | none => 0

/-- What a new link finds at a node. -/
inductive Meeting where
  /-- A link to the same node with a tree that is as good, at a position among the links. -/
  | sameNode (position : Nat) (old : Link)
  /-- A link with such a tree to another node that can be joined with the new one's. -/
  | joinable (old : Link)
  /-- No such link. -/
  | nothing

/-- Can two nodes be joined?  They can if their state, place and cost agree. -/
def joins (stack : Stack) (a b : Nat) : Bool :=
  let x := stack.node a
  let y := stack.node b
  x.state == y.state && x.place.offset == y.place.offset && x.cost == y.cost

/-- Looks among links, the first of them at `position`, for one that a new link meets. -/
def meet (stack : Stack) (link : Link) : Nat → List Link → Meeting
  | _, [] => .nothing
  | position, old :: links =>
    if sameTree old.tree link.tree then
      if old.below = link.below then .sameNode position old
      else if stack.joins old.below link.below then .joinable old
      else meet stack link (position + 1) links
    else meet stack link (position + 1) links

/-- Adds a link to a node.  If the node has a link with a tree that is as good, then the two
are made one: of two trees to the same node the one with more in its favour is kept, and two
nodes below that can be joined are joined. -/
def addLink : Nat → Stack → Nat → Link → Stack
  | 0, stack, _, _ => stack
  | fuel + 1, stack, index, link =>
    if link.below = index then stack
    else
      let node := stack.node index
      match stack.meet link 0 node.links with
      | .sameNode position old =>
        match link.tree, old.tree with
        | some t, some o =>
          if t.bonus > o.bonus then
            stack.setNode index
              { node with
                links := node.links.set position ⟨old.below, some t⟩
                bonus := stack.linkBonus link }
          else stack
        | _, _ => stack
      | .joinable old =>
        let joined := (stack.node link.below).links.foldl
          (fun s l => addLink fuel s old.below l) stack
        let bonus := joined.linkBonus link
        let node := joined.node index
        if bonus > node.bonus then joined.setNode index { node with bonus } else joined
      | .nothing =>
        if node.links.length = maxLinks then stack
        else
          let count := (stack.node link.below).nodeCount +
            match link.tree with
            | some t => t.nodeCount
            | none => 0
          stack.setNode index
            { node with
              links := node.links ++ [link]
              nodeCount := max node.nodeCount count
              bonus := max node.bonus (stack.linkBonus link) }

/-! ### Ways down -/

/-- A way down from the top of a stack. -/
structure Path where
  /-- The node it has come to. -/
  node : Nat
  /-- The trees passed, the lowest first. -/
  trees : List SyntaxTree
  /-- The trees passed that may not stand anywhere, and the beginnings of errors. -/
  count : Nat

/-- What to do with a way down. -/
structure Visit where
  /-- Does it end here? -/
  take : Bool
  /-- Is it left, whether or not it ends here? -/
  leave : Bool

/-- The ways down that end at one node, each with its trees. -/
structure Popped where
  node : Nat
  paths : List (List SyntaxTree)

/-- Records a way down that ends at a node. -/
def record (node : Nat) (trees : List SyntaxTree) : List Popped → List Popped
  | [] => [⟨node, [trees]⟩]
  | p :: ps =>
    if p.node = node then ⟨node, p.paths ++ [trees]⟩ :: ps else p :: record node trees ps

/-- The way down over one more link. -/
def Path.over (p : Path) (link : Link) : Path :=
  match link.tree with
  | some t => ⟨link.below, t :: p.trees, if t.extra then p.count else p.count + 1⟩
  | none => ⟨link.below, p.trees, p.count + 1⟩

/-- The ways over some links, as long as there are not too many. -/
def branch (p : Path) : List Link → Nat → List Path → List Path
  | [], _, added => added
  | link :: links, total, added =>
    if total < maxPaths then branch p links (total + 1) (p.over link :: added)
    else branch p links total added

/-- Takes each way one link down.  The way over the first link keeps its place; the ways over
the other links come behind all ways. -/
def round {σ : Type} (visit : σ → Path → σ × Visit) (stack : Stack) :
    List Path → σ → List Path → List Path → List Popped → σ × List Path × List Popped
  | [], s, kept, added, popped => (s, kept.reverse ++ added.reverse, popped)
  | p :: todo, s, kept, added, popped =>
    let (s, what) := visit s p
    let popped := if what.take then record p.node p.trees popped else popped
    match what.leave, (stack.node p.node).links with
    | false, first :: others =>
      let total := kept.length + 1 + todo.length + added.length
      round visit stack todo s (p.over first :: kept) (branch p others total added) popped
    | _, _ => round visit stack todo s kept added popped

/-- Follows all ways down, link by link, as long as `visit` does not leave them. -/
def walk {σ : Type} (visit : σ → Path → σ × Visit) (stack : Stack) :
    Nat → σ → List Path → List Popped → σ × List Popped
  | 0, s, _, popped => (s, popped)
  | _, s, [], popped => (s, popped)
  | fuel + 1, s, paths, popped =>
    let (s, paths, popped) := round visit stack paths s [] [] popped
    walk visit stack fuel s paths popped

/-- The ways down from a node over `count` trees, not counting those that may stand anywhere. -/
def pop (stack : Stack) (index count : Nat) : List Popped :=
  (stack.walk (fun (_ : Unit) p => ((), ⟨p.count = count, p.count = count⟩))
    (stack.size + 1) () [⟨index, [], 0⟩] []).2

/-- The ways down from a node to the bottom. -/
def popAll (stack : Stack) (index : Nat) : List Popped :=
  (stack.walk (fun (_ : Unit) p => ((), ⟨(stack.node p.node).links.isEmpty, false⟩))
    (stack.size + 1) () [⟨index, [], 0⟩] []).2

/-- The way down from a node over a stretch of text that fits no rule, if that is on top. -/
def popError (stack : Stack) (index : Nat) : List Popped :=
  (stack.walk (fun (found : Bool) p =>
      match p.trees.reverse with
      | [] => (found, ⟨false, false⟩)
      | top :: _ =>
        if !found && top.symbol = Symbol.error then (true, ⟨true, true⟩)
        else (found, ⟨false, true⟩))
    (stack.size + 1) false [⟨index, [], 0⟩] []).2

/-- A state that could be returned to. -/
structure Retreat where
  /-- The place in the text. -/
  place : Cursor
  /-- The trees to be given up. -/
  depth : Nat
  state : StateId

/-- The most trees that a retreat may give up. -/
def maxRetreat : Nat := 16

/-- Is a retreat of this depth to this state known already?  The last ones are the deepest. -/
def knownRetreat (depth : Nat) (state : StateId) : List Retreat → Bool
  | [] => false
  | r :: older =>
    if r.depth < depth then false
    else if r.depth = depth && r.state = state then true
    else knownRetreat depth state older

/-- The states that could be returned to from a node, the nearest first. -/
def retreats (stack : Stack) (index : Nat) : List Retreat :=
  (stack.walk (fun (known : List Retreat) p =>
      if p.count > maxRetreat then (known, ⟨false, true⟩)
      else
        let node := stack.node p.node
        if knownRetreat p.count node.state known then (known, ⟨false, false⟩)
        else (⟨node.place, p.count, node.state⟩ :: known, ⟨false, false⟩))
    (stack.size + 1) [] [⟨index, [], 0⟩] []).1.reverse

end Stack

end JsxDetect.Parse
