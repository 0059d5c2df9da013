import JsxDetect.Parse.Stack

/-!
# Versions of a parse

Each reading that is still open is a `Version`: the node on top of its stack, and how it
stands.  A version that meets an error is paused until all others have come as far; one whose
reading was given up, or is complete, is halted.

## Main Definitions

* `Version`, `Progress`
* `Progress.push`, `Progress.merge`, `Progress.replace`
* `Standing`, `Preference`, `Standing.compare`: which of two versions is the better one
* `Progress.betterExists`: is it worth going on with a version at a cost?

## Design Notes

A version in an error keeps the states it could return to, noted once when the error begins.
`Standing` collects what versions are compared by; that of a version that has met an error has the
cost of the recovery that is before it.  The comparison has five outcomes and not three, because a
version that is worse by little is kept as long as it can still become better.
-/

namespace JsxDetect.Parse

open Automaton

/-- How a version stands. -/
inductive Status where
  /-- It goes on. -/
  | active
  /-- It met an error before a token. -/
  | paused (lookahead : SyntaxTree)
  /-- It has ended. -/
  | halted

/-- Is the version going on? -/
def Status.isActive : Status → Bool
  | active => true
  | _ => false

/-- Has the version met an error? -/
def Status.isPaused : Status → Bool
  | paused _ => true
  | _ => false

/-- A reading of the text that is still open. -/
structure Version where
  /-- The node on top of the stack. -/
  node : Nat
  /-- Where it could return to, once it has met an error. -/
  retreats : Option (List Stack.Retreat)
  /-- The nodes that counted when it last met an error. -/
  countAtError : Nat
  status : Status

instance : Inhabited Version := ⟨⟨0, none, 0, .halted⟩⟩

/-- The most versions kept from one token to the next. -/
def maxVersions : Nat := 6

/-- How many more versions there may be for a short time. -/
def versionOverflow : Nat := 4

/-- The state of the parser. -/
structure Progress where
  stack : Stack
  versions : List Version
  /-- The best tree of the whole text so far. -/
  finished : Option SyntaxTree
  /-- The trees of the whole text found so far. -/
  accepted : Nat

namespace Progress

/-! ### Access -/

/-- The version with a number. -/
def version (p : Progress) (v : Nat) : Version := p.versions.getD v default

/-- The node on top of a version. -/
def top (p : Progress) (v : Nat) : StackNode := p.stack.node (p.version v).node

/-- The state that a version is in. -/
def state (p : Progress) (v : Nat) : StateId := (p.top v).state

/-- Replaces a version. -/
def setVersion (p : Progress) (v : Nat) (version : Version) : Progress :=
  { p with versions := p.versions.set v version }

/-- Changes how a version stands. -/
def setStatus (p : Progress) (v : Nat) (status : Status) : Progress :=
  p.setVersion v { p.version v with status }

/-- Ends a version. -/
def halt (p : Progress) (v : Nat) : Progress := p.setStatus v .halted

/-- Drops a version; the later ones move up. -/
def remove (p : Progress) (v : Nat) : Progress := { p with versions := p.versions.eraseIdx v }

/-- Adds a version behind the others. -/
def add (p : Progress) (version : Version) : Progress :=
  { p with versions := p.versions ++ [version] }

/-- Adds a version that goes on from a node and stands like version `v`. -/
def addAt (p : Progress) (v node : Nat) : Progress :=
  p.add ⟨node, none, (p.version v).countAtError, .active⟩

/-- Puts a tree, or the beginning of an error, on top of a version. -/
def push (p : Progress) (v : Nat) (tree : Option SyntaxTree) (state : StateId) : Progress :=
  let ⟨stack, versions, finished, accepted⟩ := p
  let old := versions.getD v default
  let top := stack.nodeOver old.node tree state
  let new := { old with
    node := stack.size
    countAtError := if tree.isNone then top.nodeCount else old.countAtError }
  ⟨stack.push top, versions.set v new, finished, accepted⟩

/-- Puts several trees on top of a version, all in one state. -/
def pushAll (p : Progress) (v : Nat) (trees : List SyntaxTree) (state : StateId) : Progress :=
  trees.foldl (fun p t => p.push v (some t) state) p

/-- Version `v` goes on as version `w` does, which is dropped. -/
def replace (p : Progress) (v w : Nat) : Progress :=
  if v = w then p
  else
    let old := p.version v
    let new := p.version w
    let retreats := match new.retreats with
      | some r => some r
      | none => old.retreats
    (p.setVersion v { new with retreats }).remove w

/-! ### Joining -/

/-- Can two versions be joined? -/
def canMerge (p : Progress) (v w : Nat) : Bool :=
  (p.version v).status.isActive && (p.version w).status.isActive &&
    p.stack.joins (p.version v).node (p.version w).node

/-- Joins version `w` to version `v`, if they can be joined. -/
def merge (p : Progress) (v w : Nat) : Option Progress :=
  if p.canMerge v w then
    let ⟨stack, versions, finished, accepted⟩ := p
    let target := versions.getD v default
    let links := (stack.node (versions.getD w default).node).links
    let fuel := stack.size + 1
    let stack := links.foldl (fun s l => s.addLink fuel target.node l) stack
    let node := stack.node target.node
    let versions :=
      if node.state = 0 then versions.set v { target with countAtError := node.nodeCount }
      else versions
    some ⟨stack, versions.eraseIdx w, finished, accepted⟩
  else none

/-- Joins version `w` to the first version among those given that it can be joined to. -/
def mergeInto (p : Progress) (w : Nat) : List Nat → Option Progress
  | [] => none
  | v :: vs =>
    match p.merge v w with
    | some p => some p
    | none => mergeInto p w vs

/-! ### Comparing -/

/-- The cost of the errors of a version; one that has just met an error has not paid for it. -/
def errorCost (p : Progress) (v : Nat) : Nat :=
  let top := p.top v
  let begun := top.state = 0 && (top.links.head?.any fun l => l.tree.isNone)
  top.cost + if (p.version v).status.isPaused || begun then Cost.recovery else 0

/-- The nodes that count and have been read since a version last met an error.  A version that
has given up nodes since then starts to count anew. -/
def countSinceError (p : Progress) (v : Nat) : Nat × Progress :=
  let version := p.version v
  let count := (p.top v).nodeCount
  if count < version.countAtError then (0, p.setVersion v { version with countAtError := count })
  else (count - version.countAtError, p)

/-- Has a version that met an error read anything since? -/
def hasAdvanced (p : Progress) (v : Nat) : Bool :=
  if (p.top v).cost = 0 then true
  else go (p.stack.size + 1) (p.version v).node
where
  /-- Looks below trees that take no text. -/
  go : Nat → Nat → Bool
    | 0, _ => false
    | fuel + 1, index =>
      let node := p.stack.node index
      match node.links with
      | [] => false
      | link :: _ =>
        match link.tree with
        | none => false
        | some t =>
          if t.totalBytes > 0 then true
          else if node.nodeCount > (p.version v).countAtError && t.cost = 0 then go fuel link.below
          else false

/-- What counts when versions are compared. -/
structure Standing where
  cost : Nat
  /-- The nodes read since the last error. -/
  count : Nat
  bonus : Int
  /-- Is the version in the middle of an error? -/
  inError : Bool

/-- The standing of a version. -/
def standing (p : Progress) (v : Nat) : Standing × Progress :=
  let paused := (p.version v).status.isPaused
  let cost := p.errorCost v + if paused then Cost.skippedNode else 0
  let (count, p) := p.countSinceError v
  (⟨cost, count, (p.top v).bonus, paused || p.state v = 0⟩, p)

/-- Which of two versions is better. -/
inductive Preference where
  /-- The first one, and the other is given up. -/
  | takeLeft
  /-- The first one. -/
  | preferLeft
  | neither
  /-- The second one. -/
  | preferRight
  /-- The second one, and the other is given up. -/
  | takeRight
  deriving DecidableEq

/-- The difference in cost, weighed with what has been read, from which the worse version is
given up. -/
def costGap : Nat := 1600

/-- Compares two versions: one that is not in an error is better, then the cheaper one, then
the one with more in its favour. -/
def Standing.compare (a b : Standing) : Preference :=
  if !a.inError && b.inError then if a.cost < b.cost then .takeLeft else .preferLeft
  else if a.inError && !b.inError then if b.cost < a.cost then .takeRight else .preferRight
  else if a.cost < b.cost then
    if (b.cost - a.cost) * (1 + a.count) > costGap then .takeLeft else .preferLeft
  else if b.cost < a.cost then
    if (a.cost - b.cost) * (1 + b.count) > costGap then .takeRight else .preferRight
  else if a.bonus > b.bonus then .preferLeft
  else if b.bonus > a.bonus then .preferRight
  else .neither

/-- Is there, among the versions given, one that is better than version `v` would be? -/
def betterAmong (p : Progress) (v : Nat) (own : Standing) : List Nat → Bool × Progress
  | [] => (false, p)
  | w :: ws =>
    let other := p.version w
    if w = v || !other.status.isActive || (p.top w).place.offset < (p.top v).place.offset then
      betterAmong p v own ws
    else
      let (standing, p) := p.standing w
      match own.compare standing with
      | .takeRight => (true, p)
      | .preferRight => if p.canMerge w v then (true, p) else betterAmong p v own ws
      | _ => betterAmong p v own ws

/-- Is there something better than version `v` would be at a cost, out of its error? -/
def betterExists (p : Progress) (v cost : Nat) : Bool × Progress :=
  if p.finished.any fun t => t.cost ≤ cost then (true, p)
  else
    let (count, p) := p.countSinceError v
    p.betterAmong v ⟨cost, count, (p.top v).bonus, false⟩ (List.range p.versions.length)

end Progress

end JsxDetect.Parse
