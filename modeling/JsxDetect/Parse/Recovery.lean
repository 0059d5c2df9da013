import JsxDetect.Parse.Reduction

/-!
# Recovery from errors

A version that cannot take the next token has four ways on.  It may add a token that the text
lacks, where that lets the next one be taken.  It may return to an earlier state that can take
the next token, giving up the trees in between.  It may skip the token.  At the end of the text
everything read so far becomes one error.

## Main Definitions

* `Progress.handleError`: what happens to a version that meets an error
* `Progress.recover`: what happens at each token while the error lasts

## Design Notes

**The order of attempts.**  First every phrase is completed that could be, before any token.  Then
missing tokens are tried, for each version that this gives, and at most one is kept.  Only then does
the error begin, on a stack that all these versions share.  The order is that of preference, and
what is done first is cheaper.

**Costs.**  No attempt is made that would be worse than a version that is still open, so costs are
compared before trees are built.  This is where the size of skipped text enters, in bytes and lines.

**The end of the text.**  As a token to complete phrases before, the end of the text stands for any
token.  So `awaited` is none there, and a missing token may be kept at the end whatever could follow
it.
-/

namespace JsxDetect.Parse

open Automaton

namespace Progress

/-! ### Returning to an earlier state -/

/-- Takes the error on top of a version off, if there is one; its children are the result. -/
def liftError (p : Progress) (v : Nat) : List SyntaxTree × Progress :=
  let hasError := (p.top v).links.any fun l => l.tree.any fun t => t.symbol = Symbol.error
  if !hasError then ([], p)
  else
    match p.stack.popError (p.version v).node with
    | [] => ([], p)
    | popped :: _ =>
      let p := p.setVersion v ⟨popped.node, (p.version v).retreats, (p.version v).countAtError, .active⟩
      match popped.paths with
      | (error :: _) :: _ => (error.children, p)
      | _ => ([], p)

/-- Makes an error of the trees given up on each way down that leads to the state `goal`. -/
def giveUp (v : Nat) (goal : StateId) :
    List Stack.Popped → Bool → Progress → Bool × Progress
  | [], done, p => (done, p)
  | popped :: rest, done, p =>
    let new := p.versions.length
    let p := p.addAt v popped.node
    if p.state new ≠ goal then giveUp v goal rest done (p.halt new)
    else
      let (earlier, p) := p.liftError new
      let (inner, extras) := SyntaxTree.splitExtras (earlier ++ popped.paths.headD [])
      let p :=
        match inner with
        | [] => p
        | _ =>
          let error := SyntaxTree.ofChildren Symbol.error (p.top new).place inner
          p.push new (some (error.withExtra true)) goal
      giveUp v goal rest true (p.pushAll new extras goal)

/-- Gives up the last `depth` nodes of a version where that leads back to the state `goal`, in
new versions.  Was there such a way down? -/
def returnTo (p : Progress) (v depth : Nat) (goal : StateId) : Bool × Progress :=
  giveUp v goal (p.stack.pop (p.version v).node depth) false p

/-- Tries the states that a version could return to.  A state is passed over if it belongs to
an error, if nothing would be given up, or if another version has come to it here; the search
ends where something better exists. -/
def tryRetreats (v : Nat) (lookahead : SyntaxTree) (count known : Nat) :
    List Stack.Retreat → Progress → Bool × Progress
  | [], p => (false, p)
  | r :: rs, p =>
    let here := (p.top v).place
    let visited := (List.range known).any fun w =>
      p.state w = r.state && (p.top w).place.offset = here.offset
    if r.state = 0 || r.place.offset = here.offset || visited then
      tryRetreats v lookahead count known rs p
    else
      let cost := p.errorCost v + r.depth * Cost.skippedNode +
        Cost.skippedByte * r.place.bytesTo here + Cost.skippedLine * r.place.rowsTo here
      let (better, p) := p.betterExists v cost
      if better then (false, p)
      else if acts r.state lookahead.symbol then
        let (done, p) := p.returnTo v (if count > 0 then r.depth + 1 else r.depth) r.state
        if done then (true, p) else tryRetreats v lookahead count known rs p
      else tryRetreats v lookahead count known rs p

/-! ### Skipping a token -/

/-- Drops the versions from `first` on that are not active. -/
def dropInactive (p : Progress) (first : Nat) : Progress :=
  { p with
    versions := p.versions.take first ++
      (p.versions.drop first).filter fun w => w.status.isActive }

/-- A token as it is skipped: one that may stand anywhere may still do so. -/
def skippedToken (lookahead : SyntaxTree) : SyntaxTree :=
  match (actions 1 lookahead.symbol).getLast? with
  | some .shiftExtra => lookahead.withExtra true
  | _ => lookahead

/-- Adds a token to the text that a version is skipping. -/
def skip (p : Progress) (v : Nat) (lookahead : SyntaxTree) (count : Nat) : Progress :=
  let cursor := (p.top v).place
  let piece := SyntaxTree.ofChildren Symbol.skipped cursor [skippedToken lookahead]
  if count = 0 then p.push v (some piece) 0
  else
    match p.stack.pop (p.version v).node 1 with
    | [] => p.push v (some piece) 0
    | popped :: _ =>
      let piece := SyntaxTree.ofChildren Symbol.skipped cursor (popped.paths.headD [] ++ [piece])
      let old := p.version v
      (p.setVersion v ⟨popped.node, old.retreats, old.countAtError, .active⟩).push v (some piece) 0

/-- Deals with a token that a version in an error cannot take. -/
def recover (p : Progress) (v : Nat) (lookahead : SyntaxTree) : Progress :=
  let known := p.versions.length
  let (count, p) := p.countSinceError v
  let retreats :=
    if lookahead.symbol = Symbol.error then [] else (p.version v).retreats.getD []
  let (returned, p) := tryRetreats v lookahead count known retreats p
  let p := p.dropInactive known
  if returned && p.versions.length > maxVersions then p.halt v
  else if lookahead.symbol = Symbol.endOfText then
    let error := SyntaxTree.ofChildren Symbol.error (p.top v).place []
    (p.push v (some error) 1).accept v lookahead
  else
    let cost := p.errorCost v + Cost.skippedNode + Cost.skippedByte * lookahead.totalBytes +
      Cost.skippedLine * lookahead.totalRows
    let (better, p) := p.betterExists v cost
    if better then p.halt v else p.skip v lookahead count

/-! ### Meeting an error -/

/-- The token before which phrases are completed behind a token that was added.  At the end of
the text it is any: the added token is kept if the phrases it allows could go on at all. -/
def awaited (lookahead : SyntaxTree) : Option Symbol :=
  if lookahead.symbol = Symbol.endOfText then none else some lookahead.symbol

/-- Tries to add a token that the text lacks to a version, in a new version.  Was one found
behind which the next token can be taken, or at the end of the text any token? -/
def tryMissing (fuel v : Nat) (lookahead : SyntaxTree) :
    List Symbol → Progress → Bool × Progress
  | [], p => (false, p)
  | symbol :: symbols, p =>
    let state := p.state v
    let next := goto state symbol
    if next = 0 || next = state || !reducesFirst next lookahead.symbol then
      tryMissing fuel v lookahead symbols p
    else
      let new := p.versions.length
      let p := p.add { p.version v with retreats := none }
      let p := p.push new (some (SyntaxTree.missing symbol (p.top new).place)) next
      let (done, p) := p.reduceAll fuel new (awaited lookahead)
      if done then (true, p) else tryMissing fuel v lookahead symbols p

/-- Begins an error on each of some versions.  A missing token is added once. -/
def beginErrors (fuel : Nat) (lookahead : SyntaxTree) : List Nat → Bool → Progress → Progress
  | [], _, p => p
  | v :: vs, added, p =>
    let (added, p) :=
      if added then (true, p)
      else tryMissing fuel v lookahead ((List.range (Symbol.tokenCount - 1)).map (· + 1)) p
    beginErrors fuel lookahead vs added (p.push v none 0)

/-- Joins to version `v` the `count` versions from `first` on. -/
def mergeFollowing (v first : Nat) : Nat → Progress → Progress
  | 0, p => p
  | count + 1, p => mergeFollowing v first count ((p.merge v first).getD p)

/-- Deals with a version that cannot take the next token: completes whatever phrases there
may be, tries to add a missing token, and enters the error with all that was completed. -/
def handleError (fuel : Nat) (p : Progress) (v : Nat) (lookahead : SyntaxTree) : Progress :=
  let first := p.versions.length
  let (_, p) := p.reduceAll fuel v none
  let last := p.versions.length
  let p := beginErrors fuel lookahead (v :: (List.range last).filter (first ≤ ·)) false p
  let p := mergeFollowing v first (last - first) p
  let retreats := p.stack.retreats (p.version v).node
  let p := p.setVersion v { p.version v with retreats := some retreats }
  p.recover v lookahead

end Progress

end JsxDetect.Parse
