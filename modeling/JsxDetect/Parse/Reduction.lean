import JsxDetect.Parse.Version

/-!
# Completing phrases

A reduction takes the nodes of a completed phrase off a stack and puts one node in their
place.  A stack that several readings share has several ways down, and each place they lead to
gives a version of its own; where two ways lead to the same place, one tree is chosen.

## Main Definitions

* `Progress.reduce`: one reduction
* `Progress.reduceAll`: every reduction that could be made before a token, or before any
* `Progress.accept`: the end of a parse

## Design Notes

Several ways down may lead to the same node, and then one of the trees is chosen; or they lead to
different nodes, and then there are as many new versions.  Trees at the end of a way that may stand
anywhere, such as comments, are left out of the phrase and pushed again behind it.  A version that
comes to the state and the place of another one is joined to it at once, and how many versions there
may be is limited during a reduction by more than between rounds.
-/

namespace JsxDetect.Parse

open Automaton

namespace Progress

/-- The phrase over some trees, with the trees at its end that may stand anywhere. -/
def phrase (symbol : Symbol) (cursor : Cursor) (trees : List SyntaxTree) :
    SyntaxTree × List SyntaxTree :=
  let (inner, extras) := SyntaxTree.splitExtras trees
  (SyntaxTree.ofChildren symbol cursor inner, extras)

/-- The phrase that is kept of those that some ways down give. -/
def bestPhrase (symbol : Symbol) (cursor : Cursor) :
    List (List SyntaxTree) → SyntaxTree × List SyntaxTree
  | [] => phrase symbol cursor []
  | trees :: others =>
    others.foldl (fun best trees =>
      let other := phrase symbol cursor trees
      if best.1.replaces other.1 then other else best) (phrase symbol cursor trees)

/-- Puts a completed phrase on each of the places that the ways down lead to. -/
def complete (v : Nat) (symbol : Symbol) (bonus : Int) (cursor : Cursor) :
    List Stack.Popped → Progress → Progress
  | [], p => p
  | popped :: rest, p =>
    let new := p.versions.length
    if new > maxVersions + versionOverflow then complete v symbol bonus cursor rest p
    else
      let (tree, extras) := bestPhrase symbol cursor popped.paths
      let next := goto (p.stack.node popped.node).state symbol
      let p := p.addAt v popped.node
      let p := p.push new (some (tree.addBonus bonus)) next
      let p := p.pushAll new extras next
      let p :=
        match p.mergeInto new ((List.range new).filter (· ≠ v)) with
        | some merged => merged
        | none => p
      complete v symbol bonus cursor rest p

/-- Reduces the last `count` nodes of a version.  The version itself stays; the result is the
number of the first new version, if there is one. -/
def reduce (p : Progress) (v : Nat) (symbol : Symbol) (count : Nat) (bonus : Int) :
    Option Nat × Progress :=
  let first := p.versions.length
  let cursor := (p.top v).place
  let popped := p.stack.pop (p.version v).node count
  let p := complete v symbol bonus cursor popped p
  (if p.versions.length > first then some first else none, p)

/-! ### All reductions -/

/-- A reduction. -/
structure Reduction where
  symbol : Symbol
  count : Nat
  bonus : Int

/-- What could be done at some tokens. -/
structure Options where
  /-- Could a token be taken? -/
  shifts : Bool
  /-- The reductions that could be made, in reverse. -/
  reductions : List Reduction

/-- Adds an action to what could be done. -/
def Options.add (options : Options) : Action → Options
  | .shift _ repeats => if repeats then options else { options with shifts := true }
  | .recover => { options with shifts := true }
  | .reduce symbol count bonus =>
    if count > 0 && !(options.reductions.any fun r => r.symbol = symbol && r.count = count) then
      { options with reductions := ⟨symbol, count, bonus⟩ :: options.reductions }
    else options
  | .shiftExtra | .accept => options

/-- What could be done in a state at a token, or at any token but the end of the text. -/
def optionsAt (state : StateId) (token : Option Symbol) : Options :=
  let symbols := match token with
    | some symbol => if symbol = Symbol.error then [] else [symbol]
    | none => (List.range (Symbol.tokenCount - 1)).map (· + 1)
  symbols.foldl (fun options symbol => (actions state symbol).foldl Options.add options) ⟨false, []⟩

/-- Makes some reductions on a version; the first new version of the last one is remembered. -/
def reduceEach (v : Nat) : List Reduction → Option Nat → Progress → Option Nat × Progress
  | [], last, p => (last, p)
  | r :: rs, _, p =>
    let (new, p) := p.reduce v r.symbol r.count r.bonus
    reduceEach v rs new p

/-- Goes through the versions from `v` on and makes every reduction that could be made.
`origin` is the version that was begun with, `first` the first version that is new, `turn`
counts the versions looked at. -/
def reduceFrom (origin first : Nat) (token : Option Symbol) :
    Nat → Nat → Nat → Bool → Progress → Bool × Progress
  | 0, _, _, shifts, p => (shifts, p)
  | fuel + 1, turn, v, shifts, p =>
    let count := p.versions.length
    if v ≥ count then (shifts, p)
    else
      match p.mergeInto v ((List.range v).filter (first ≤ ·)) with
      | some merged => reduceFrom origin first token fuel (turn + 1) v shifts merged
      | none =>
        let options := optionsAt (p.state v) token
        let (new, p) := reduceEach v options.reductions.reverse none p
        let following := if v = origin then count else v + 1
        if options.shifts then reduceFrom origin first token fuel (turn + 1) following true p
        else
          match new with
          | some w =>
            if turn < maxVersions then
              reduceFrom origin first token fuel (turn + 1) v shifts (p.replace v w)
            else
              reduceFrom origin first token fuel (turn + 1) following shifts
                (if token.isSome then p.remove v else p)
          | none =>
            reduceFrom origin first token fuel (turn + 1) following shifts
              (if token.isSome then p.remove v else p)

/-- Makes every reduction of a version that could be made before a token, or before any token.
Is there then a version that could take the token? -/
def reduceAll (fuel : Nat) (p : Progress) (v : Nat) (token : Option Symbol) : Bool × Progress :=
  reduceFrom v p.versions.length token fuel 0 v false p

/-! ### The end -/

/-- The tree of a whole text: the last tree that may not stand anywhere, with the others put
among its children. -/
def wholeTree (trees : List SyntaxTree) : Option SyntaxTree :=
  let reversed := trees.reverse
  match reversed.dropWhile SyntaxTree.extra with
  | [] => none
  | root :: earlier =>
    let later := (reversed.takeWhile SyntaxTree.extra).reverse
    some (SyntaxTree.ofChildren root.symbol root.label.before
      (earlier.reverse ++ root.children ++ later))

/-- Takes a tree of the whole text into account. -/
def finish (p : Progress) (tree : SyntaxTree) : Progress :=
  let finished := match p.finished with
    | none => some tree
    | some old => if old.replaces tree then some tree else some old
  { p with finished, accepted := p.accepted + 1 }

/-- Ends a version that has come to the end of the text. -/
def accept (p : Progress) (v : Nat) (lookahead : SyntaxTree) : Progress :=
  let p := p.push v (some lookahead) 1
  let trees := (p.stack.popAll (p.version v).node).flatMap (·.paths)
  ((trees.filterMap wholeTree).foldl finish p).halt v

end Progress

end JsxDetect.Parse
