import JsxDetect.Parse.Lookahead
import JsxDetect.Parse.Recovery

/-!
# The parser

Each round takes every version at least one token further, as far as the foremost one has come.
Then the versions are compared: those that are clearly worse are given up, those that agree are
joined, and if all of them met an error, the best one enters it.  The parse ends when no version
is left, or when a tree of the whole text is better than anything still open.

## Main Definitions

* `Progress.advance`: one token on one version
* `Progress.condense`: the comparison at the end of a round
* `parse`: the syntax tree of a text

## Design Notes

**Fuel.**  The loops of the parser go on while something changes, and what makes them end is spread
over the table and the costs.  So each has a budget, and is structurally recursive on it.  This
keeps the definitions open to proof by induction; what is proved of all runs is proved for any
budget, and where the end of a run matters the budget is shown to be enough.

**One list of versions.**  Versions are known by their numbers, and these change as versions are
dropped, joined or put in another's place.  The order decides which of them are kept when there are
too many, so it is part of what the parser does and is followed exactly.
-/

namespace JsxDetect.Parse

open Automaton

namespace Progress

/-! ### One token -/

/-- The outcome of the actions at a token. -/
inductive Outcome where
  /-- The version is done with this token. -/
  | done (p : Progress)
  /-- Nodes were grouped, in a new version if the last reduction gave one. -/
  | grouped (last : Option Nat) (p : Progress)

/-- Carries out the actions of a state at a token, in order, on version `v`. -/
def act (v : Nat) (lookahead : SyntaxTree) : List Action → Option Nat → Progress → Outcome
  | [], last, p => .grouped last p
  | action :: others, last, p =>
    match action with
    | .shift next repeats =>
      if repeats then act v lookahead others last p
      else .done (p.push v (some (lookahead.withExtra false)) next)
    | .shiftExtra => .done (p.push v (some (lookahead.withExtra true)) (p.state v))
    | .recover => .done (p.recover v lookahead)
    | .accept => .done (p.accept v lookahead)
    | .reduce symbol count bonus =>
      let (new, p) := p.reduce v symbol count bonus
      act v lookahead others (match new with | some w => some w | none => last) p

/-- Stops a version before a token that it cannot take. -/
def pause (p : Progress) (v : Nat) (lookahead : SyntaxTree) : Progress :=
  let version := p.version v
  p.setVersion v
    { version with status := .paused lookahead, countAtError := (p.top v).nodeCount }

/-- Takes version `v` over a token.  A keyword that the state cannot use is read as a name. -/
def consume (v : Nat) : Nat → SyntaxTree → Progress → Progress
  | 0, _, p => p.halt v
  | fuel + 1, lookahead, p =>
    match act v lookahead (actions (p.state v) lookahead.symbol) none p with
    | .done p => p
    | .grouped (some w) p => consume v fuel lookahead (p.replace v w)
    | .grouped none p =>
      let state := p.state v
      if Grammar.isKeyword lookahead.symbol && acts state Symbol.identifier then
        consume v fuel (lookahead.withSymbol Symbol.identifier) p
      else if state = 0 then p.recover v lookahead
      else p.pause v lookahead

/-- Takes version `v` one token further. -/
def advance (fuel : Nat) (p : Progress) (v : Nat) : Progress :=
  let top := p.top v
  let token := lookahead fuel top.state (p.hasAdvanced v) top.place
  consume v fuel token p

/-- Takes version `v` further until it has come past `last`, the foremost place so far, or as
far as that behind another version; or until it stops. -/
def advanceVersion (budget v : Nat) : Nat → Nat → Progress → Nat × Progress
  | 0, last, p => (last, p)
  | fuel + 1, last, p =>
    if (p.version v).status.isActive then
      let p := p.advance budget v
      let offset := (p.top v).place.offset
      if offset > last || (v > 0 && offset = last) then (offset, p)
      else advanceVersion budget v fuel last p
    else (last, p)

/-- Takes the versions from `v` on further, one after the other, new ones included. -/
def advanceAll (budget : Nat) : Nat → Nat → Nat → Progress → Nat × Progress
  | 0, _, last, p => (last, p)
  | fuel + 1, v, last, p =>
    if v < p.versions.length then
      let (last, p) := advanceVersion budget v budget last p
      advanceAll budget fuel (v + 1) last p
    else (last, p)

/-! ### The comparison of versions -/

/-- Two versions change places. -/
def swap (p : Progress) (v w : Nat) : Progress :=
  (p.setVersion v (p.version w)).setVersion w (p.version v)

/-- Compares version `v` with those before it, from `w` on; `own` is its standing.  The result
is the number of the next version. -/
def settle (own : Standing) : Nat → Nat → Nat → Progress → Nat × Progress
  | 0, v, _, p => (v + 1, p)
  | fuel + 1, v, w, p =>
    if w ≥ v then (v + 1, p)
    else
      let (other, p) := p.standing w
      match other.compare own with
      | .takeLeft => (v, p.remove v)
      | .preferLeft | .neither =>
        match p.merge w v with
        | some p => (v, p)
        | none => settle own fuel v (w + 1) p
      | .preferRight =>
        match p.merge w v with
        | some p => (v, p)
        | none => settle own fuel v (w + 1) (p.swap v w)
      | .takeRight => settle own fuel (v - 1) w (p.remove w)

/-- Compares all versions from `v` on with those before them and drops the halted ones.  The
result is the least cost of a version that is not in an error. -/
def settleAll : Nat → Nat → Option Nat → Progress → Option Nat × Progress
  | 0, _, least, p => (least, p)
  | fuel + 1, v, least, p =>
    if v ≥ p.versions.length then (least, p)
    else
      match (p.version v).status with
      | .halted => settleAll fuel v least (p.remove v)
      | _ =>
        let (own, p) := p.standing v
        let least :=
          if own.inError then least
          else some (match least with | some c => min c own.cost | none => own.cost)
        let (v, p) := settle own v v 0 p
        settleAll fuel v least p

/-- Lets one paused version enter its error, if no version goes on, and drops the other paused
ones.  `count` versions from `v` on are still to be looked at; `going` tells whether one goes
on. -/
def resume (fuel : Nat) : Nat → Nat → Bool → Option Nat → Progress → Option Nat × Progress
  | 0, _, _, least, p => (least, p)
  | count + 1, v, going, least, p =>
    match (p.version v).status with
    | .paused lookahead =>
      if !going && p.accepted < maxVersions then
        let least := some (p.errorCost v)
        resume fuel count (v + 1) true least
          ((p.setStatus v .active).handleError fuel v lookahead)
      else resume fuel count v going least (p.remove v)
    | _ => resume fuel count (v + 1) true least p

/-- The comparison at the end of a round.  The result is the least cost of what is still open;
none if nothing is. -/
def condense (fuel : Nat) (p : Progress) : Option Nat × Progress :=
  let (least, p) := settleAll p.versions.length 0 none p
  let p := { p with versions := p.versions.take maxVersions }
  resume fuel p.versions.length 0 false least p

/-- Goes on, round by round, until nothing is left to be tried. -/
def run (budget : Nat) : Nat → Nat → Progress → Progress
  | 0, _, p => p
  | fuel + 1, last, p =>
    let (last, p) := advanceAll budget budget 0 last p
    let done := p.versions.isEmpty
    let (least, p) := p.condense budget
    let settled := p.finished.any fun t => least.all fun c => t.cost < c
    if done || settled then p else run budget fuel last p

/-- The beginning of a parse. -/
def start (text : List Char) : Progress where
  stack := #[⟨1, Cursor.ofText text, [], 0, 0, 0⟩]
  versions := [⟨0, none, 0, .active⟩]
  finished := none
  accepted := 0

end Progress

/-- The steps that each part of a parse may take of a text of this length.  This is a bound by
experience, and a generous one: of all texts tried, none has needed more than a small fraction of
it.  It is proved to be enough for some families of texts, but not for all.  A part that comes to
its end stops with what it has; a parse that does so answers with the tree it has finished, or, if
there is none, with an error over nothing. -/
def budgetFor (length : Nat) : Nat := 64 * (length + 64)

/-- The syntax tree of a text. -/
def parse (text : List Char) : SyntaxTree :=
  let budget := budgetFor text.length
  match (Progress.run budget budget 0 (Progress.start text)).finished with
  | some tree => tree
  | none => SyntaxTree.ofChildren Symbol.error (Cursor.ofText text) []

end JsxDetect.Parse
