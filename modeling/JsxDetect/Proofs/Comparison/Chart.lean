import JsxDetect.Proofs.Automaton.Entries
import JsxDetect.Proofs.Parse.Turn

/-!
# The states of comparisons

While a chain of comparisons is read the automaton stays in a few of its states, and each of them
stands over few others.  All readings of the chain are among these: as an expression, as type
arguments behind a `<`, and as several statements where a line ends behind a `>`.

A `Site` is what the parser can have come to in the text.  For each there are the states that a
version may be in there, the *heads*, and among them the *sound* ones: whatever operator comes
next, a version in one of those has a way on.

## Main Definitions

* `Operator`: the operators of a chain, with their tokens
* `belowOf`: the states that a state may stand over
* `Site`, `Site.heads`, `Site.sound`: where a version may be, and in which states
* `Site.lands`: the states that a token leads to

## Main Results

* `charted_of_head`: a head only leads to heads, and to states that tokens lead to; and a sound one
  has a way on
* `sound_of_landed`: the states that tokens lead to and that have a way on

## Design Notes

**A certificate, checked once.**  The tables of the automaton have thousands of states.  The lists
here name those that a chain can lead to, and one evaluation, `heads_charted`, checks that they are
closed under all that the automaton does at the tokens of a chain.  No later proof looks at an
action by itself: `Charted` is read off the check, and `Completes`, `Shifts` and `LeadsTo` are its
parts in terms of propositions.

**What the lists claim.**  The list of heads is only an upper bound and may be too long.  The sound
states are those for which something is claimed: that a version in one of them is not lost.  It
takes the token, or else the first phrase that it completes leads to sound states.

**Why rank and place.**  Completing phrases one over the other has to end.  `rank` goes down with
most of them; where it does not, the phrase was over at least two trees with an operator between, so
its beginning lies further back in the text.  `lower` is this lexicographic order, and it is checked
with the rest.

**When the grammar changes.**  The numbers here are those of one automaton.  For another one the
lists have to be found anew, and then `heads_charted` tells whether they are right; the proofs on
chains do not mention numbers beyond a few states with a meaning, such as 1201, a name behind `<`.
-/

namespace JsxDetect.Comparison

open Automaton SyntaxTree

/-! ### Operators -/

/-- The operators of a chain of comparisons. -/
inductive Operator where
  | less | lessEqual | greater | greaterEqual | equal | unequal | same | different
  | and | or | meet | join | plus | minus | times | remainder
  deriving DecidableEq

namespace Operator

/-- The text of an operator. -/
def text : Operator → List Char
  | less => ['<'] | lessEqual => ['<', '='] | greater => ['>'] | greaterEqual => ['>', '=']
  | equal => ['=', '='] | unequal => ['!', '='] | same => ['=', '=', '=']
  | different => ['!', '=', '='] | and => ['&', '&'] | or => ['|', '|'] | meet => ['&']
  | join => ['|'] | plus => ['+'] | minus => ['-'] | times => ['*'] | remainder => ['%']

/-- The token of an operator. -/
def symbol : Operator → Symbol
  | less => 96 | lessEqual => 97 | greater => 51 | greaterEqual => 102 | equal => 98
  | unequal => 100 | same => 99 | different => 101 | and => 83 | or => 84 | meet => 88
  | join => 90 | plus => 91 | minus => 92 | times => 4 | remainder => 94

/-- The token of its first character, which is read where no operator can stand. -/
def first : Operator → Symbol
  | less | lessEqual => 96 | greater | greaterEqual => 51 | equal | same => 8
  | unequal | different => 20 | and | meet => 88 | or | join => 90
  | plus => 91 | minus => 92 | times => 4 | remainder => 94

/-- The token of its second character. -/
def second : Operator → Symbol
  | and => 88 | or => 90 | _ => 8

/-- Is it of more than one character? -/
def long (o : Operator) : Bool := o.symbol != o.first

/-- The operators. -/
def all : List Operator := [less, lessEqual, greater, greaterEqual, equal, unequal, same, different,
  and, or, meet, join, plus, minus, times, remainder]

theorem mem_all (o : Operator) : o ∈ all := by
  cases o <;> decide

/-- The states that the operator leads to, as a whole or by its last character.  Behind a `>` a
statement may have ended with the line. -/
def entered : Operator → List StateId
  | less => [155, 1085] | lessEqual | greaterEqual => [406] | greater => [406, 1948, 2754, 772, 780]
  | equal | unequal | same | different => [418] | and => [410, 956] | or => [411, 957]
  | meet => [413, 966] | join => [415, 967] | plus | minus => [416] | times | remainder => [408]

/-- The states that its first character leads to, if there are more. -/
def begun : Operator → List StateId
  | lessEqual => [1085] | greaterEqual => [1948, 2754] | and => [966] | or => [967] | _ => []

end Operator

/-! ### States -/

/-- The states behind a binary operator, and behind the `=` of the declaration. -/
def operatorStates : List StateId := [155, 406, 408, 410, 411, 413, 415, 416, 418, 426]

/-- The states behind a whole expression. -/
def expressionStates : List StateId :=
  [1663, 1680, 1681, 1682, 1683, 1685, 1687, 1688, 1690, 1775]

/-- The states that an operand leads to. -/
def operandStates : List StateId := [1201, 1891, 1258, 1261, 2086, 2732, 2767]

/-- The states behind a statement, and those that its phrases lead to. -/
def statementStates : List StateId := [772, 780, 762, 763, 9, 15]

/-- The states behind a statement, or behind all of them. -/
def settledStates : List StateId := 5357 :: statementStates

/-- The states behind a type. -/
def typeStates : List StateId := [2766, 2770, 2774, 2790, 2894, 2900, 3698, 3721]

/-- A state and those that it may stand over. -/
abbrev Floor := StateId × List StateId

/-- The states that are used, with those that they may stand over. -/
def floors : List Floor := [
  (3338, [1]), (3340, [3338]),
  -- operators
  (155, expressionStates),
  (406, [1663, 1682, 1683, 1685, 1687, 1690, 1775]),
  (408, [1663, 1680, 1682, 1683, 1685, 1687, 1688, 1690, 1775]),
  (410, [1663, 1683, 1775]), (411, [1663, 1775]), (413, [1663, 1682, 1683, 1687, 1775]),
  (415, [1663, 1682, 1683, 1775]), (416, [1663, 1680, 1682, 1683, 1685, 1687, 1690, 1775]),
  (418, [1663, 1682, 1683, 1685, 1687, 1775]), (426, [3340]),
  -- operands
  (1201, [155]), (1891, [155]), (1258, [15]), (1261, [406, 408, 410, 411, 413, 415, 416, 418, 426]),
  (2086, [15, 406, 408, 410, 411, 413, 415, 416, 418, 426]),
  (1879, 15 :: operatorStates), (2088, 15 :: operatorStates),
  -- expressions
  (1663, [15]), (1680, [155, 406]), (1681, [408]), (1682, [410]), (1683, [411]), (1685, [413]),
  (1687, [415]), (1688, [416]), (1690, [418]), (1775, [426]), (4475, [3340]), (4293, [3338]),
  -- types
  (1085, [1201, 2732]), (966, [2894, 2900, 3698, 3721]), (967, [3698, 3721]), (956, [966]),
  (957, [967]), (2732, [956, 957, 966, 967, 1085]), (2767, [956, 957, 966, 967, 1085]),
  (2766, [155, 956, 957, 966, 967, 1085]), (2770, [155, 956, 957, 966, 967, 1085]),
  (2774, [956]), (2790, [966]), (2894, [957]), (2900, [967]), (3698, [155]), (3721, [1085]),
  (1948, [3698]), (2754, [3721]), (2777, [1201, 2732]), (1763, expressionStates),
  -- statements
  (772, [1663]), (780, [4293]), (762, [1, 15]), (763, [1]), (9, [15]), (15, [1]), (5357, [1])]

/-- The states that a state may stand over. -/
def belowOf (state : StateId) : List StateId :=
  ((floors.find? fun floor => floor.1 == state).map Prod.snd).getD []

/-- The states a number of steps below a state. -/
def basesOf (state : StateId) : Nat → List StateId
  | 0 => [state]
  | n + 1 => (basesOf state n).flatMap belowOf

/-! ### Sites -/

/-- What the parser can have come to: something of the beginning, an operand behind an operator or
behind the `=`, an operator or the semicolon, the rest of an operator, or the end. -/
inductive Site where
  | begin | named | equals
  | before (o : Option Operator)
  | behind (o : Option Operator)
  | within (o : Operator)
  | ended
  deriving DecidableEq

/-- The states in which a whole operator is read, not its first character only. -/
def wholeStates : List StateId :=
  [1201, 1891, 1258, 1261, 2086, 1879, 2088] ++ expressionStates

/-- The states in which a semicolon may be left out at the end of a line. -/
def breakStates : List StateId := [1948, 1763, 2088, 4475, 4293] ++ expressionStates

/-- The states that tokens lead to and that have a way on wherever they are come to. -/
def firmStates : List StateId := [3338, 3340, 772, 780] ++ operatorStates ++ wholeStates

namespace Site

/-- The sites. -/
def all : List Site := [begin, named, equals, before none, behind none, ended] ++
  Operator.all.map (fun o => before (some o)) ++ Operator.all.map (fun o => behind (some o)) ++
  Operator.all.map within

theorem mem_all (site : Site) : site ∈ all := by
  rcases site with _ | _ | _ | (_ | o) | (_ | o) | o | _ <;> try cases o
  all_goals decide

/-- The states that a version may be in at a site. -/
def heads : Site → List StateId
  | begin => [1]
  | named => [3338]
  | equals => [3340]
  | before none => [426]
  | before (some .greater) =>
    [406, 1948, 2754] ++ statementStates ++ [1763, 2088, 4475, 4293] ++ expressionStates
  | before (some o) => o.entered
  | behind none => wholeStates ++ [4475, 4293, 2732, 2767] ++ typeStates
  | behind (some _) => wholeStates ++ [2732, 2767] ++ typeStates
  | within .greaterEqual => Operator.greaterEqual.begun ++ 2777 :: typeStates
  | within o => o.begun
  | ended => settledStates

/-- The heads that are come to by a token, or by a semicolon left out. -/
def landed : Site → List StateId
  | begin => [1]
  | named => [3338]
  | equals => [3340]
  | before none => [426]
  | before (some o) => o.entered
  | behind _ => operandStates
  | within o => o.begun
  | ended => [772, 780]

/-- The states that have a way on. -/
def sound : Site → List StateId
  | begin => [1]
  | named => [3338]
  | equals => [3340]
  | before (some .greater) => statementStates ++ operatorStates
  | before _ => operatorStates
  | behind none => 4475 :: 4293 :: wholeStates
  | behind (some _) => wholeStates
  | within _ => []
  | ended => settledStates

/-- The tokens that may be read in a state. -/
def tokens (site : Site) (state : StateId) : List Symbol :=
  match site with
  | begin => [19]
  | named => [1]
  | equals => [8]
  | before _ => if state ∈ breakStates then [1, 119, 168] else [1, 119]
  | behind none => [26]
  | behind (some o) => if state ∈ wholeStates then [o.symbol] else [o.first]
  | within o => [o.second]
  | ended => [0]

/-- The states that a token leads to, from a state. -/
def lands (site : Site) (state : StateId) (token : Symbol) : List StateId :=
  match site with
  | begin => [3338]
  | named => [3340]
  | equals => [426]
  | before o =>
    if token = 168 then [772, 780]
    else (if token = 1 then [2732] else [2767]) ++
      if o = some .less then if token = 1 then [1201] else [1891]
      else if token = 1 then [1258, 1261] else [2086]
  | behind none => [772, 780]
  | behind (some o) => if state ∈ wholeStates ∨ o.long = false then o.entered else o.begun
  | within o => o.entered
  | ended => []

end Site

/-! ### What the states do -/

/-- Does a version go on with its next action after an action? -/
def passes : Action → Bool
  | .reduce .. => true
  | .shift _ repeats => repeats
  | _ => false

/-- The action that ends a list of actions, if one does. -/
def closing (as : List Action) : List Action := as.dropWhile passes

/-- A number that the phrases completed one over the other make smaller, as long as they begin at
the same place. -/
def rank (state : StateId) : Nat :=
  if state ∈ [772, 780] then 5
  else if state ∈ [1201, 1258, 1261, 1891, 2086, 763] then 4
  else if state ∈ [1879, 2088, 762] then 3
  else if state ∈ 9 :: expressionStates then 2
  else if state ∈ [4475, 15] then 1
  else 0

/-- Does a site belong to the beginning of the declaration, where no phrase is completed? -/
def Site.early (site : Site) : Bool := [begin, named, equals].contains site

/-- May a head at a site take an action at a token? -/
def fits (site : Site) (state : StateId) (token : Symbol) : Action → Bool
  | .shift next repeats =>
    repeats || (site.lands state token).contains next && (belowOf next).contains state && next != 1
  | .reduce symbol count bonus =>
    bonus == 0 && decide (0 < count) && decide (count ≤ 3) && !site.early && ordinary symbol &&
      ((List.range count).all fun n => !(basesOf state n).contains 1) &&
      (basesOf state count).all fun base =>
        (belowOf (goto base symbol)).contains base && site.heads.contains (goto base symbol) &&
          (site.tokens (goto base symbol)).contains token && goto base symbol != 1 &&
          !(operandStates ++ operatorStates).contains (goto base symbol) &&
          (!settledStates.contains state || settledStates.contains (goto base symbol))
  | .accept => site == .ended && state == 5357
  | _ => false

/-- Does a phrase over a base lead to a lower state, or to a place further back? -/
def lower (state : StateId) (count : Nat) (next : StateId) : Bool :=
  decide (rank next < rank state) ||
    decide (rank next < 5) && decide (2 ≤ count) && (basesOf state 1).all operatorStates.contains

/-- Does an action complete a phrase that leads to lower sound states only? -/
def lowers (site : Site) (state : StateId) : Action → Bool
  | .reduce symbol count _ => (basesOf state count).all fun base =>
      site.sound.contains (goto base symbol) && lower state count (goto base symbol)
  | _ => false

/-- Does a list of actions end in a shift to one of some states? -/
def endsIn (states : List StateId) (as : List Action) : Bool :=
  match closing as with
  | [.shift next _] => states.contains next
  | _ => false

/-- Does a sound state have a way on?  It takes the token, or its first phrase leads to sound
states only. -/
def persists (site : Site) (state : StateId) (as : List Action) : Bool :=
  endsIn firmStates as || as == [.accept] || as.head?.any (lowers site state)

/-- Is there no more in a list of actions than phrases, or than other actions?  Where it is
otherwise either the token is a `<` that may begin type arguments, or it is an operator. -/
def isPlain (state : StateId) (token : Symbol) (as : List Action) : Bool :=
  (closing as).isEmpty || as.all (fun a => !passes a) ||
    token == 96 && (state == 1201 || endsIn operatorStates as)

/-- What is to be checked of a head at a token. -/
def charted (site : Site) (state : StateId) (token : Symbol) (as : List Action) : Bool :=
  state != 0 && as.all (fits site state token) &&
    (!site.sound.contains state || persists site state as) && isPlain state token as &&
    (!(Grammar.isKeyword token || operatorStates.contains state) || endsIn firmStates as)

/-- **The check.**  Every head at every site is charted at each of its tokens, by evaluation.  It
takes most of the time of this module. -/
theorem heads_charted : ∀ site ∈ Site.all, ∀ state ∈ site.heads, ∀ token ∈ site.tokens state,
    charted site state token (actions state token) = true := by
  decide +kernel

/-! ### What has been checked -/

/-- A phrase over a base leads from a head to another one, which takes the same token. -/
structure LeadsTo (site : Site) (state : StateId) (token : Symbol) (base next : StateId) : Prop where
  below : base ∈ belowOf next
  head : next ∈ site.heads
  token : token ∈ site.tokens next
  notStart : next ≠ 1
  other : next ∉ operandStates ++ operatorStates
  /-- Behind a statement nothing less is completed. -/
  settled : state ∈ settledStates → next ∈ settledStates

/-- A head may complete a phrase.  It is over one to three trees and does not reach below the
beginning of the text. -/
structure Completes (site : Site) (state : StateId) (token symbol : Symbol) (count : Nat)
    (bonus : Int) :
    Prop where
  bonus : bonus = 0
  nonempty : 0 < count
  short : count ≤ 3
  late : site.early = false
  ordinary : ordinary symbol = true
  inner : ∀ n < count, 1 ∉ basesOf state n
  leads : ∀ base ∈ basesOf state count, LeadsTo site state token base (goto base symbol)

/-- A head may take a token. -/
structure Shifts (site : Site) (state : StateId) (token : Symbol) (next : StateId) : Prop where
  lands : next ∈ site.lands state token
  below : state ∈ belowOf next
  notStart : next ≠ 1

/-- What is known of a head at a token. -/
structure Charted (site : Site) (state : StateId) (token : Symbol) (as : List Action) : Prop where
  inside : state ≠ 0
  fits : ∀ a ∈ as, fits site state token a = true
  persists : state ∈ site.sound → persists site state as = true
  isPlain : isPlain state token as = true
  goesOn : Grammar.isKeyword token = true ∨ state ∈ operatorStates → endsIn firmStates as = true

/-- **What a head does** at a token that may be read there.  Later modules use the fields of
`Charted` and never an action of a certain state, with the one exception of type arguments. -/
theorem charted_of_head {site : Site} {state : StateId} {token : Symbol} (head : state ∈ site.heads)
    (read : token ∈ site.tokens state) : Charted site state token (actions state token) := by
  have checked := heads_charted site site.mem_all state head token read
  simp only [charted, Bool.and_eq_true, bne_iff_ne, List.all_eq_true, Bool.or_eq_true,
    Bool.not_eq_true', Bool.or_eq_false_iff] at checked
  obtain ⟨⟨⟨⟨inside, fits⟩, persists⟩, isPlain⟩, goesOn⟩ := checked
  refine ⟨inside, fits, fun sound => persists.resolve_left fun none => ?_, isPlain, fun is =>
    goesOn.resolve_left fun none => ?_⟩
  · rw [List.contains_iff_mem.mpr sound] at none
    cases none
  · rcases is with is | is
    · rw [is] at none
      cases none.1
    · rw [List.contains_iff_mem.mpr is] at none
      cases none.2

/-- A state that a token leads to has a way on if it is one of the `firmStates`. -/
theorem sound_of_landed : ∀ site ∈ Site.all, ∀ state ∈ site.landed, state ∈ firmStates →
    state ∈ site.sound := by
  decide +kernel

namespace Charted

variable {site : Site} {state : StateId} {token : Symbol} {as : List Action}

/-- A phrase among the actions of a head. -/
theorem completes (charted : Charted site state token as) {symbol : Symbol} {count : Nat}
    {bonus : Int} (mem : .reduce symbol count bonus ∈ as) :
    Completes site state token symbol count bonus := by
  have fits := charted.fits _ mem
  simp only [Comparison.fits, Bool.and_eq_true, beq_iff_eq, decide_eq_true_eq, Bool.not_eq_true',
    List.all_eq_true, List.mem_range, bne_iff_ne] at fits
  obtain ⟨⟨⟨⟨⟨⟨bonus, nonempty⟩, short⟩, late⟩, ordinary⟩, inner⟩, leads⟩ := fits
  refine ⟨bonus, nonempty, short, late, ordinary, fun n low mem => ?_, fun base mem => ?_⟩
  · have out := inner n low
    rw [List.contains_iff_mem.mpr mem] at out
    cases out
  · obtain ⟨⟨⟨⟨⟨below, head⟩, read⟩, notStart⟩, other⟩, settled⟩ := leads base mem
    refine ⟨List.contains_iff_mem.mp below, List.contains_iff_mem.mp head,
      List.contains_iff_mem.mp read, notStart, fun mem => ?_, fun mem => ?_⟩
    · rw [List.contains_iff_mem.mpr mem] at other
      cases other
    · rw [Bool.or_eq_true, Bool.not_eq_true', List.contains_iff_mem.mpr mem] at settled
      exact List.contains_iff_mem.mp (settled.resolve_left nofun)

theorem shifts (charted : Charted site state token as) {next : StateId}
    (mem : .shift next false ∈ as) : Shifts site state token next := by
  have fits := charted.fits _ mem
  simp only [Comparison.fits, Bool.false_or, Bool.and_eq_true, bne_iff_ne] at fits
  obtain ⟨⟨lands, below⟩, notStart⟩ := fits
  exact ⟨List.contains_iff_mem.mp lands, List.contains_iff_mem.mp below, notStart⟩

end Charted

end JsxDetect.Comparison
