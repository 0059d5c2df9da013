import JsxDetect.Proofs.Parse.Turn

/-!
# Stacks in a region of the automaton

While a text has readings without errors, the parser stays in a small part of the automaton.  A
`Region` says which states may stand at which places of the text and which may lie below which,
and this is what is known of every node of the stack, however many readings share it: the trees on
all ways down from a node are without errors, and the states passed are those that the region
tells.

## Main Definitions

* `SyntaxTree.Neutral`: a tree without errors and JSX
* `Region`, `Region.Holds`: what is known of all nodes of a stack
* `Region.base`: the states that lie so many trees below a state

## Main Results

* `Region.Holds.push`, `Region.Holds.addLink`: the ways to change a stack preserve it
* `Region.Holds.pop`, `Region.Holds.pop_first`: the ways down over some trees

## Design Notes

**Why a stack is not followed as such.**  Readings of an ambiguous text share their beginnings, and
joining two of them adds a link to a node that others stand on.  The exact set of stacks therefore
changes at a distance.  What does not change is which states may be where, and this is all that the
answer depends on.  `Region.Holds` is a statement about single nodes and links, and each operation
changes one node or adds one.

**What a region is given by.**  `fits` and `under` are finite data in the applications, checked once
over the tables.  `base` is computed from `under` and overestimates the states below.  `place`
numbers the ends of tokens, so that places may be compared as numbers, and `rising` marks the states
behind a token with some text; a way through one of those strictly descends in the text.

**Why first links matter.**  All ways down from a node are searched, but only a bounded number of
versions is kept, and those found first are preferred.  So that a reading is found at all is a
matter of order, and `pop_first` follows the one way that leads over first links.  `KeepsFirstLinks`
makes this stable: links are only ever added behind the others.
-/

namespace JsxDetect

namespace SyntaxTree

/-! ### Trees without errors and JSX -/

/-- A tree without errors and JSX, with nothing in its favour, that may not stand anywhere.  Every
tree of a reading in a region is one, and so no comparison of trees or versions can prefer any. -/
structure Neutral (t : SyntaxTree) : Prop where
  clean : t.Clean false
  bonus : t.bonus = 0
  solid : t.extra = false

/-- What speaks for a phrase is the sum over its parts, which is zero if nothing speaks for any. -/
theorem bonus_foldl {ts : List SyntaxTree} (none : ∀ t ∈ ts, t.bonus = 0) (inError : Bool)
    (sums : Sums) : (ts.foldl (Sums.add inError) sums).bonus = sums.bonus := by
  induction ts generalizing sums with
  | nil => rfl
  | cons t ts ih =>
    rw [List.foldl_cons, ih fun u mem => none u (List.mem_cons_of_mem _ mem)]
    change sums.bonus + t.bonus = _
    rw [none t List.mem_cons_self, add_zero]

/-- **A phrase over neutral trees** is neutral, if its symbol is an ordinary one: neither an error
nor a node of JSX. -/
theorem Neutral.ofChildren {symbol : Symbol} (known : ordinary symbol = true) {ts : List SyntaxTree}
    (neutral : ∀ t ∈ ts, t.Neutral) (cursor : Cursor) :
    ((SyntaxTree.ofChildren symbol cursor ts).addBonus 0).Neutral := by
  rw [ordinary, Bool.and_eq_true, Option.isNone_iff_eq_none, Bool.not_eq_true'] at known
  have noTag : symbol ≠ singleTag := by
    rintro rfl
    exact absurd known.1 (by decide)
  have noPair : (symbol == pairedElement) = false := by
    refine beq_false_of_ne ?_
    rintro rfl
    exact absurd known.1 (by decide)
  obtain ⟨flags, noJsx⟩ := allClean_false fun t mem => (neutral t mem).clean
  have clean := Clean.ofChildren known.2 noTag flags cursor 0
  rw [noPair, Bool.false_or, noJsx] at clean
  refine ⟨clean, ?_, ?_⟩
  · have sum := bonus_foldl (fun t mem => (neutral t mem).bonus) (isErrorSymbol symbol) {}
    rw [SyntaxTree.bonus]
    split
    · rfl
    · exact (add_zero _).trans sum
  · rw [extra_addBonus]
    rfl

end SyntaxTree

namespace Parse

open Automaton Stack SyntaxTree

/-! ### Stacks that keep their first links -/

/-- The nodes of a stack keep their states and places, and their first links. -/
structure KeepsFirstLinks (stack stack' : Stack) : Prop where
  shape : SameShape stack stack'
  first : ∀ {i : Nat} {link : Link} {links : List Link}, (stack.node i).links = link :: links →
    ∃ links', (stack'.node i).links = link :: links'

/-- A stack keeps its own first links. -/
theorem KeepsFirstLinks.refl (stack : Stack) :
    KeepsFirstLinks stack stack := ⟨.refl _, fun same => ⟨_, same⟩⟩

/-- Two changes that keep first links keep them together. -/
theorem KeepsFirstLinks.trans {a b c : Stack} (one : KeepsFirstLinks a b)
    (two : KeepsFirstLinks b c) : KeepsFirstLinks a c := by
  refine ⟨one.shape.trans two.shape, fun same => ?_⟩
  obtain ⟨links, same⟩ := one.first same
  exact two.first same

/-- A node with another link behind its links, in the same state at the same place.  This is the
only way in which a node is changed once it is on the stack. -/
theorem KeepsFirstLinks.setNode {stack : Stack} {index : Nat} {n : StackNode} {link : Link}
    (inside : index < stack.size) (state : n.state = (stack.node index).state)
    (place : n.place = (stack.node index).place)
    (links : n.links = (stack.node index).links ++ [link]) :
    KeepsFirstLinks stack (stack.setNode index n) := by
  refine ⟨.setNode state place, fun {i l ls} same => ?_⟩
  by_cases here : i = index
  · subst here
    rw [node_setNode_self n inside, links, same]
    exact ⟨_, List.cons_append⟩
  · rw [node_setNode_of_ne n here]
    exact ⟨_, same⟩

/-- A node that a reading may stand on: it is not the end of a whole text, which is in the first
state as well. -/
structure LiveNode (stack : Stack) (i : Nat) : Prop where
  inside : i < stack.size
  first : (stack.node i).state = 1 → i = 0

/-- Whether a reading may stand on a node is a matter of its state. -/
theorem LiveNode.of_sameShape {stack stack' : Stack} {i : Nat} (live : LiveNode stack i)
    (shape : SameShape stack stack') : LiveNode stack' i :=
  ⟨by rw [shape.size]; exact live.inside, by rw [shape.state]; exact live.first⟩

/-- Another node on top does not change this of the nodes below. -/
theorem LiveNode.push {stack : Stack} {i : Nat} (live : LiveNode stack i) (n : StackNode) :
    LiveNode (Array.push stack n) i :=
  ⟨by rw [Array.size_push]; exact Nat.lt_succ_of_lt live.inside,
    by rw [node_push_of_lt n live.inside]; exact live.first⟩

/-- The converse for the nodes that were there before. -/
theorem LiveNode.of_push {stack : Stack} {i : Nat} {n : StackNode}
    (live : LiveNode (Array.push stack n) i)
    (inside : i < stack.size) : LiveNode stack i :=
  ⟨inside, by rw [← node_push_of_lt n inside]; exact live.first⟩

/-! ### Regions -/

/-- A part of the automaton that the readings of a text stay in. -/
structure Region where
  /-- The places of the text where a token ends. -/
  place : Nat → Cursor
  /-- The states that may stand at a place. -/
  fits : StateId → Nat → Prop
  /-- The states that may lie below a state. -/
  under : StateId → List StateId
  /-- The states that are come to by a token that takes some text. -/
  rising : StateId → Prop
  /-- No reading is in an error. -/
  noError : ∀ {q : StateId} {n : Nat}, fits q n → q ≠ 0
  /-- Different places have different offsets. -/
  apart : ∀ {q q' : StateId} {n n' : Nat}, fits q n → fits q' n' →
    (place n).offset = (place n').offset → n = n'

namespace Region

variable (R : Region)

/-- The states that may lie so many trees below a state.  This is an overestimate, since it forgets
on which node a state was passed. -/
def base (q : StateId) : Nat → List StateId
  | 0 => [q]
  | count + 1 => (base q count).flatMap R.under

/-- What is known of a link of the node with the number `i`. -/
structure LinkOk (stack : Stack) (i : Nat) (link : Link) : Prop where
  live : LiveNode stack link.below
  under : (stack.node link.below).state ∈ R.under (stack.node i).state
  tree : ∃ t, link.tree = some t ∧ t.Neutral ∧ t.label.stop = (stack.node i).place
  order : (stack.node link.below).place.offset ≤ (stack.node i).place.offset
  rises : R.rising (stack.node i).state →
    (stack.node link.below).place.offset < (stack.node i).place.offset

/-- What is known of the node with the number `i`.  Only the beginning of the text, in state 1, has
no links. -/
structure NodeOk (stack : Stack) (i : Nat) : Prop where
  stands : ∃ n, R.fits (stack.node i).state n ∧ (stack.node i).place = R.place n
  cost : (stack.node i).cost = 0
  bonus : (stack.node i).bonus = 0
  links : ∀ link ∈ (stack.node i).links, R.LinkOk stack i link
  linked : (stack.node i).state ≠ 1 → (stack.node i).links ≠ []

/-- What is known of all nodes of a stack. -/
def Holds (stack : Stack) : Prop := ∀ i, LiveNode stack i → R.NodeOk stack i

variable {R} {stack stack' : Stack}

/-- What is known of a link concerns states and places only, so it stays known on every stack of the
same shape. -/
theorem LinkOk.of_sameShape {i : Nat} {link : Link} (ok : R.LinkOk stack i link)
    (shape : SameShape stack stack') : R.LinkOk stack' i link where
  live := ok.live.of_sameShape shape
  under := by rw [shape.state, shape.state]; exact ok.under
  tree := by rw [shape.place]; exact ok.tree
  order := by rw [shape.place, shape.place]; exact ok.order
  rises := by rw [shape.state, shape.place, shape.place]; exact ok.rises

/-- A link of a node suits every node in the same state at the same place. -/
theorem LinkOk.of_joins {i j : Nat} {link : Link} (ok : R.LinkOk stack i link)
    (state : (stack.node j).state = (stack.node i).state)
    (place : (stack.node j).place = (stack.node i).place) : R.LinkOk stack j link where
  live := ok.live
  under := by rw [state]; exact ok.under
  tree := by rw [place]; exact ok.tree
  order := by rw [place]; exact ok.order
  rises := by rw [state, place]; exact ok.rises

/-- What is known of a node stays known when another one is pushed, as its links lead to nodes
below. -/
theorem NodeOk.push {n : StackNode} {i : Nat} (ok : R.NodeOk stack i) (inside : i < stack.size) :
    R.NodeOk (Array.push stack n) i := by
  have same : ∀ j, j < stack.size → Stack.node (Array.push stack n) j = stack.node j :=
    fun j low => node_push_of_lt n low
  refine ⟨by rw [same i inside]; exact ok.stands, by rw [same i inside]; exact ok.cost,
    by rw [same i inside]; exact ok.bonus, fun link mem => ?_, by rw [same i inside]; exact ok.linked⟩
  rw [same i inside] at mem
  obtain ⟨live, under, tree, order, rises⟩ := ok.links link mem
  have below := same _ live.inside
  exact ⟨live.push n, by rw [same i inside, below]; exact under, by rw [same i inside]; exact tree,
    by rw [same i inside, below]; exact order, by rw [same i inside, below]; exact rises⟩

namespace Holds

variable (holds : R.Holds stack)

include holds

/-- Nodes with the same offset lie at the same place, row and column included.  Versions are joined
by offset alone, so this is what makes joining them right. -/
theorem place_eq {i j : Nat} (liveI : LiveNode stack i) (liveJ : LiveNode stack j)
    (offset : (stack.node i).place.offset = (stack.node j).place.offset) :
    (stack.node i).place = (stack.node j).place := by
  obtain ⟨n, fits, samePlace⟩ := (holds i liveI).stands
  obtain ⟨m, fits', samePlace'⟩ := (holds j liveJ).stands
  rw [samePlace, samePlace'] at offset ⊢
  rw [R.apart fits fits' offset]

/-! ### Changing links -/

/-- A node may be replaced by one with other links, all of which suit it. -/
theorem setNode {index : Nat} {n : StackNode} (live : LiveNode stack index)
    (state : n.state = (stack.node index).state) (place : n.place = (stack.node index).place)
    (cost : n.cost = 0) (bonus : n.bonus = 0)
    (links : ∀ link ∈ n.links, R.LinkOk stack index link) (linked : n.links ≠ []) :
    R.Holds (stack.setNode index n) := by
  have shape : SameShape stack (stack.setNode index n) := .setNode state place
  intro i liveI
  have old := holds i ⟨by rw [← shape.size]; exact liveI.inside, by rw [← shape.state]; exact liveI.first⟩
  by_cases same : i = index
  · subst same
    have here := node_setNode_self n live.inside
    refine ⟨?_, ?_, ?_, ?_, ?_⟩
    · rw [shape.state, shape.place]
      exact old.stands
    · rw [here, cost]
    · rw [here, bonus]
    · rw [here]
      exact fun link mem => (links link mem).of_sameShape shape
    · rw [here]
      exact fun _ => linked
  · have here : (stack.setNode index n).node i = stack.node i := node_setNode_of_ne n same
    exact ⟨by rw [here]; exact old.stands, by rw [here]; exact old.cost, by rw [here]; exact old.bonus,
      by rw [here]; exact fun link mem => (old.links link mem).of_sameShape shape,
      by rw [here]; exact old.linked⟩

/-- What speaks for a link: nothing. -/
theorem linkBonus_eq {i : Nat} {link : Link} (ok : R.LinkOk stack i link) :
    stack.linkBonus link = 0 := by
  obtain ⟨t, tree, neutral, -⟩ := ok.tree
  rw [linkBonus, (holds _ ok.live).bonus, tree]
  exact (zero_add _).trans neutral.bonus

omit holds in
/-- Adding several links, if adding one is known to preserve what is known. -/
theorem foldl_links (add : Stack → Nat → Link → Stack) {index : Nat}
    (one : ∀ {s : Stack} {link : Link}, R.Holds s → LiveNode s index → R.LinkOk s index link →
      R.Holds (add s index link) ∧ KeepsFirstLinks s (add s index link))
    {links : List Link} (holds : R.Holds stack) (live : LiveNode stack index)
    (all : ∀ link ∈ links, R.LinkOk stack index link) :
    R.Holds (links.foldl (fun s l => add s index l) stack) ∧
      KeepsFirstLinks stack (links.foldl (fun s l => add s index l) stack) := by
  induction links generalizing stack with
  | nil => exact ⟨holds, .refl _⟩
  | cons link links ih =>
    obtain ⟨holds', steady⟩ := one holds live (all link List.mem_cons_self)
    obtain ⟨kept, steady'⟩ := ih holds' (live.of_sameShape steady.shape) fun l mem =>
      (all l (List.mem_cons_of_mem _ mem)).of_sameShape steady.shape
    exact ⟨kept, steady.trans steady'⟩

/-- **Adding a link** to a node that it suits.  If the link leads to a node like one that is there
already, then it is not the link that is added but its links, one level below; hence the fuel and
the induction on it. -/
theorem addLink (fuel : Nat) {index : Nat} {link : Link} (live : LiveNode stack index)
    (ok : R.LinkOk stack index link) :
    R.Holds (stack.addLink fuel index link) ∧ KeepsFirstLinks stack (stack.addLink fuel index link) := by
  induction fuel generalizing stack index link with
  | zero => exact ⟨holds, .refl _⟩
  | succ fuel ih =>
    have same : R.Holds stack ∧ KeepsFirstLinks stack stack := ⟨holds, .refl _⟩
    have node := holds index live
    rw [Stack.addLink]
    split
    · exact same
    · dsimp only
      split
      · next position old met =>
        obtain ⟨-, samePlace, -⟩ := StackOk.meet_sameNode met
        have oldOk := node.links old (List.mem_of_getElem? samePlace)
        obtain ⟨t, tree, neutral, -⟩ := ok.tree
        obtain ⟨o, oldTree, oldNeutral, -⟩ := oldOk.tree
        rw [tree, oldTree]
        dsimp only
        rw [neutral.bonus, oldNeutral.bonus, if_neg (Int.lt_irrefl 0)]
        exact same
      · next old met =>
        obtain ⟨mem, other, joins⟩ := StackOk.meet_joinable met
        obtain ⟨state, offset⟩ := joins_iff joins
        have oldOk := node.links old mem
        have place := holds.place_eq oldOk.live ok.live offset
        -- the links of the new node below suit the old one: it is in the same state and place
        have lower : ∀ l ∈ (stack.node link.below).links, R.LinkOk stack old.below l := fun l mem =>
          ((holds _ ok.live).links l mem).of_joins state place
        obtain ⟨joined, steady⟩ := foldl_links (Stack.addLink fuel)
          (fun holds live ok => ih holds live ok) holds oldOk.live lower
        have nodeAfter := joined index (live.of_sameShape steady.shape)
        rw [joined.linkBonus_eq (ok.of_sameShape steady.shape), nodeAfter.bonus,
          if_neg (Int.lt_irrefl 0)]
        exact ⟨joined, steady⟩
      · split
        · exact same
        · refine ⟨holds.setNode live rfl rfl node.cost ?_ ?_ ?_, .setNode live.inside rfl rfl rfl⟩
          · dsimp only
            rw [node.bonus, holds.linkBonus_eq ok]
            rfl
          · intro l mem
            rcases List.mem_append.mp mem with old | new
            · exact node.links l old
            · rw [List.mem_singleton.mp new]
              exact ok
          · exact List.append_ne_nil_of_right_ne_nil _ (List.cons_ne_nil _ _)

/-! ### Pushing -/

/-- **Pushing a node** keeps what is known of the others.  What is known of the new one is to be
shown only if a reading may stand on it. -/
theorem pushNode (n : StackNode)
    (new : LiveNode (Array.push stack n) stack.size → R.NodeOk (Array.push stack n) stack.size) :
    R.Holds (Array.push stack n) := by
  intro i live
  have inside := live.inside
  rw [Array.size_push] at inside
  rcases Nat.lt_succ_iff_lt_or_eq.mp inside with old | rfl
  · exact (holds i (live.of_push old)).push old
  · exact new live

/-- **Pushing a tree**: the new node is in a state that may lie on the old one.  The hypotheses are
those of `LinkOk` for the one link of the new node. -/
theorem push {below n : Nat} {t : SyntaxTree} {state : StateId} (live : LiveNode stack below)
    (fits : R.fits state n) (stop : t.label.stop = R.place n) (neutral : t.Neutral)
    (under : (stack.node below).state ∈ R.under state)
    (order : (stack.node below).place.offset ≤ (R.place n).offset)
    (rises : R.rising state → (stack.node below).place.offset < (R.place n).offset) :
    R.Holds (Array.push stack (stack.nodeOver below (some t) state)) := by
  have top := node_push_size stack (stack.nodeOver below (some t) state)
  have lower := holds below live
  have nodeBelow := node_push_of_lt (stack.nodeOver below (some t) state) live.inside
  have one : (stack.nodeOver below (some t) state).links = [⟨below, some t⟩] := rfl
  have place : (stack.nodeOver below (some t) state).place = R.place n := stop
  refine holds.pushNode _ fun _ => ⟨?_, ?_, ?_, ?_, ?_⟩
  · rw [top]
    exact ⟨n, fits, stop⟩
  · rw [top]
    change (stack.node below).cost + t.cost = 0
    rw [lower.cost, neutral.clean.cost]
  · rw [top]
    change (stack.node below).bonus + t.bonus = 0
    rw [lower.bonus, neutral.bonus]
    rfl
  · rw [top, one]
    intro link mem
    obtain rfl := List.mem_singleton.mp mem
    refine ⟨live.push _, ?_, ⟨t, rfl, neutral, ?_⟩, ?_, ?_⟩
    · rw [top, nodeBelow]
      exact under
    · rw [top]
      rfl
    · rw [top, nodeBelow, place]
      exact order
    · rw [top, nodeBelow, place]
      exact rises
  · rw [top, one]
    exact fun _ => List.cons_ne_nil _ _

/-! ### Ways down -/

/-- What a way down from a node passes.  The last tree is the one right below the start, as the
trees are in the order of the text. -/
structure Down (R : Region) (stack : Stack) (start : Nat) (p : Path) : Prop where
  live : LiveNode stack p.node
  neutral : ∀ t ∈ p.trees, t.Neutral
  count : p.count = p.trees.length
  base : (stack.node p.node).state ∈ R.base (stack.node start).state p.count
  stop : ∀ t, p.trees.getLast? = some t → t.label.stop = (stack.node start).place
  order : (stack.node p.node).place.offset ≤ (stack.node start).place.offset

omit holds in
theorem Down.start (R : Region) {stack : Stack} {start : Nat} (live : LiveNode stack start) :
    Down R stack start ⟨start, [], 0⟩ :=
  ⟨live, nofun, rfl, List.mem_singleton.mpr rfl, nofun, Nat.le_refl _⟩

/-- A way that goes on over one more link.  The state it comes to is one more step below the start,
which is how `base` is defined. -/
theorem Down.over {start : Nat} {p : Path} {link : Link} (down : Down R stack start p)
    (mem : link ∈ (stack.node p.node).links) (first : p.trees = [] → p.node = start) :
    Down R stack start (p.over link) := by
  have ok := (holds _ down.live).links link mem
  obtain ⟨t, tree, neutral, stop⟩ := ok.tree
  rw [Path.over_some tree, neutral.solid, if_neg Bool.false_ne_true]
  refine ⟨ok.live, ?_, ?_, ?_, ?_, Nat.le_trans ok.order down.order⟩
  · intro u mem
    rcases List.mem_cons.mp mem with rfl | later
    · exact neutral
    · exact down.neutral u later
  · exact congrArg (· + 1) down.count
  · exact List.mem_flatMap.mpr ⟨_, down.base, ok.under⟩
  · intro u last
    cases none : p.trees with
    | nil =>
      rw [none] at last
      obtain rfl : t = u := Option.some.inj last
      rw [stop, first none]
    | cons w ws =>
      refine down.stop u ?_
      rw [none] at last ⊢
      exact (List.getLast?_cons_cons).symm.trans last

/-- Whatever a search comes to is the end of a way down, for any condition on the ways that are gone
on with. -/
theorem down {stays : Path → Prop} {start : Nat} {p : Path} (live : LiveNode stack start)
    (reached : Reached stack stays ⟨start, [], 0⟩ p) :
    Down R stack start p ∧ (p.trees = [] → p.node = start) := by
  induction reached with
  | start => exact ⟨.start R live, fun _ => rfl⟩
  | @above p link before stay mem ih =>
    refine ⟨ih.1.over holds mem ih.2, ?_⟩
    obtain ⟨t, tree, -⟩ := ((holds _ ih.1.live).links link mem).tree
    rw [Path.over_some tree]
    exact nofun

/-- What a way down over some trees has come to. -/
structure Popped (R : Region) (stack : Stack) (start count node : Nat) (trees : List SyntaxTree) :
    Prop where
  live : LiveNode stack node
  base : (stack.node node).state ∈ R.base (stack.node start).state count
  neutral : ∀ t ∈ trees, t.Neutral
  length : trees.length = count
  stop : ∀ t, trees.getLast? = some t → t.label.stop = (stack.node start).place
  order : (stack.node node).place.offset ≤ (stack.node start).place.offset

/-- **The ways down over some trees.**  Whatever is found leads to a state that may lie so many
trees below, over neutral trees. -/
theorem pop {start count : Nat} {q : Parse.Stack.Popped} {trees : List SyntaxTree}
    (live : LiveNode stack start) (mem : q ∈ stack.pop start count) (way : trees ∈ q.paths) :
    Popped R stack start count q.node trees := by
  obtain ⟨p, descent, ends, node, rfl⟩ := (recorded_pop stack start count).1 q mem trees way
  have known := (holds.down live descent).1
  rw [← node, ← ends]
  exact ⟨known.live, known.base, known.neutral, known.count.symm, known.stop, known.order⟩

end Holds

end Region

/-! ### There is a way down -/

namespace Stack

variable {stack : Stack} {σ : Type} {visit : σ → Path → σ × Visit}

/-- Recording a way leaves the first record where it is, since ways to the same node are put
together. -/
theorem record_first (node : Nat) (trees : List SyntaxTree) (popped : List Popped) :
    (record node trees popped).head?.map Popped.node =
      some ((popped.head?.map Popped.node).getD node) := by
  cases popped with
  | nil => rfl
  | cons p ps =>
    rw [record]
    split
    · next same => rw [← same]; rfl
    · rfl

variable (stack visit) in
/-- The ways that were kept come first, and what was recorded first stays so.  A round appends to
both of its results and never reorders them. -/
theorem round_kept (todo : List Path) (s : σ) (kept added : List Path) (popped : List Popped) :
    (∃ others, (round visit stack todo s kept added popped).2.1 = kept.reverse ++ others) ∧
      ∀ node, popped.head?.map Popped.node = some node →
        (round visit stack todo s kept added popped).2.2.head?.map Popped.node = some node := by
  induction todo generalizing s kept added popped with
  | nil => exact ⟨⟨added.reverse, rfl⟩, fun _ => id⟩
  | cons p todo ih =>
    rw [round]
    dsimp only
    have first : ∀ node, popped.head?.map Popped.node = some node →
        (if (visit s p).2.take then record p.node p.trees popped else popped).head?.map Popped.node =
          some node := by
      intro node isFirst
      split
      · rw [record_first, isFirst]
        rfl
      · exact isFirst
    split
    · next link others _ _ =>
      obtain ⟨⟨later, same⟩, kept'⟩ := ih (visit s p).1 (p.over link :: kept)
        (branch p others (kept.length + 1 + todo.length + added.length) added)
        (if (visit s p).2.take then record p.node p.trees popped else popped)
      refine ⟨⟨p.over link :: later, ?_⟩, fun node known => kept' node (first node known)⟩
      rw [same, List.reverse_cons, List.append_assoc]
      rfl
    · obtain ⟨same, kept'⟩ := ih (visit s p).1 kept added
        (if (visit s p).2.take then record p.node p.trees popped else popped)
      exact ⟨same, fun node known => kept' node (first node known)⟩

variable (stack visit) in
/-- What was recorded first stays so. -/
theorem walk_first (fuel : Nat) (s : σ) (paths : List Path) {popped : List Popped} {node : Nat}
    (known : popped.head?.map Popped.node = some node) :
    (walk visit stack fuel s paths popped).2.head?.map Popped.node = some node := by
  induction fuel generalizing s paths popped with
  | zero => exact known
  | succ fuel ih =>
    cases paths with
    | nil => exact known
    | cons p paths => exact ih _ _ ((round_kept stack visit (p :: paths) s [] [] popped).2 node known)

/-- Branching at a node adds only ways over its links. -/
theorem mem_branch_over {p q : Path} {links : List Link} {total : Nat} {added : List Path}
    (mem : q ∈ branch p links total added) : q ∈ added ∨ ∃ link ∈ links, q = p.over link := by
  induction links generalizing total added with
  | nil => exact .inl mem
  | cons link links ih =>
    rw [branch] at mem
    split at mem
    · rcases ih mem with old | ⟨other, inside, same⟩
      · rcases List.mem_cons.mp old with rfl | old
        · exact .inr ⟨link, List.mem_cons_self, rfl⟩
        · exact .inl old
      · exact .inr ⟨other, List.mem_cons_of_mem _ inside, same⟩
    · rcases ih mem with old | ⟨other, inside, same⟩
      · exact .inl old
      · exact .inr ⟨other, List.mem_cons_of_mem _ inside, same⟩

/-- The question whether a way down is over a number of trees. -/
def atCount (count : Nat) : Unit → Path → Unit × Visit :=
  fun _ p => ((), ⟨p.count = count, p.count = count⟩)

section First

variable {count : Nat} {level : Nat → Path → Prop}
  (same : ∀ n p, level n p → p.count = n)
  (wide : ∀ n p link, level n p → link ∈ (stack.node p.node).links → level (n + 1) (p.over link))

include same wide

/-- Before the trees are passed nothing is recorded, and every way has gone one step further.  Ways
are therefore at the same level in each round. -/
theorem round_level {n : Nat} (low : n < count) {todo kept added : List Path}
    (here : ∀ p ∈ todo, level n p) (keptHere : ∀ p ∈ kept, level (n + 1) p)
    (addedHere : ∀ p ∈ added, level (n + 1) p) :
    (round (atCount count) stack todo () kept added []).2.2 = [] ∧
      ∀ p ∈ (round (atCount count) stack todo () kept added []).2.1, level (n + 1) p := by
  induction todo generalizing kept added with
  | nil =>
    refine ⟨rfl, fun p mem => ?_⟩
    rcases List.mem_append.mp mem with mem | mem
    · exact keptHere p (List.mem_reverse.mp mem)
    · exact addedHere p (List.mem_reverse.mp mem)
  | cons p todo ih =>
    -- No way of this level is long enough yet, so the visit takes nothing.
    have known := here p List.mem_cons_self
    have early : decide (p.count = count) = false :=
      decide_eq_false (by rw [same n p known]; exact Nat.ne_of_lt low)
    have rest := fun p mem => here p (List.mem_cons_of_mem _ mem)
    rw [round, atCount]
    dsimp only
    rw [early, if_neg Bool.false_ne_true]
    split
    · next link others _ links =>
      have inside : ∀ l ∈ link :: others, level (n + 1) (p.over l) := fun l mem =>
        wide n p l known (by rw [links]; exact mem)
      refine ih rest (fun q mem => ?_) (fun q mem => ?_)
      · rcases List.mem_cons.mp mem with rfl | mem
        · exact inside link List.mem_cons_self
        · exact keptHere q mem
      · rcases mem_branch_over mem with old | ⟨l, new, rfl⟩
        · exact addedHere q old
        · exact inside l (List.mem_cons_of_mem _ new)
    · exact ih rest keptHere addedHere

/-- A walk over a number of trees first finds where the way over the first links leads, if this can
go on until then.  By induction on the number of trees that are left; what holds of this way is a
parameter, `goes`, and each application says what it follows. -/
theorem walk_first_way (goes : Path → Prop)
    (step : ∀ n p link others, level n p → goes p → n < count →
      (stack.node p.node).links = link :: others → goes (p.over link))
    (linked : ∀ n p, level n p → n < count → (stack.node p.node).links ≠ [])
    {fuel n : Nat} {p : Path} (others : List Path) (here : level n p) (isFirst : goes p)
    (low : n ≤ count) (enough : count - n < fuel) (all : ∀ o ∈ others, level n o) :
    ∃ q, goes q ∧ level count q ∧
      (walk (atCount count) stack fuel () (p :: others) []).2.head?.map Popped.node = some q.node := by
  -- on the levels: the first way of one gives the first way of the next
  induction fuel generalizing n p others with
  | zero => omega
  | succ fuel ih =>
    rw [walk]
    · rcases Nat.lt_or_eq_of_le low with more | last
      · obtain ⟨nothing, next⟩ := round_level same wide more
          (List.forall_mem_cons.mpr ⟨here, all⟩) (List.forall_mem_nil _) (List.forall_mem_nil _)
        obtain ⟨link, links, atLinks⟩ := List.exists_cons_of_ne_nil (linked n p here more)
        have early : decide (p.count = count) = false :=
          decide_eq_false (by rw [same n p here]; exact Nat.ne_of_lt more)
        obtain ⟨later, begins⟩ : ∃ later, (round (atCount count) stack (p :: others) () [] [] []).2.1 =
            p.over link :: later := by
          rw [round, atCount]
          dsimp only
          rw [early, atLinks]
          obtain ⟨⟨later, first⟩, -⟩ := round_kept stack (atCount count) others ()
            [p.over link] (branch p links ([].length + 1 + others.length + [].length) []) []
          exact ⟨later, first⟩
        dsimp only
        rw [begins] at next ⊢
        rw [nothing]
        obtain ⟨nextHere, nextAll⟩ := List.forall_mem_cons.mp next
        exact ih later nextHere (step n p link links here isFirst more atLinks) more (by omega)
          nextAll
      · refine ⟨p, isFirst, last ▸ here, ?_⟩
        dsimp only
        refine walk_first _ _ _ _ _ ?_
        have late : decide (p.count = count) = true := decide_eq_true (by rw [same n p here, last])
        rw [round, atCount]
        dsimp only
        rw [late, if_pos rfl]
        exact (round_kept _ _ _ _ _ _ _).2 _ (record_first p.node p.trees [])
    · exact List.cons_ne_nil _ _

end First

end Stack

/-- The node right below a node, by its first link, lies no further in the text than a place.  This
is the measure by which a chain of reductions on one version is seen to descend. -/
def FirstLinkWithin (stack : Stack) (start bound : Nat) : Prop :=
  ∀ link others, (stack.node start).links = link :: others →
    (stack.node link.below).place.offset ≤ bound

/-- **The first way down** over some trees, if the start is not reached before.  There is one, it
does not lead behind where the first link leads, and it leads strictly before it, if a token with
some text was passed. -/
theorem Region.Holds.pop_first {R : Region} {stack : Stack} (holds : R.Holds stack)
    {start count : Nat} (live : LiveNode stack start)
    (deep : ∀ n < count, 1 ∉ R.base (stack.node start).state n) (few : count ≤ stack.size) :
    ∃ node, (stack.pop start count).head?.map Stack.Popped.node = some node ∧
      ∀ bound, FirstLinkWithin stack start bound → 0 < count →
        (stack.node node).place.offset ≤ bound ∧
        ((∀ q ∈ R.base (stack.node start).state 1, R.rising q) → 2 ≤ count →
          (stack.node node).place.offset < bound) := by
  let level (n : Nat) (p : Path) : Prop :=
    p.count = n ∧ Down R stack start p ∧ (p.trees = [] → p.node = start)
  let goes (p : Path) : Prop := ∀ bound, FirstLinkWithin stack start bound → 0 < p.count →
    (stack.node p.node).place.offset ≤ bound ∧
    ((∀ q ∈ R.base (stack.node start).state 1, R.rising q) → 2 ≤ p.count →
      (stack.node p.node).place.offset < bound)
  have first : goes ⟨start, [], 0⟩ := fun _ _ pos => absurd pos (Nat.lt_irrefl 0)
  have wide : ∀ n p link, level n p → link ∈ (stack.node p.node).links →
      level (n + 1) (p.over link) := by
    rintro n p link ⟨samePlace, down, begins⟩ mem
    obtain ⟨t, tree, neutral, -⟩ := ((holds _ down.live).links link mem).tree
    refine ⟨?_, down.over holds mem begins, ?_⟩
    · rw [Path.over_some tree, neutral.solid, ← samePlace]
      rfl
    · rw [Path.over_some tree]
      exact nofun
  have step : ∀ n p link others, level n p → goes p → n < count →
      (stack.node p.node).links = link :: others → goes (p.over link) := by
    rintro n p link others ⟨samePlace, down, begins⟩ isFirst more links bound low pos
    have mem : link ∈ (stack.node p.node).links := by
      rw [links]
      exact List.mem_cons_self
    have ok := (holds _ down.live).links link mem
    obtain ⟨t, tree, neutral, -⟩ := ok.tree
    rw [Path.over_some tree, neutral.solid, if_neg Bool.false_ne_true]
    dsimp only
    have count := down.count
    -- The first link is bounded by `FirstLinkWithin`; each further one goes down, strictly over a rising state.
    by_cases none : p.trees = []
    · rw [begins none] at links
      rw [none, List.length_nil] at count
      exact ⟨low link others links, fun _ many => by omega⟩
    · have counted : 0 < p.count := by
        rw [count]
        exact List.length_pos_iff.mpr none
      obtain ⟨before, strictly⟩ := isFirst bound low counted
      refine ⟨Nat.le_trans ok.order before, fun rising many => ?_⟩
      by_cases one : p.count = 1
      · have base := down.base
        rw [one] at base
        exact Nat.lt_of_lt_of_le (ok.rises (rising _ base)) before
      · exact Nat.lt_of_le_of_lt ok.order (strictly rising (by omega))
  have linked : ∀ n p, level n p → n < count → (stack.node p.node).links ≠ [] := by
    rintro n p ⟨samePlace, down, -⟩ more
    refine (holds _ down.live).linked fun isStart => deep n more ?_
    rw [← isStart, ← samePlace]
    exact down.base
  have start : level 0 ⟨start, [], 0⟩ := ⟨rfl, .start R live, fun _ => rfl⟩
  obtain ⟨q, isFirst, ⟨ends, -⟩, node⟩ := Stack.walk_first_way (fun n p known => known.1) wide goes
    step linked [] start first (Nat.zero_le _) (show count - 0 < stack.size + 1 by omega)
    (List.forall_mem_nil _)
  exact ⟨q.node, node, ends ▸ isFirst⟩

end Parse

end JsxDetect
