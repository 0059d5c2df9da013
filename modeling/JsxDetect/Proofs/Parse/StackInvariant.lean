import JsxDetect.Proofs.Parse.Ways
import JsxDetect.Proofs.Tree.Grounded

/-!
# The invariant of the stack

What holds of every link of the stack: its tree is well-formed, and it fits the certificate about
the states behind a tag.  Pushing and joining preserve this, whatever the parser does in between.

A second invariant is about errors.  What the parser skips lies below nodes in the state of an
error, and as long as it returns from there to earlier nodes only, a phrase is never completed
over it.  At the end of a text, however, the parser puts one more error on top of all that was
skipped and leaves that state.  Nothing is ever put on these last nodes, so this invariant is one
of the nodes that something may still be put on, and of those below them.

## Main Definitions

* `WayOver`: a tree between two states fits the certificate
* `LinkOk`, `StackOk`: the invariant of all links
* `Sound`, `SoundOver`, `SoundBelow`: the invariant of those below some nodes

## Main Results

* `StackOk.push`, `SoundOver.push`, `StackOk.addLink`: the ways to change a stack preserve both
* `StackOk.wayDown`, `SoundOver.reached`: what a way down passes

## Design Notes

**The stack is a graph.**  A node may have several links, and a node that two readings share has
links of both.  So nothing is said of the text below a node as a whole: the invariant is one of
single links, each of which knows the states at its two ends only.  That is enough because a
reduction, too, looks at nothing but the links that it goes down.

**What carries the certificate.**  `behindTag` gives a state the number of trees since the last tag
was begun, if this number is the same on all ways to the state.  `WayOver` asks each link to count
by one, and `wayDown` adds the links of a way up: after as many trees as the number of the state the
`<` itself has been passed.  No fact about the order in which the parser does things is used.

**Why soundness is relative.**  The last two nodes of a text that ends in an error break the rule
that an error is never left.  Nothing is pushed on them afterwards, so `SoundOver` takes the nodes
that are still in use as a parameter, and `SoundBelow` is the largest choice for one node.  An
induction over the parser can then forget a version the moment it has ended.
-/

namespace JsxDetect.Parse

open Automaton

/-- A tree between two states fits the numbers of trees behind a tag. -/
def WayOver (text : List Char) (below : StateId) (t : SyntaxTree) (above : StateId) : Prop :=
  ∀ depth, behindTag above = depth + 1 →
    t.extra = true ∧ below = above ∨
      t.extra = false ∧ t.symbol ≠ Symbol.error ∧
        (depth = 0 ∧ t.Tagged text ∨ 0 < depth ∧ behindTag below = depth)

/-- A state that is not behind a tag asks nothing of the trees that lead to it.  This is the case of
nearly all states. -/
theorem WayOver.of_eq_zero {text : List Char} {below above : StateId} {t : SyntaxTree}
    (none : behindTag above = 0) : WayOver text below t above := by
  intro depth behind
  rw [none] at behind
  cases behind

/-- A tree that may stand anywhere keeps the state, and so it keeps the number of trees behind the
tag as well: the depth is not counted up by comments. -/
theorem WayOver.of_same_extra {text : List Char} {below above : StateId} {t : SyntaxTree}
    (same : 0 < behindTag above → below = above) (extra : t.extra = true) :
    WayOver text below t above :=
  fun _ behind => .inl ⟨extra, same (by omega)⟩

/-- A way that the automaton knows is one over a tree of the symbol, if a tag is really there.  The
certificate gives the number, and only at the number one is the text looked at. -/
theorem WayOver.of_way {text : List Char} {below above : StateId} {t : SyntaxTree}
    (way : Way below t.symbol above) (extra : t.extra = false) (noError : t.symbol ≠ Symbol.error)
    (tagged : behindTag above = 1 → t.Tagged text) : WayOver text below t above := by
  intro depth behind
  refine .inr ⟨extra, noError, ?_⟩
  cases depth with
  | zero => exact .inl ⟨rfl, tagged behind⟩
  | succ depth => exact .inr ⟨Nat.succ_pos _, way.later depth behind⟩

namespace Stack

/-! ### Nodes -/

theorem node_push_of_lt {stack : Stack} {i : Nat} (n : StackNode) (inside : i < stack.size) :
    Stack.node (Array.push stack n) i = stack.node i := by
  simp only [node, Array.getD_eq_getD_getElem?]
  rw [Array.getElem?_push_lt inside, Array.getElem?_eq_getElem inside]

theorem node_push_size (stack : Stack) (n : StackNode) :
    Stack.node (Array.push stack n) stack.size = n := by
  simp [node, Array.getD_eq_getD_getElem?]

theorem node_setNode_of_ne {stack : Stack} {i index : Nat} (n : StackNode) (other : i ≠ index) :
    (stack.setNode index n).node i = stack.node i := by
  simp only [node, setNode, Array.getD_eq_getD_getElem?,
    Array.getElem?_setIfInBounds_ne (Ne.symm other)]

theorem node_setNode_self {stack : Stack} {index : Nat} (n : StackNode)
    (inside : index < stack.size) : (stack.setNode index n).node index = n := by
  simp [node, setNode, Array.getD_eq_getD_getElem?, inside]

theorem state_nodeOver (stack : Stack) (below : Nat) (tree : Option SyntaxTree)
    (state : StateId) : (stack.nodeOver below tree state).state = state := by
  cases tree <;> rfl

theorem links_nodeOver (stack : Stack) (below : Nat) (tree : Option SyntaxTree)
    (state : StateId) : (stack.nodeOver below tree state).links = [⟨below, tree⟩] := by
  cases tree <;> rfl

theorem Path.over_some {p : Path} {link : Link} {t : SyntaxTree} (tree : link.tree = some t) :
    p.over link = ⟨link.below, t :: p.trees, if t.extra then p.count else p.count + 1⟩ := by
  rw [Path.over, tree]

theorem Path.over_none {p : Path} {link : Link} (tree : link.tree = none) :
    p.over link = ⟨link.below, p.trees, p.count + 1⟩ := by
  rw [Path.over, tree]

/-- Two stacks with the same nodes, up to their links and what is counted. -/
structure SameShape (stack stack' : Stack) : Prop where
  size : stack'.size = stack.size
  state : ∀ i, (stack'.node i).state = (stack.node i).state
  place : ∀ i, (stack'.node i).place = (stack.node i).place

theorem SameShape.refl (stack : Stack) : SameShape stack stack := ⟨rfl, fun _ => rfl, fun _ => rfl⟩

theorem SameShape.trans {a b c : Stack} (first : SameShape a b) (second : SameShape b c) :
    SameShape a c :=
  ⟨second.size.trans first.size, fun i => (second.state i).trans (first.state i),
    fun i => (second.place i).trans (first.place i)⟩

/-- A node may be replaced by one in the same state at the same place, whatever links it has. -/
theorem SameShape.setNode {stack : Stack} {index : Nat} {n : StackNode}
    (state : n.state = (stack.node index).state) (place : n.place = (stack.node index).place) :
    SameShape stack (stack.setNode index n) := by
  have sizes : (stack.setNode index n).size = stack.size := Array.size_setIfInBounds ..
  by_cases inside : index < stack.size
  · refine ⟨sizes, fun i => ?_, fun i => ?_⟩
    all_goals
      by_cases same : i = index
      · subst same
        rw [node_setNode_self n inside]
        assumption
      · rw [node_setNode_of_ne n same]
  · have unchanged : stack.setNode index n = stack :=
      Array.setIfInBounds_eq_of_size_le (Nat.not_lt.mp inside)
    rw [unchanged]
    exact .refl stack

end Stack

open Stack

variable (text : List Char)

/-- What holds of a link of the node with the number `i`. -/
structure LinkOk (stack : Stack) (i : Nat) (link : Link) : Prop where
  inside : link.below < stack.size
  /-- Only an error begins without a tree. -/
  begins : link.tree = none → (stack.node i).state = 0
  wellFormed : ∀ t, link.tree = some t → t.WellFormed text
  /-- What may stand anywhere does not hide an error, wherever it stands. -/
  extra : ∀ t, link.tree = some t → t.extra = true → t.Proper
  way : ∀ t, link.tree = some t → WayOver text (stack.node link.below).state t (stack.node i).state

/-- The invariant of the stack. -/
structure StackOk (stack : Stack) : Prop where
  fresh : 0 < stack.size
  place : ∀ i, i < stack.size → (stack.node i).place.rest <:+ text
  links : ∀ i, i < stack.size → ∀ link ∈ (stack.node i).links, LinkOk text stack i link

/-- A link of a node that is in no error leads over a proper tree to another such node. -/
def Sound (stack : Stack) (i : Nat) (link : Link) : Prop :=
  (stack.node i).state ≠ 0 →
    (stack.node link.below).state ≠ 0 ∧ ∀ t, link.tree = some t → t.Proper

/-- The links of some nodes are sound, and lead to such nodes again. -/
structure SoundOver (live : Nat → Prop) (stack : Stack) : Prop where
  inside : ∀ i, live i → i < stack.size
  links : ∀ i, live i → ∀ link ∈ (stack.node i).links, live link.below ∧ Sound stack i link

/-- All links below a node are sound. -/
def SoundBelow (stack : Stack) (i : Nat) : Prop :=
  ∃ live : Nat → Prop, live i ∧ SoundOver live stack

/-- What a link that is added to a node has to be like, if the node is to keep both invariants. -/
structure LinkFits (live : Nat → Prop) (stack : Stack) (i : Nat) (link : Link) : Prop where
  ok : LinkOk text stack i link
  live : live link.below
  sound : Sound stack i link

variable {text}

/-- What holds of a link depends on the states of the two nodes alone, so it stays when others
change their links. -/
theorem LinkOk.of_sameShape {stack stack' : Stack} {i : Nat} {link : Link}
    (ok : LinkOk text stack i link) (shape : SameShape stack stack') :
    LinkOk text stack' i link where
  inside := by rw [shape.size]; exact ok.inside
  begins := by rw [shape.state]; exact ok.begins
  wellFormed := ok.wellFormed
  extra := ok.extra
  way := by rw [shape.state, shape.state]; exact ok.way

theorem Sound.of_sameShape {stack stack' : Stack} {i : Nat} {link : Link}
    (sound : Sound stack i link) (shape : SameShape stack stack') : Sound stack' i link := by
  rw [Sound, shape.state, shape.state]
  exact sound

/-- A link of a node suits every node in the same state: this is why the links of two nodes may be
collected on one of them when they are joined. -/
theorem LinkOk.of_joins {stack : Stack} {i j : Nat} {link : Link}
    (ok : LinkOk text stack i link) (state : (stack.node j).state = (stack.node i).state) :
    LinkOk text stack j link where
  inside := ok.inside
  begins := by rw [state]; exact ok.begins
  wellFormed := ok.wellFormed
  extra := ok.extra
  way := by rw [state]; exact ok.way

/-- Soundness of a link, too, is about the states of its two nodes, so a joined node may take it
over. -/
theorem Sound.of_joins {stack : Stack} {i j : Nat} {link : Link} (sound : Sound stack i link)
    (state : (stack.node j).state = (stack.node i).state) : Sound stack j link := by
  rw [Sound, state]
  exact sound

section

variable {live : Nat → Prop}

theorem LinkFits.of_sameShape {stack stack' : Stack} {i : Nat} {link : Link}
    (fits : LinkFits text live stack i link) (shape : SameShape stack stack') :
    LinkFits text live stack' i link :=
  ⟨fits.ok.of_sameShape shape, fits.live, fits.sound.of_sameShape shape⟩

/-- The nodes below which all links are sound are such nodes: each link of one leads to another one,
by the same set of live nodes. -/
theorem soundOver_soundBelow (stack : Stack) : SoundOver (SoundBelow stack) stack where
  inside := by
    rintro i ⟨live, here, sound⟩
    exact sound.inside i here
  links := by
    rintro i ⟨live, here, sound⟩ link mem
    obtain ⟨below, isSound⟩ := sound.links i here link mem
    exact ⟨⟨live, below, sound⟩, isSound⟩

end

theorem joins_iff {stack : Stack} {a b : Nat} (joins : stack.joins a b = true) :
    (stack.node a).state = (stack.node b).state ∧
      (stack.node a).place.offset = (stack.node b).place.offset := by
  rw [Stack.joins] at joins
  simp only [Bool.and_eq_true, beq_iff_eq] at joins
  exact joins.1

namespace StackOk

variable {stack : Stack} {live : Nat → Prop}

/-! ### Changing links -/

/-- The links of one node may be changed for others that fit, while all other nodes keep theirs.
Every way to change a stack without a new node is an instance of this. -/
theorem relink {stack' : Stack} (index : Nat) (ok : StackOk text stack)
    (sound : SoundOver live stack) (shape : SameShape stack stack')
    (others : ∀ i, i ≠ index → (stack'.node i).links = (stack.node i).links)
    (changed : ∀ link ∈ (stack'.node index).links, LinkFits text live stack index link) :
    StackOk text stack' ∧ SoundOver live stack' := by
  refine ⟨⟨?_, fun i inside => ?_, fun i inside link mem => ?_⟩,
    ⟨fun i here => ?_, fun i here link mem => ?_⟩⟩
  · rw [shape.size]
    exact ok.fresh
  · rw [shape.size] at inside
    rw [shape.place]
    exact ok.place i inside
  · rw [shape.size] at inside
    by_cases same : i = index
    · subst same
      exact (changed link mem).ok.of_sameShape shape
    · rw [others i same] at mem
      exact (ok.links i inside link mem).of_sameShape shape
  · rw [shape.size]
    exact sound.inside i here
  · by_cases same : i = index
    · subst same
      exact ⟨(changed link mem).live, (changed link mem).sound.of_sameShape shape⟩
    · rw [others i same] at mem
      obtain ⟨below, isSound⟩ := sound.links i here link mem
      exact ⟨below, isSound.of_sameShape shape⟩

/-- A node may be replaced by one with other links, in the same state and at the same place, if each
of them fits there. -/
theorem setNode {index : Nat} {n : StackNode} (ok : StackOk text stack)
    (sound : SoundOver live stack) (inside : index < stack.size)
    (state : n.state = (stack.node index).state) (place : n.place = (stack.node index).place)
    (changed : ∀ link ∈ n.links, LinkFits text live stack index link) :
    StackOk text (stack.setNode index n) ∧ SoundOver live (stack.setNode index n) := by
  refine ok.relink index sound (.setNode state place) (fun i other => ?_) ?_
  · rw [node_setNode_of_ne n other]
  · rw [node_setNode_self n inside]
    exact changed

/-- A link that leads to the same node as one that is there: where in the list that one stands. -/
theorem meet_sameNode {link old : Link} {position start : Nat} {links : List Link}
    (met : stack.meet link start links = .sameNode position old) :
    start ≤ position ∧ links[position - start]? = some old ∧ old.below = link.below := by
  induction links generalizing start with
  | nil => cases met
  | cons l links ih =>
    rw [meet] at met
    have later : stack.meet link (start + 1) links = .sameNode position old →
        start ≤ position ∧ (l :: links)[position - start]? = some old ∧
          old.below = link.below := by
      intro met
      obtain ⟨low, samePlace, below⟩ := ih met
      have shift : position - start = (position - (start + 1)) + 1 := by omega
      refine ⟨by omega, ?_, below⟩
      rw [shift, List.getElem?_cons_succ]
      exact samePlace
    split at met
    · split at met
      · next below =>
        cases met
        exact ⟨Nat.le_refl _, by rw [Nat.sub_self]; rfl, below⟩
      · split at met
        · cases met
        · exact later met
    · exact later met

/-- A link whose end may be joined with the end of one that is there: the two ends differ, and they
are in the same state at the same place. -/
theorem meet_joinable {link old : Link} {start : Nat} {links : List Link}
    (met : stack.meet link start links = .joinable old) :
    old ∈ links ∧ old.below ≠ link.below ∧ stack.joins old.below link.below = true := by
  induction links generalizing start with
  | nil => cases met
  | cons l links ih =>
    rw [meet] at met
    have later : stack.meet link (start + 1) links = .joinable old →
        old ∈ l :: links ∧ old.below ≠ link.below ∧
          stack.joins old.below link.below = true := fun met =>
      ⟨List.mem_cons_of_mem _ (ih met).1, (ih met).2⟩
    split at met
    · split at met
      · cases met
      · next other =>
        split at met
        · next joins =>
          cases met
          exact ⟨List.mem_cons_self, other, joins⟩
        · exact later met
    · exact later met

/-- Adding several links one after the other, if adding one is known to preserve the invariants.
The hypothesis `one` is what the induction on the fuel gives for the links further down. -/
theorem foldl_links (add : Stack → Nat → Link → Stack) {index : Nat}
    (one : ∀ {s : Stack} {link : Link}, StackOk text s → SoundOver live s →
      LinkFits text live s index link →
      (StackOk text (add s index link) ∧ SoundOver live (add s index link)) ∧
        SameShape s (add s index link))
    {links : List Link} (ok : StackOk text stack) (sound : SoundOver live stack)
    (all : ∀ link ∈ links, LinkFits text live stack index link) :
    (StackOk text (links.foldl (fun s l => add s index l) stack) ∧
      SoundOver live (links.foldl (fun s l => add s index l) stack)) ∧
      SameShape stack (links.foldl (fun s l => add s index l) stack) := by
  induction links generalizing stack with
  | nil => exact ⟨⟨ok, sound⟩, .refl _⟩
  | cons link links ih =>
    obtain ⟨⟨ok', sound'⟩, shape⟩ := one ok sound (all link List.mem_cons_self)
    obtain ⟨kept, shape'⟩ := ih ok' sound' fun l mem =>
      (all l (List.mem_cons_of_mem _ mem)).of_sameShape shape
    exact ⟨kept, shape.trans shape'⟩

/-- **Adding a link** to a node below which all is sound preserves the invariants.  The induction is
on the fuel, as the links of a joined node are in turn added to the node that it is joined to. -/
theorem addLink (ok : StackOk text stack) (sound : SoundOver live stack) (fuel : Nat)
    {index : Nat} {link : Link} (here : live index) (fits : LinkFits text live stack index link) :
    (StackOk text (stack.addLink fuel index link) ∧
      SoundOver live (stack.addLink fuel index link)) ∧
      SameShape stack (stack.addLink fuel index link) := by
  -- on the fuel: joining two nodes adds the links of the one to the other, further down
  induction fuel generalizing stack index link with
  | zero => exact ⟨⟨ok, sound⟩, .refl _⟩
  | succ fuel ih =>
    have same : (StackOk text stack ∧ SoundOver live stack) ∧ SameShape stack stack :=
      ⟨⟨ok, sound⟩, .refl _⟩
    have inside := sound.inside index here
    have known {s : Stack} (ok : StackOk text s) (sound : SoundOver live s) :
        ∀ l ∈ (s.node index).links, LinkFits text live s index l := fun l mem =>
      ⟨ok.links index (sound.inside index here) l mem, (sound.links index here l mem).1,
        (sound.links index here l mem).2⟩
    rw [Stack.addLink]
    split
    · exact same
    · dsimp only
      split
      · next position old met =>
        obtain ⟨-, samePlace, below⟩ := meet_sameNode met
        split
        · next t o tree oldTree =>
          split
          · have new : (⟨old.below, some t⟩ : Link) = link := by
              cases link
              simp only at below tree
              rw [below, tree]
            rw [new]
            refine ⟨ok.setNode sound inside rfl rfl fun l mem => ?_, .setNode rfl rfl⟩
            rcases List.mem_or_eq_of_mem_set mem with old | rfl
            · exact known ok sound l old
            · exact fits
          · exact same
        · exact same
      · next old met =>
        obtain ⟨mem, other, joins⟩ := meet_joinable met
        have state := (joins_iff joins).1
        have oldFits := known ok sound old mem
        -- the links of the new node below suit the old one: it is in the same state
        have lower : ∀ l ∈ (stack.node link.below).links,
            LinkFits text live stack old.below l := by
          intro l mem
          obtain ⟨below, isSound⟩ := sound.links link.below fits.live l mem
          exact ⟨(ok.links link.below fits.ok.inside l mem).of_joins state, below,
            isSound.of_joins state⟩
        obtain ⟨⟨joinedOk, joinedSound⟩, shape⟩ := foldl_links (Stack.addLink fuel)
          (fun ok sound fits => ih ok sound oldFits.live fits) ok sound lower
        split
        · have inside' : index < (((stack.node link.below).links.foldl
              (fun s l => s.addLink fuel old.below l) stack)).size := by
            rw [shape.size]
            exact inside
          exact ⟨joinedOk.setNode joinedSound inside' rfl rfl (known joinedOk joinedSound),
            shape.trans (.setNode rfl rfl)⟩
        · exact ⟨⟨joinedOk, joinedSound⟩, shape⟩
      · split
        · exact same
        · refine ⟨ok.setNode sound inside rfl rfl fun l mem => ?_, .setNode rfl rfl⟩
          rcases List.mem_append.mp mem with old | new
          · exact known ok sound l old
          · rw [List.mem_singleton.mp new]
            exact fits

/-! ### Pushing -/

/-- **A tree that is pushed** on a node of the stack keeps the invariant, if it is well-formed and
the way over it fits.  Without a tree the new node is the beginning of an error. -/
theorem push (ok : StackOk text stack) {below : Nat} {tree : Option SyntaxTree} {state : StateId}
    (inside : below < stack.size) (begins : tree = none → state = 0)
    (wellFormed : ∀ t, tree = some t → t.WellFormed text)
    (extra : ∀ t, tree = some t → t.extra = true → t.Proper)
    (way : ∀ t, tree = some t → WayOver text (stack.node below).state t state) :
    StackOk text (Array.push stack (stack.nodeOver below tree state)) := by
  have old : ∀ {i}, i < stack.size →
      Stack.node (Array.push stack (stack.nodeOver below tree state)) i = stack.node i :=
    fun inside => node_push_of_lt _ inside
  have top : Stack.node (Array.push stack (stack.nodeOver below tree state)) stack.size =
      stack.nodeOver below tree state := node_push_size stack _
  have size : (Array.push stack (stack.nodeOver below tree state)).size = stack.size + 1 :=
    Array.size_push ..
  have lift : ∀ {i link}, i < stack.size → LinkOk text stack i link →
      LinkOk text (Array.push stack (stack.nodeOver below tree state)) i link := by
    intro i link inside linkOk
    refine ⟨by rw [size]; exact Nat.lt_succ_of_lt linkOk.inside, ?_, linkOk.wellFormed, linkOk.extra, ?_⟩
    · rw [old inside]
      exact linkOk.begins
    · rw [old inside, old linkOk.inside]
      exact linkOk.way
  refine ⟨?_, fun i inside' => ?_, fun i inside' link mem => ?_⟩
  · rw [size]
    exact Nat.succ_pos _
  · rw [size] at inside'
    rcases Nat.lt_succ_iff_lt_or_eq.mp inside' with lower | rfl
    · rw [old lower]
      exact ok.place i lower
    · rw [top]
      cases tree with
      | none => exact ok.place below inside
      | some t => exact (wellFormed t rfl).closed.here.stop
  · rw [size] at inside'
    rcases Nat.lt_succ_iff_lt_or_eq.mp inside' with lower | rfl
    · rw [old lower] at mem
      exact lift lower (ok.links i lower link mem)
    · rw [top, links_nodeOver] at mem
      obtain rfl := List.mem_singleton.mp mem
      refine ⟨by rw [size]; exact Nat.lt_succ_of_lt inside, fun none => ?_, wellFormed, extra,
        fun t same => ?_⟩
      · rw [top, state_nodeOver]
        exact begins none
      · rw [top, state_nodeOver, old inside]
        exact way t same

/-! ### Ways down -/

/-- What a way down from a node passes. -/
structure WayDown (text : List Char) (stack : Stack) (start : Nat) (p : Path) : Prop where
  inside : p.node < stack.size
  wellFormed : ∀ t ∈ p.trees, t.WellFormed text
  extra : ∀ t ∈ p.trees, t.extra = true → t.Proper
  /-- The numbers of the states go down with each tree, -/
  before : p.count < behindTag (stack.node start).state →
    behindTag (stack.node p.node).state + p.count = behindTag (stack.node start).state
  /-- until the tag is passed. -/
  behind : 0 < behindTag (stack.node start).state →
    behindTag (stack.node start).state ≤ p.count → ∃ t ∈ p.trees, t.extra = false ∧ t.Tagged text

/-- A way down over one more link: the numbers behind a tag go down by one for each tree that
counts, and at zero the tree was the `<` of the tag. -/
theorem wayDown_over (ok : StackOk text stack) {start : Nat} {p : Path} {link : Link}
    (way : WayDown text stack start p) (mem : link ∈ (stack.node p.node).links) :
    WayDown text stack start (p.over link) := by
  have linkOk := ok.links p.node way.inside link mem
  cases tree : link.tree with
  | none =>
    -- the state of an error lies behind no tag
    have zero : behindTag (stack.node p.node).state = 0 := by
      rw [linkOk.begins tree]
      decide
    rw [Path.over_none tree]
    refine ⟨linkOk.inside, way.wellFormed, way.extra, fun less => ?_, fun pos behind => ?_⟩
    · have before := way.before (Nat.lt_of_succ_lt less)
      rw [zero] at before
      dsimp only at less
      omega
    · by_cases passed : behindTag (stack.node start).state ≤ p.count
      · exact way.behind pos passed
      · have before := way.before (Nat.not_le.mp passed)
        rw [zero] at before
        omega
  | some t =>
    have wayOver := linkOk.way t tree
    rw [Path.over_some tree]
    refine ⟨linkOk.inside, ?_, ?_, fun less => ?_, fun pos behind => ?_⟩
    · intro u mem
      rcases List.mem_cons.mp mem with rfl | earlier
      · exact linkOk.wellFormed u tree
      · exact way.wellFormed u earlier
    · intro u mem
      rcases List.mem_cons.mp mem with rfl | earlier
      · exact linkOk.extra u tree
      · exact way.extra u earlier
    -- in front of the tag: a tree that may not stand anywhere lowers the number by one
    · dsimp only at less ⊢
      split at less
      · next extra =>
        have before := way.before less
        have here : behindTag (stack.node p.node).state =
            behindTag (stack.node p.node).state - 1 + 1 := by omega
        rcases wayOver _ here with ⟨-, same⟩ | ⟨notExtra, -⟩
        · rw [if_pos extra, same]
          exact before
        · rw [notExtra] at extra
          cases extra
      · next notExtra =>
        have before := way.before (Nat.lt_of_succ_lt less)
        have here : behindTag (stack.node p.node).state =
            behindTag (stack.node p.node).state - 1 + 1 := by omega
        rw [if_neg notExtra]
        rcases wayOver _ here with ⟨extra, -⟩ | ⟨-, -, ⟨zero, -⟩ | ⟨-, lower⟩⟩
        · exact absurd extra notExtra
        · omega
        · omega
    -- behind it: the tag was passed before, or is this tree
    · dsimp only at behind
      split at behind
      · obtain ⟨u, inside, tagged⟩ := way.behind pos behind
        exact ⟨u, List.mem_cons_of_mem _ inside, tagged⟩
      · next notExtra =>
        by_cases passed : behindTag (stack.node start).state ≤ p.count
        · obtain ⟨u, inside, tagged⟩ := way.behind pos passed
          exact ⟨u, List.mem_cons_of_mem _ inside, tagged⟩
        · have before := way.before (Nat.not_le.mp passed)
          have here : behindTag (stack.node p.node).state = 0 + 1 := by omega
          rcases wayOver 0 here with ⟨extra, -⟩ | ⟨extra, -, ⟨-, tagged⟩ | ⟨pos, -⟩⟩
          · exact absurd extra notExtra
          · exact ⟨t, List.mem_cons_self, extra, tagged⟩
          · exact absurd pos (Nat.lt_irrefl 0)

/-- **A way down from a node**, over whatever links.  Which links the search follows is left open:
this holds of every way that there is. -/
theorem wayDown (ok : StackOk text stack) {stays : Path → Prop} {start : Nat} {p : Path}
    (inside : start < stack.size) (reached : Reached stack stays ⟨start, [], 0⟩ p) :
    WayDown text stack start p := by
  induction reached with
  | start =>
    refine ⟨inside, by simp, by simp, fun _ => rfl, fun pos behind => ?_⟩
    dsimp only at behind
    omega
  | above before stay mem ih => exact ok.wayDown_over ih mem

end StackOk

/-! ### Below what may still grow -/

namespace SoundOver

variable {stack : Stack} {live : Nat → Prop}

/-- A new node changes nothing about what lies below the others: links lead to older nodes only. -/
theorem grow (sound : SoundOver live stack) (n : StackNode) :
    SoundOver live (Array.push stack n) where
  inside i here := by
    rw [Array.size_push]
    exact Nat.lt_succ_of_lt (sound.inside i here)
  links i here link mem := by
    rw [node_push_of_lt n (sound.inside i here)] at mem
    obtain ⟨below, isSound⟩ := sound.links i here link mem
    refine ⟨below, ?_⟩
    rw [Sound, node_push_of_lt n (sound.inside i here), node_push_of_lt n (sound.inside _ below)]
    exact isSound

/-- **A tree that is pushed** on such a node, and is sound itself, gives another one.  The new node
joins those that are live, and the old ones stay. -/
theorem push (sound : SoundOver live stack) {below : Nat} {tree : Option SyntaxTree}
    {state : StateId} (here : live below) (isSound : state ≠ 0 →
      (stack.node below).state ≠ 0 ∧ ∀ t, tree = some t → t.Proper) :
    SoundOver (fun i => i = stack.size ∨ live i)
      (Array.push stack (stack.nodeOver below tree state)) := by
  have grown := sound.grow (stack.nodeOver below tree state)
  refine ⟨fun i new => ?_, fun i new link mem => ?_⟩
  · rcases new with rfl | old
    · rw [Array.size_push]
      exact Nat.lt_succ_self _
    · exact grown.inside i old
  · rcases new with rfl | old
    · rw [node_push_size, links_nodeOver] at mem
      obtain rfl := List.mem_singleton.mp mem
      refine ⟨.inr here, ?_⟩
      rw [Sound, node_push_size, state_nodeOver, node_push_of_lt _ (sound.inside _ here)]
      exact isSound
    · obtain ⟨below', isSound'⟩ := grown.links i old link mem
      exact ⟨.inr below', isSound'⟩

/-- **A way down** from such a node leads to one, and a way down from one that is in no error leads
to no error and passes proper trees only. -/
theorem reached (sound : SoundOver live stack) {stays : Path → Prop} {start : Nat} {p : Path}
    (here : live start) (reached : Reached stack stays ⟨start, [], 0⟩ p) :
    live p.node ∧ ((stack.node start).state ≠ 0 →
      (stack.node p.node).state ≠ 0 ∧ ∀ t ∈ p.trees, t.Proper) := by
  induction reached with
  | start => exact ⟨here, fun noError => ⟨noError, by simp⟩⟩
  | @above p link before stay mem ih =>
    obtain ⟨live', proper⟩ := ih
    obtain ⟨below, isSound⟩ := sound.links p.node live' link mem
    cases tree : link.tree with
    | none =>
      rw [Path.over_none tree]
      exact ⟨below, fun noError => ⟨(isSound (proper noError).1).1, (proper noError).2⟩⟩
    | some t =>
      rw [Path.over_some tree]
      refine ⟨below, fun noError => ⟨(isSound (proper noError).1).1, fun u mem => ?_⟩⟩
      rcases List.mem_cons.mp mem with rfl | earlier
      · exact (isSound (proper noError).1).2 u tree
      · exact (proper noError).2 u earlier

end SoundOver

end JsxDetect.Parse
