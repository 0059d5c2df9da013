import JsxDetect.Parse.Parser
import JsxDetect.Proofs.Parse.ReductionInvariant

/-!
# Stacks with one way down

While the text leaves one reading open, or several that share nothing but the nodes they came
from, one way leads down from each version.  Such a stack is a `Pile` of frames, and a reduction
takes the topmost frames off and puts one in their place.

## Main Definitions

* `Frame`, `Pile`: a stack with one way down
* `Progress.moveTo`: a version goes on from a node with one more tree on top

## Main Results

* `Pile.pop`, `Pile.walk_bottom`: the way down
* `consume_reduce`, `consume_shift`: one action on a pile

## Design Notes

**Why a special case.**  The invariants of the stack are about all ways down, and they bound what
the parser may answer.  To show that it does answer, one has to follow it, and then the number of
ways matters: a reduction over two ways may give two versions, or one with the better tree.  A
`Pile` says that there is one way, and on it each step of the parser is an equation.

**What a step needs from the other versions.**  A new version is joined to one in the same state at
the same place, if there is one.  `Apart` rules this out for one state and one place, which is all
that the next step needs; it says nothing of what the other versions are.

**Equations of the whole state.**  `moveTo` writes down the state after a step in full, so that the
steps of a turn can be rewritten one after the other, with no invariant carried along.
-/

namespace JsxDetect.Parse

open Automaton Stack

/-- A tree on a stack, with the state behind it. -/
structure Frame where
  state : StateId
  tree : SyntaxTree

/-- The state on top of some frames. -/
def topState : List Frame → StateId
  | [] => 1
  | f :: _ => f.state

/-- One way leads down from a node: over some frames, the topmost first, to the beginning. -/
inductive Pile (text : List Char) (stack : Stack) : Nat → List Frame → Prop
  | bottom {i : Nat} (inside : i < stack.size)
      (node : stack.node i = ⟨1, Cursor.ofText text, [], 0, 0, 0⟩) : Pile text stack i []
  | above {i below : Nat} {f : Frame} {fs : List Frame} (inside : i < stack.size)
      (lower : below < i) (node : stack.node i = stack.nodeOver below (some f.tree) f.state)
      (solid : f.tree.extra = false) (rest : Pile text stack below fs) :
      Pile text stack i (f :: fs)

/-- A stack has the nodes of another one, and perhaps more. -/
structure Prolongs (stack stack' : Stack) : Prop where
  size : stack.size ≤ stack'.size
  node : ∀ i, i < stack.size → stack'.node i = stack.node i

theorem Prolongs.refl (stack : Stack) : Prolongs stack stack := ⟨Nat.le_refl _, fun _ _ => rfl⟩

theorem Prolongs.trans {a b c : Stack} (one : Prolongs a b) (two : Prolongs b c) : Prolongs a c :=
  ⟨Nat.le_trans one.size two.size,
    fun i inside => (two.node i (Nat.lt_of_lt_of_le inside one.size)).trans (one.node i inside)⟩

theorem Prolongs.push (stack : Stack) (n : StackNode) : Prolongs stack (Array.push stack n) :=
  ⟨by rw [Array.size_push]; exact Nat.le_succ _, fun _ inside => node_push_of_lt n inside⟩

/-- A new node over an old one is the same on the longer stack: it depends on the node below alone.
-/
theorem Prolongs.nodeOver {stack stack' : Stack} (prolongs : Prolongs stack stack') {below : Nat}
    (inside : below < stack.size) (tree : Option SyntaxTree) (state : StateId) :
    stack'.nodeOver below tree state = stack.nodeOver below tree state := by
  cases tree <;> rw [Stack.nodeOver, Stack.nodeOver, prolongs.node below inside]

namespace Pile

variable {text : List Char} {stack stack' : Stack} {i : Nat} {f : Frame} {fs : List Frame}

theorem inside (pile : Pile text stack i fs) : i < stack.size := by
  cases pile with
  | bottom inside => exact inside
  | above inside => exact inside

theorem state (pile : Pile text stack i fs) : (stack.node i).state = topState fs := by
  cases pile with
  | bottom inside node => rw [node]; rfl
  | above inside lower node => rw [node]; rfl

/-- A pile stays when nodes are added to the stack: its frames are told by the old nodes. -/
theorem prolong (pile : Pile text stack i fs) (prolongs : Prolongs stack stack') :
    Pile text stack' i fs := by
  induction pile with
  | bottom inside node =>
    exact .bottom (Nat.lt_of_lt_of_le inside prolongs.size)
      ((prolongs.node _ inside).trans node)
  | above inside lower node solid rest ih =>
    refine .above (Nat.lt_of_lt_of_le inside prolongs.size) lower ?_ solid ih
    rw [prolongs.node _ inside, node, prolongs.nodeOver rest.inside]

/-- A tree pushed on a pile is its new topmost frame. -/
theorem push {tree : SyntaxTree} (pile : Pile text stack i fs) (solid : tree.extra = false)
    (state : StateId) :
    Pile text (Array.push stack (stack.nodeOver i (some tree) state)) stack.size
      (⟨state, tree⟩ :: fs) := by
  have prolongs := Prolongs.push stack (stack.nodeOver i (some tree) state)
  refine .above (by rw [Array.size_push]; exact Nat.lt_succ_self _) pile.inside ?_ solid
    (pile.prolong prolongs)
  rw [node_push_size, prolongs.nodeOver pile.inside]

theorem place (pile : Pile text stack i (f :: fs)) : (stack.node i).place = f.tree.label.stop := by
  cases pile with
  | above inside lower node => rw [node]; rfl

/-! ### The way down -/

theorem links (pile : Pile text stack i (f :: fs)) :
    ∃ below, (stack.node i).links = [⟨below, some f.tree⟩] ∧ f.tree.extra = false ∧ below < i ∧
      Pile text stack below fs := by
  cases pile with
  | @above i below f fs inside lower node solid rest =>
    exact ⟨below, by rw [node]; rfl, solid, lower, rest⟩

/-- A pile has no more frames than there are nodes below it, which bounds the fuel of a walk down.
-/
theorem length_le (pile : Pile text stack i fs) : fs.length ≤ i := by
  induction pile with
  | bottom => exact Nat.zero_le _
  | above inside lower node solid rest ih => exact Nat.lt_of_le_of_lt ih lower

/-- One step of a walk that follows a single way and stays: it goes on over the link, with nothing
recorded. -/
theorem walk_stay {σ : Type} {visit : σ → Path → σ × Visit} {s t : σ} {p : Path}
    (stays : visit s p = (t, ⟨false, false⟩)) {link : Link}
    (links : (stack.node p.node).links = [link]) (fuel : Nat) (popped : List Popped) :
    stack.walk visit (fuel + 1) s [p] popped = stack.walk visit fuel t [p.over link] popped := by
  rw [walk, Stack.round, stays]
  · dsimp only
    rw [links]
    rfl
  · exact List.cons_ne_nil _ _

/-- The last step of such a walk: the way is recorded, and there is nothing else to follow. -/
theorem walk_take {σ : Type} {visit : σ → Path → σ × Visit} {s t : σ} {p : Path} (leave : Bool)
    (takes : visit s p = (t, ⟨true, leave⟩))
    (ends : leave = true ∨ (stack.node p.node).links = []) (fuel : Nat) :
    stack.walk visit (fuel + 1) s [p] [] = (t, [⟨p.node, [p.trees]⟩]) := by
  rw [walk, Stack.round, takes]
  · rcases ends with rfl | noLinks
    · cases fuel <;> rfl
    · dsimp only
      rw [noLinks]
      cases leave <;> cases fuel <;> rfl
  · exact List.cons_ne_nil _ _

/-- The way down over some frames, with some trees passed before.  The induction is on the frames.
-/
theorem walk_pop {base : List Frame} {count : Nat} (pile : Pile text stack i (fs ++ base))
    {passed : Nat} (length : passed + fs.length = count) {fuel : Nat} (enough : fs.length < fuel)
    (trees : List SyntaxTree) :
    ∃ below, Pile text stack below base ∧
      stack.walk (fun (_ : Unit) p => ((), ⟨p.count = count, p.count = count⟩)) fuel ()
        [⟨i, trees, passed⟩] [] = ((), [⟨below, [(fs.map Frame.tree).reverse ++ trees]⟩]) := by
  induction fs generalizing i trees passed fuel with
  | nil =>
    obtain ⟨fuel, rfl⟩ : ∃ n, fuel = n + 1 := ⟨fuel - 1, by omega⟩
    refine ⟨i, pile, ?_⟩
    rw [walk_take (t := ()) true _ (.inl rfl)]
    · rfl
    · have here : passed = count := length
      simp only [here, decide_true]
  | cons f fs ih =>
    rw [List.length_cons] at length enough
    obtain ⟨fuel, rfl⟩ : ∃ n, fuel = n + 1 := ⟨fuel - 1, by omega⟩
    obtain ⟨next, links, solid, -, rest⟩ := pile.links
    obtain ⟨below, pileBelow, walked⟩ := ih rest
      (show passed + 1 + fs.length = count by omega) (show fs.length < fuel by omega)
      (f.tree :: trees)
    refine ⟨below, pileBelow, ?_⟩
    rw [walk_stay (t := ()) _ links, Path.over_some rfl, solid]
    · rw [if_neg Bool.false_ne_true, walked, List.map_cons, List.reverse_cons,
        List.append_assoc]
      rfl
    · have before : passed ≠ count := by omega
      simp only [before, decide_false]

/-- **The way down over some frames.**  It is the only one, so that popping gives one place with one
list of trees, the topmost last. -/
theorem pop {base : List Frame} {count : Nat} (pile : Pile text stack i (fs ++ base))
    (length : fs.length = count) :
    ∃ below, Pile text stack below base ∧
      stack.pop i count = [⟨below, [(fs.map Frame.tree).reverse]⟩] := by
  have enough : fs.length < stack.size + 1 := by
    have depth := pile.length_le
    have inside := pile.inside
    rw [List.length_append] at depth
    omega
  obtain ⟨below, pileBelow, walked⟩ := pile.walk_pop
    ((Nat.zero_add _).trans length) enough []
  refine ⟨below, pileBelow, ?_⟩
  rw [Stack.pop, walked, List.append_nil]

/-- The way down to the beginning, with some trees passed before.  The last node has no links. -/
theorem walk_bottom (pile : Pile text stack i fs) {fuel : Nat} (enough : fs.length < fuel)
    (trees : List SyntaxTree) (passed : Nat) :
    ∃ below, stack.walk
      (fun (_ : Unit) p => ((), ⟨(stack.node p.node).links.isEmpty, false⟩)) fuel ()
        [⟨i, trees, passed⟩] [] = ((), [⟨below, [(fs.map Frame.tree).reverse ++ trees]⟩]) := by
  induction fs generalizing i trees passed fuel with
  | nil =>
    obtain ⟨fuel, rfl⟩ : ∃ n, fuel = n + 1 := ⟨fuel - 1, by omega⟩
    refine ⟨i, ?_⟩
    have noLinks : (stack.node i).links = [] := by
      cases pile with
      | bottom inside node => rw [node]
    rw [walk_take (t := ()) false _ (.inr noLinks)]
    · rfl
    · rw [noLinks]
      rfl
  | cons f fs ih =>
    rw [List.length_cons] at enough
    obtain ⟨fuel, rfl⟩ : ∃ n, fuel = n + 1 := ⟨fuel - 1, by omega⟩
    obtain ⟨next, links, solid, -, rest⟩ := pile.links
    obtain ⟨below, walked⟩ := ih rest (show fs.length < fuel by omega) (f.tree :: trees)
      (passed + 1)
    refine ⟨below, ?_⟩
    rw [walk_stay (t := ()) _ links, Path.over_some rfl, solid]
    · rw [if_neg Bool.false_ne_true, walked, List.map_cons, List.reverse_cons, List.append_assoc]
      rfl
    · rw [links]
      rfl

end Pile

/-! ### Moving a version -/

namespace Progress

/-- Version `v` goes on from a node with one more tree on top. -/
def moveTo (p : Progress) (v below : Nat) (tree : SyntaxTree) (state : StateId) : Progress :=
  ⟨Array.push p.stack (p.stack.nodeOver below (some tree) state),
    p.versions.set v { p.version v with node := p.stack.size }, p.finished, p.accepted⟩

/-- No version but `v` goes on from a state at a place. -/
def Apart (p : Progress) (v : Nat) (state : StateId) (place : Cursor) : Prop :=
  ∀ w < p.versions.length, w ≠ v → (p.version w).node < p.stack.size ∧
    (p.Active w → p.state w = state → (p.top w).place.offset ≠ place.offset)

theorem apart_of_alone {p : Progress} (alone : p.versions.length = 1) (state : StateId)
    (place : Cursor) : p.Apart 0 state place :=
  fun w inside other => absurd (by omega) other

/-- A version is joined to none of some others, if it cannot be joined to any of them. -/
theorem mergeInto_eq_none {p : Progress} {w : Nat} {vs : List Nat}
    (apart : ∀ v ∈ vs, p.canMerge v w = false) : p.mergeInto w vs = none := by
  induction vs with
  | nil => rfl
  | cons v vs ih =>
    have none : p.merge v w = none := by
      rw [merge, if_neg]
      rw [apart v List.mem_cons_self]
      exact Bool.false_ne_true
    rw [mergeInto, none]
    exact ih fun u mem => apart u (List.mem_cons_of_mem _ mem)

end Progress

/-! ### Reductions -/

/-- Nothing is split off where no tree may stand anywhere. -/
theorem splitExtras_of_solid {trees : List SyntaxTree} (solid : ∀ t ∈ trees, t.extra = false) :
    SyntaxTree.splitExtras trees = (trees, []) := by
  have stays : trees.reverse.takeWhile SyntaxTree.extra = [] := by
    cases reversed : trees.reverse with
    | nil => rfl
    | cons t ts =>
      have mem : t ∈ trees := List.mem_reverse.mp (reversed ▸ List.mem_cons_self)
      rw [List.takeWhile_cons, solid t mem]
      rfl
  have whole := List.takeWhile_append_dropWhile (p := SyntaxTree.extra) (l := trees.reverse)
  rw [stays, List.nil_append] at whole
  rw [SyntaxTree.splitExtras, stays, whole, List.reverse_reverse]
  rfl

/-- The trees of a pile are none of those that may stand anywhere. -/
theorem Pile.solid {text : List Char} {stack : Stack} {i : Nat} {fs : List Frame}
    (pile : Pile text stack i fs) : ∀ f ∈ fs, f.tree.extra = false := by
  induction pile with
  | bottom => exact fun f mem => absurd mem List.not_mem_nil
  | above inside lower node solid rest ih =>
    intro f mem
    rcases List.mem_cons.mp mem with rfl | later
    · exact solid
    · exact ih f later

/-- The phrase over the trees of some frames. -/
def groupOf (symbol : Symbol) (bonus : Int) (cursor : Cursor) (fs : List Frame) : SyntaxTree :=
  (SyntaxTree.ofChildren symbol cursor (fs.map Frame.tree).reverse).addBonus bonus

/-- A phrase over some frames ends where the topmost of them does, so that it takes no place in the
text of its own. -/
theorem groupOf_stop {symbol : Symbol} {bonus : Int} {cursor : Cursor} {fs : List Frame}
    (stop : ∀ f, fs.head? = some f → f.tree.label.stop = cursor) :
    (groupOf symbol bonus cursor fs).label.stop = cursor := by
  rw [groupOf, (SyntaxTree.similar_addBonus _ bonus).stop]
  cases fs with
  | nil => rfl
  | cons f fs =>
    rw [SyntaxTree.stop_ofChildren (show _ = some f.tree by
      rw [List.map_cons, List.reverse_cons, List.getLast?_append]
      rfl)]
    exact stop f rfl

variable {text : List Char} {p : Progress} {v : Nat}

/-- The topmost frame ends where the version is. -/
theorem Pile.top_stop {fs base : List Frame}
    (pile : Pile text p.stack (p.version v).node (fs ++ base)) :
    ∀ f, fs.head? = some f → f.tree.label.stop = (p.top v).place := by
  intro f head
  cases fs with
  | nil => cases head
  | cons g fs =>
    cases head
    exact pile.place.symm

/-- A version cannot be joined to a new one in another state or at another place. -/
theorem canMerge_eq_false {w below : Nat} {tree : SyntaxTree} {state : StateId} {new : Version}
    (early : w < p.versions.length) (inside : (p.version w).node < p.stack.size)
    (away : p.Active w → p.state w = state →
      (p.top w).place.offset ≠ tree.label.stop.offset) (node : new.node = p.stack.size) :
    (⟨Array.push p.stack (p.stack.nodeOver below (some tree) state), p.versions ++ [new],
      p.finished, p.accepted⟩ : Progress).canMerge w p.versions.length = false := by
  rw [Progress.canMerge, Progress.version_append_of_lt early, Progress.version_append_self, node,
    ← Bool.not_eq_true]
  intro holds
  rw [Bool.and_eq_true, Bool.and_eq_true] at holds
  obtain ⟨⟨active, -⟩, met⟩ := holds
  obtain ⟨state, place⟩ := joins_iff met
  change (Stack.node (Array.push p.stack _) (p.version w).node).state = _ at state
  change (Stack.node (Array.push p.stack _) (p.version w).node).place.offset = _ at place
  rw [node_push_of_lt _ inside, node_push_size] at state place
  exact away active state place

/-- **A reduction with one way down** gives one new version, and nothing to join it to.  With piles
there is always one way, so this is the only case that is needed. -/
theorem reduce_of_pop (few : p.versions.length ≤ maxVersions + versionOverflow) {count below : Nat}
    {trees : List SyntaxTree}
    (popped : p.stack.pop (p.version v).node count = [⟨below, [trees]⟩])
    (solid : ∀ t ∈ trees, t.extra = false) {symbol : Symbol} {bonus : Int} {tree : SyntaxTree}
    (whole : (SyntaxTree.ofChildren symbol (p.top v).place trees).addBonus bonus = tree)
    (stop : tree.label.stop = (p.top v).place) {next : StateId}
    (behind : goto (p.stack.node below).state symbol = next)
    (apart : p.Apart v next (p.top v).place) :
    p.reduce v symbol count bonus = (some p.versions.length,
      ⟨Array.push p.stack (p.stack.nodeOver below (some tree) next),
        p.versions ++ [⟨p.stack.size, none, (p.version v).countAtError, .active⟩],
        p.finished, p.accepted⟩) := by
  have phrase : Progress.bestPhrase symbol (p.top v).place [trees] =
      (SyntaxTree.ofChildren symbol (p.top v).place trees, []) := by
    rw [Progress.bestPhrase, List.foldl_nil, Progress.phrase, splitExtras_of_solid solid]
  have completed : Progress.complete v symbol bonus (p.top v).place [⟨below, [trees]⟩] p =
      ⟨Array.push p.stack (p.stack.nodeOver below (some tree) next),
        p.versions ++ [⟨p.stack.size, none, (p.version v).countAtError, .active⟩],
        p.finished, p.accepted⟩ := by
    rw [Progress.complete, if_neg (Nat.not_lt.mpr few), phrase]
    dsimp only
    rw [behind, whole, ProgressOk.addAt_push, Progress.pushAll, List.foldl_nil,
      Progress.mergeInto_eq_none]
    · rfl
    · intro w mem
      obtain ⟨isRange, other⟩ := List.mem_filter.mp mem
      have early := List.mem_range.mp isRange
      have other : w ≠ v := of_decide_eq_true other
      obtain ⟨insideNode, away⟩ := apart w early other
      refine canMerge_eq_false early insideNode (fun active same => ?_) rfl
      rw [stop]
      exact away active same
  have grew : p.versions.length <
      (p.versions ++ [(⟨p.stack.size, none, (p.version v).countAtError, .active⟩ : Version)]).length := by
    rw [List.length_append]
    exact Nat.lt_succ_self _
  rw [Progress.reduce, popped, completed]
  dsimp only
  rw [if_pos grew]

/-- **A reduction on a pile** takes the topmost frames off and puts one in their place, in a new
version. -/
theorem reduce_pile (few : p.versions.length ≤ maxVersions + versionOverflow) {fs base : List Frame}
    (pile : Pile text p.stack (p.version v).node (fs ++ base)) {symbol : Symbol} {count : Nat}
    (length : fs.length = count) (bonus : Int)
    (apart : p.Apart v (goto (topState base) symbol) (p.top v).place) :
    ∃ below, Pile text p.stack below base ∧
      p.reduce v symbol count bonus = (some p.versions.length,
        ⟨Array.push p.stack (p.stack.nodeOver below
            (some (groupOf symbol bonus (p.top v).place fs)) (goto (topState base) symbol)),
          p.versions ++ [⟨p.stack.size, none, (p.version v).countAtError, .active⟩],
          p.finished, p.accepted⟩) := by
  obtain ⟨below, pileBelow, popped⟩ := pile.pop length
  refine ⟨below, pileBelow, reduce_of_pop few popped (fun t mem => ?_) rfl
    (groupOf_stop pile.top_stop) (by rw [pileBelow.state]) apart⟩
  obtain ⟨f, inside, rfl⟩ := List.mem_map.mp (List.mem_reverse.mp mem)
  exact pile.solid f (List.mem_append_left _ inside)

/-! ### One action -/

theorem eraseIdx_set_append {versions : List Version} {old new : Version}
    (inside : v < versions.length) :
    ((versions ++ [new]).set v old).eraseIdx versions.length = versions.set v old := by
  rw [List.set_append_left _ _ inside]
  have length : (versions.set v old).length = versions.length := List.length_set ..
  rw [← length, List.eraseIdx_append_of_length_le (Nat.le_refl _), Nat.sub_self]
  exact List.append_nil _

/-- A version goes on as the only one that a reduction gives, so that the reduction moves it. -/
theorem consume_of_reduce (active : p.Active v) (token : SyntaxTree) {symbol : Symbol}
    {count below : Nat} {bonus : Int} {tree : SyntaxTree} {next : StateId}
    (action : actions (p.state v) token.symbol = [.reduce symbol count bonus])
    (reduced : p.reduce v symbol count bonus = (some p.versions.length,
      ⟨Array.push p.stack (p.stack.nodeOver below (some tree) next),
        p.versions ++ [⟨p.stack.size, none, (p.version v).countAtError, .active⟩],
        p.finished, p.accepted⟩)) (fuel : Nat) :
    Progress.consume v (fuel + 1) token p =
      Progress.consume v fuel token (p.moveTo v below tree next) := by
  have inside := active.inside
  rw [Progress.consume, action, Progress.act, reduced]
  dsimp only
  rw [Progress.act]
  dsimp only
  congr 1
  rw [Progress.replace, if_neg (Nat.ne_of_lt inside), Progress.version_append_self,
    Progress.version_append_of_lt inside]
  dsimp only
  rw [Progress.setVersion, Progress.remove]
  dsimp only
  rw [eraseIdx_set_append inside]
  have same : ∀ old : Version, old.status.isActive = true →
      (⟨p.stack.size, old.retreats, old.countAtError, .active⟩ : Version) =
        { old with node := p.stack.size } := by
    rintro ⟨node, retreats, countAtError, status⟩ goesOn
    cases status with
    | active => rfl
    | paused => cases goesOn
    | halted => cases goesOn
  exact congrArg (fun new => (⟨_, p.versions.set v new, p.finished, p.accepted⟩ : Progress))
    (same (p.version v) active)

/-- **A version groups its topmost trees**, if a reduction is the only action of its state, and goes
on with the same token. -/
theorem consume_reduce (active : p.Active v)
    (few : p.versions.length ≤ maxVersions + versionOverflow) {fs base : List Frame}
    (pile : Pile text p.stack (p.version v).node (fs ++ base)) {token : SyntaxTree}
    {symbol : Symbol} {bonus : Int}
    (action : actions (topState (fs ++ base)) token.symbol = [.reduce symbol fs.length bonus])
    (apart : p.Apart v (goto (topState base) symbol) (p.top v).place) (fuel : Nat) :
    ∃ below, Pile text p.stack below base ∧
      Progress.consume v (fuel + 1) token p =
        Progress.consume v fuel token
          (p.moveTo v below (groupOf symbol bonus (p.top v).place fs) (goto (topState base) symbol)) := by
  obtain ⟨below, pileBelow, reduced⟩ := reduce_pile few pile rfl bonus apart
  have state : p.state v = topState (fs ++ base) := pile.state
  rw [← state] at action
  exact ⟨below, pileBelow, consume_of_reduce active token action reduced fuel⟩

/-- **A version takes a token.**  The first action is to shift it, so the others are not looked at.
-/
theorem consume_shift {token : SyntaxTree} {next : StateId} {others : List Action}
    (action : actions (p.state v) token.symbol = .shift next false :: others) (fuel : Nat) :
    Progress.consume v (fuel + 1) token p =
      p.moveTo v (p.version v).node (token.withExtra false) next := by
  rw [Progress.consume, action, Progress.act]
  rfl

end JsxDetect.Parse
