import JsxDetect.Proofs.Parse.EndOfText

/-!
# The end of the text inside a phrase

A single version that comes to the end of the text where a phrase is not complete.  It completes
what it can, and the trees on its stack become the parts of one error; a second version may go
back to the beginning and have the same trees in an error before an empty program.  The JSX of
the text is that of the trees on the stack.

## Main Definitions

* `completions`: what can be completed before any token
* `Broken`: nothing on the stack can go on at the end of the text

## Main Results

* `Comes.broken`: the JSX of a text that ends inside a phrase

## Design Notes

**Only this path through recovery.**  Recovery searches: missing tokens, states to return to, text
to skip.  At the end of the text most of it is closed off, and the hypotheses of `Comes.broken` say
so by tables: no token is lacking (`lacks`), no state below can do anything there (`idle`), and
every phrase that is due is completed in one way (`Completes`).  They are checked by evaluation
where the result is applied.

**What is followed.**  Of the trees only the first node of JSX among all nodes matters, and this is
not changed when trees are put into an error.  `Elements` states it, and is carried through the
error, the return to the beginning, the empty program behind it and the choice between the two trees
of the whole text.

**Two versions at most.**  The version that met the error ends with it.  If the beginning of the
text could be returned to, then a second one has the trees in an error and goes on for one more
round.  `Broken` is this alternative, and `Broken.run` is the last round for both.
-/

namespace JsxDetect.Parse

open Automaton Stack SyntaxTree Progress

variable {text : List Char}

/-! ### Completing phrases -/

/-- The phrases that a state may complete before some token other than the end. -/
@[irreducible]
def due (state : StateId) : List Reduction := (optionsAt state none).reductions

/-- May a state take some token other than the end? -/
@[irreducible]
def ready (state : StateId) : Bool := (optionsAt state none).shifts

/-- The slots when every phrase is completed that may be, before any token.  It is computed, so that
for a given pile of slots the result is found by evaluation; there is none where two phrases compete
or a token may be taken besides. -/
def completions : Nat → List Slot → Option (List Slot)
  | 0, _ => none
  | fuel + 1, slots =>
    match due (topSlot slots) with
    | [] => if ready (topSlot slots) then some slots else none
    | [r] =>
      if !ready (topSlot slots) && allows [0] r.symbol r.count r.bonus slots then
        completions fuel (regroup r.symbol r.count slots)
      else none
    | _ => none

/-- So many phrases are completed before any token, and then a token is waited for.  This is
`completions` as a relation, for induction. -/
inductive Completes : Nat → List Slot → List Slot → Prop
  | none {slots : List Slot} (nothing : due (topSlot slots) = [])
      (shifts : ready (topSlot slots) = true) : Completes 0 slots slots
  | one {slots after : List Slot} {steps : Nat} {r : Reduction}
      (reduction : due (topSlot slots) = [r])
      (waits : ready (topSlot slots) = false)
      (allowed : Allowed [0] r.symbol r.count r.bonus slots)
      (others : Completes steps (regroup r.symbol r.count slots) after) :
      Completes (steps + 1) slots after

/-- What is computed is a sequence of completions, shorter than the fuel. -/
theorem Completes.of_completions {fuel : Nat} {slots after : List Slot}
    (computed : completions fuel slots = some after) : ∃ steps < fuel, Completes steps slots after := by
  induction fuel generalizing slots with
  | zero => cases computed
  | succ fuel ih =>
    rw [completions] at computed
    split at computed
    · next nothing =>
      split at computed
      · next shifts =>
        cases computed
        exact ⟨0, Nat.succ_pos _, .none nothing shifts⟩
      · cases computed
    · next r reduction =>
      split at computed
      · next allowed =>
        rw [Bool.and_eq_true, Bool.not_eq_true'] at allowed
        obtain ⟨steps, few, completes⟩ := ih computed
        exact ⟨steps + 1, Nat.succ_lt_succ few,
          .one reduction allowed.1 (allowed_of_allows allowed.2) completes⟩
      · cases computed
    · cases computed

/-- Slots that lie deeper are not touched. -/
theorem Completes.append {steps : Nat} {slots after : List Slot}
    (completes : Completes steps slots after) (nonempty : slots ≠ []) (deeper : List Slot) :
    Completes steps (slots ++ deeper) (after ++ deeper) := by
  induction completes with
  | none nothing shifts =>
    rw [← topSlot_append nonempty deeper] at nothing shifts
    exact .none nothing shifts
  | one reduction waits allowed _ ih =>
    rw [← topSlot_append nonempty deeper] at reduction waits
    have others := ih (List.cons_ne_nil _ _)
    rw [← regroup_append allowed.deep] at others
    exact .one reduction waits (allowed.append deeper) others

/-- A version that enters an error, with the nodes it counted then. -/
abbrev troubled (i count : Nat) : Version := ⟨i, none, count, .active⟩

section

variable {stack : Stack} {i : Nat} {slots after : List Slot} {cursor : Cursor}

/-- A single version that enters an error makes a reduction: the new version replaces it, and stands
on the regrouped slots. -/
theorem Stands.regroup (stands : Stands text stack i slots cursor) (count : Nat) {r : Reduction}
    (allowed : Allowed [0] r.symbol r.count r.bonus slots) :
    ∃ stack' i' versions,
      (among stack [troubled i count]).reduce 0 r.symbol r.count r.bonus =
        (some 1, among stack' versions) ∧
      (among stack' versions).replace 0 1 = among stack' [troubled i' count] ∧
      Stands text stack' i' (Parse.regroup r.symbol r.count slots) cursor := by
  obtain ⟨fs, pile, shown⟩ := stands.pile
  obtain ⟨taken, base, rfl, length, floor, shows'⟩ :=
    shown.group allowed.deep allowed.sound allowed.noTag r.bonus cursor
  rw [← floor] at shows'
  obtain ⟨below, pileBelow, reduced⟩ := reduce_pile (p := among stack [troubled i count])
    (v := 0) (Nat.le_add_left 1 _) pile length r.bonus
    (apart_of_alone rfl (goto (topState base) r.symbol) _)
  have top : ((among stack [troubled i count]).top 0).place = cursor := stands.place
  have stop : ∀ f, taken.head? = some f → f.tree.label.stop = cursor := by
    rw [← top]
    exact Pile.top_stop (p := among stack [troubled i count]) (v := 0) pile
  rw [top] at reduced
  have solid : (groupOf r.symbol r.bonus cursor taken).extra = false := extra_addBonus _ _
  have grown := pileBelow.push solid (goto (topState base) r.symbol)
  exact ⟨_, _, _, reduced, rfl, ⟨_, grown, shows'⟩, grown.place.trans (groupOf_stop stop),
    fun same => allowed.away (List.mem_singleton.mpr same)⟩

/-- **Everything is completed** that may be.  By induction on the number of phrases; the turns are
limited, and this is why they are counted. -/
theorem Stands.reduceFrom (stands : Stands text stack i slots cursor) (count : Nat) {steps : Nat}
    (completes : Completes steps slots after)
    {turn fuel : Nat} (few : turn + steps ≤ maxVersions) (enough : steps + 1 < fuel) :
    ∃ stack' i', Progress.reduceFrom 0 1 none fuel turn 0 false (among stack [troubled i count]) =
        (true, among stack' [troubled i' count]) ∧ Stands text stack' i' after cursor := by
  -- on the phrases that are completed: each makes one more turn, and leaves a single version
  induction completes generalizing stack i turn fuel with
  | @none slots nothing shifts =>
    obtain ⟨fuel, rfl⟩ : ∃ n, fuel = n + 2 := ⟨fuel - 2, by omega⟩
    refine ⟨stack, i, ?_, stands⟩
    have state : (among stack [troubled i count]).state 0 = topSlot slots := stands.state
    have inside : ¬0 ≥ (among stack [troubled i count]).versions.length :=
      Nat.not_le.mpr Nat.one_pos
    have alone : (among stack [troubled i count]).mergeInto 0 ((List.range 0).filter (1 ≤ ·)) = none :=
      rfl
    unfold due at nothing
    unfold ready at shifts
    rw [Progress.reduceFrom, if_neg inside, alone]
    dsimp only
    rw [state, nothing, shifts, List.reverse_nil, reduceEach, if_pos rfl, if_pos rfl, Progress.reduceFrom]
    exact if_pos (Nat.le_refl _)
  | @one slots after steps r reduction waits allowed _ ih =>
    obtain ⟨fuel, rfl⟩ : ∃ n, fuel = n + 1 := ⟨fuel - 1, by omega⟩
    have state : (among stack [troubled i count]).state 0 = topSlot slots := stands.state
    have inside : ¬0 ≥ (among stack [troubled i count]).versions.length :=
      Nat.not_le.mpr Nat.one_pos
    have alone : (among stack [troubled i count]).mergeInto 0 ((List.range 0).filter (1 ≤ ·)) = none :=
      rfl
    unfold due at reduction
    unfold ready at waits
    obtain ⟨stack', i', versions, reduced, replaced, stands'⟩ :=
      stands.regroup count allowed
    obtain ⟨stack'', i'', completed, stands''⟩ := ih stands'
      (show turn + 1 + steps ≤ maxVersions by omega) (show steps + 1 < fuel by omega)
    refine ⟨stack'', i'', ?_, stands''⟩
    rw [← completed, Progress.reduceFrom, if_neg inside, alone]
    dsimp only
    rw [state, reduction, waits, List.reverse_singleton, reduceEach, reduced]
    dsimp only
    rw [reduceEach, if_neg Bool.false_ne_true]
    dsimp only
    rw [if_pos (by omega), replaced]

end

/-! ### The states to return to -/

/-- Notes the state that a way down has come to. -/
def noteRetreat (stack : Stack) (known : List Retreat) (p : Path) : List Retreat × Visit :=
  if p.count > maxRetreat then (known, ⟨false, true⟩)
  else
    let node := stack.node p.node
    if knownRetreat p.count node.state known then (known, ⟨false, false⟩)
    else (⟨node.place, p.count, node.state⟩ :: known, ⟨false, false⟩)

/-- Noting a state keeps all that were known, adds at most the one that was come to, and never asks
to record the way. -/
theorem noteRetreat_eq (stack : Stack) (known : List Retreat) (p : Path) :
    (noteRetreat stack known p).2.take = false ∧
      ∀ r ∈ (noteRetreat stack known p).1,
        r ∈ known ∨ r.depth = p.count ∧ r.state = (stack.node p.node).state := by
  rw [noteRetreat]
  split
  · exact ⟨rfl, fun r mem => .inl mem⟩
  · dsimp only
    split
    · exact ⟨rfl, fun r mem => .inl mem⟩
    · refine ⟨rfl, fun r mem => ?_⟩
      rcases List.mem_cons.mp mem with rfl | older
      · exact .inr ⟨rfl, rfl⟩
      · exact .inl older

/-- A walk over a single way that ends.  It records nothing. -/
theorem Pile.walk_end {σ : Type} {visit : σ → Path → σ × Visit} {stack : Stack} {s : σ} {p : Path}
    (untaken : (visit s p).2.take = false)
    (ends : (visit s p).2.leave = true ∨ (stack.node p.node).links = []) (fuel : Nat) :
    stack.walk visit (fuel + 1) s [p] [] = ((visit s p).1, []) := by
  rw [walk, Stack.round]
  · rcases same : visit s p with ⟨after, take, leave⟩
    rw [same] at untaken ends
    dsimp only at untaken ends ⊢
    rw [untaken]
    rcases ends with left | noLinks
    · rw [left]
      cases fuel <;> rfl
    · rw [noLinks]
      cases leave <;> cases fuel <;> rfl
  · exact List.cons_ne_nil _ _

/-- A retreat to a state on the way down over some frames, with so many trees passed before.  Its
state is the one below the frames that were passed. -/
def IsRetreat (fs : List Frame) (passed : Nat) (r : Retreat) : Prop :=
  ∃ taken base, fs = taken ++ base ∧ r.depth = passed + taken.length ∧ r.state = topState base

theorem IsRetreat.over {fs : List Frame} {passed : Nat} {r : Retreat}
    (retreat : IsRetreat fs (passed + 1) r) (f : Frame) : IsRetreat (f :: fs) passed r := by
  obtain ⟨taken, base, rfl, depth, state⟩ := retreat
  refine ⟨f :: taken, base, rfl, ?_, state⟩
  rw [depth, List.length_cons]
  omega

/-- The states on the way down from a pile, and no others, are noted.  By induction on the frames.
-/
theorem Pile.walk_retreats {stack : Stack} {i : Nat} {fs : List Frame} (pile : Pile text stack i fs)
    (fuel passed : Nat) (trees : List SyntaxTree) (known : List Retreat) :
    ∀ r ∈ (stack.walk (noteRetreat stack) fuel known [⟨i, trees, passed⟩] []).1,
      r ∈ known ∨ IsRetreat fs passed r := by
  -- on the frames, one step of the walk for each
  induction fs generalizing i fuel passed trees known with
  | nil =>
    cases fuel with
    | zero => exact fun r mem => .inl mem
    | succ fuel =>
      obtain ⟨untaken, noted⟩ := noteRetreat_eq stack known ⟨i, trees, passed⟩
      have noLinks : (stack.node i).links = [] := by
        cases pile with
        | bottom inside node => rw [node]
      rw [walk_end untaken (.inr noLinks)]
      exact fun r mem => (noted r mem).imp id fun ⟨depth, state⟩ =>
        ⟨[], [], rfl, depth, state.trans pile.state⟩
  | cons f fs ih =>
    cases fuel with
    | zero => exact fun r mem => .inl mem
    | succ fuel =>
      obtain ⟨untaken, noted⟩ := noteRetreat_eq stack known ⟨i, trees, passed⟩
      have here : ∀ r ∈ (noteRetreat stack known ⟨i, trees, passed⟩).1,
          r ∈ known ∨ IsRetreat (f :: fs) passed r := fun r mem =>
        (noted r mem).imp id fun ⟨depth, state⟩ =>
          ⟨[], f :: fs, rfl, depth, state.trans pile.state⟩
      rcases same : noteRetreat stack known ⟨i, trees, passed⟩ with ⟨after, take, leave⟩
      rw [same] at untaken here
      obtain rfl : take = false := untaken
      cases leave with
      | true =>
        rw [walk_end (by rw [same]) (.inl (by rw [same])), same]
        exact here
      | false =>
        obtain ⟨next, links, solid, -, rest⟩ := pile.links
        rw [walk_stay same links, Path.over_some rfl, solid, if_neg Bool.false_ne_true]
        intro r mem
        rcases ih rest fuel (passed + 1) _ after r mem with before | deeper
        · exact here r before
        · exact .inr (deeper.over f)

/-- A node at which an error begins.  It lies on a pile, with no tree between. -/
structure Breaks (text : List Char) (stack : Stack) (n : Nat) (fs : List Frame) (cursor : Cursor) :
    Prop where
  node : ∃ i, (stack.node n).links = [⟨i, none⟩] ∧ Pile text stack i fs ∧ i < n
  state : (stack.node n).state = 0
  place : (stack.node n).place = cursor
  inside : n < stack.size

section

variable {stack stack' : Stack} {n : Nat} {fs : List Frame} {cursor : Cursor}

theorem Breaks.prolong (breaks : Breaks text stack n fs cursor) (prolongs : Prolongs stack stack') :
    Breaks text stack' n fs cursor := by
  obtain ⟨i, links, pile, lower⟩ := breaks.node
  have same := prolongs.node n breaks.inside
  exact ⟨⟨i, same.symm ▸ links, pile.prolong prolongs, lower⟩, same.symm ▸ breaks.state,
    same.symm ▸ breaks.place, Nat.lt_of_lt_of_le breaks.inside prolongs.size⟩

/-- The states that an error could return to: that of the error itself, or one on the way down. -/
theorem Breaks.retreats (breaks : Breaks text stack n fs cursor) :
    ∀ r ∈ stack.retreats n, r.state = 0 ∨ IsRetreat fs 1 r := by
  obtain ⟨i, links, pile, -⟩ := breaks.node
  have first : noteRetreat stack [] ⟨n, [], 0⟩ =
      ([⟨(stack.node n).place, 0, (stack.node n).state⟩], ⟨false, false⟩) := rfl
  have walked : stack.retreats n =
      (stack.walk (noteRetreat stack) stack.size [⟨(stack.node n).place, 0, (stack.node n).state⟩]
        [⟨i, [], 1⟩] []).1.reverse := by
    change (stack.walk (noteRetreat stack) (stack.size + 1) [] [⟨n, [], 0⟩] []).1.reverse = _
    rw [Pile.walk_stay first links]
    rfl
  intro r mem
  rw [walked, List.mem_reverse] at mem
  rcases pile.walk_retreats _ _ _ _ r mem with own | deeper
  · rw [List.mem_singleton.mp own]
    exact .inl breaks.state
  · exact .inr deeper

/-- The way down from an error to a state to return to.  There is one way only, as a pile has no
branches. -/
theorem Breaks.pop {taken base : List Frame} (breaks : Breaks text stack n (taken ++ base) cursor) :
    ∃ below, Pile text stack below base ∧
      stack.pop n (1 + taken.length) = [⟨below, [(taken.map Frame.tree).reverse]⟩] := by
  obtain ⟨i, links, pile, lower⟩ := breaks.node
  have depth := pile.length_le
  rw [List.length_append] at depth
  have inside := breaks.inside
  obtain ⟨below, pileBelow, walked⟩ := pile.walk_pop (rfl : 1 + taken.length = _)
    (show taken.length < stack.size by omega) []
  refine ⟨below, pileBelow, ?_⟩
  rw [Stack.pop, Pile.walk_stay (t := ()) _ links]
  · change (stack.walk _ stack.size () [⟨i, [], 1⟩] []).2 = _
    rw [walked, List.append_nil]
  · have before : 0 ≠ 1 + taken.length := by omega
    simp only [before, decide_false]

end

/-! ### Returning to the beginning -/

/-- The first JSX in a tree is a paired element, or there is none.  Nodes come in the order in which
they are visited. -/
def Elements (t : SyntaxTree) (jsx : Bool) : Prop := t.nodes.findSome? jsxKind = elementIf jsx

theorem Elements.ofChildren {symbol : Symbol} (kind : kindOf symbol = none) {ts : List SyntaxTree}
    {jsx : Bool} (first : (Rose.nodesOfAll ts).findSome? jsxKind = elementIf jsx) (cursor : Cursor) :
    Elements (SyntaxTree.ofChildren symbol cursor ts) jsx := by
  rw [Elements, first_ofChildren, kind, first]
  rfl

/-- A version in an error that has just begun. -/
abbrev erring (stack : Stack) (n : Nat) : Version :=
  ⟨n, some (stack.retreats n), (stack.node n).nodeCount, .active⟩

/-- A node from which the text is read anew, behind an error.  The error is the only tree below, and
contains everything that was read. -/
structure Restarts (stack : Stack) (n : Nat) (jsx : Bool) (cursor : Cursor) : Prop where
  error : ∃ below tree, (stack.node n).links = [⟨below, some tree⟩] ∧
    (stack.node below).links = [] ∧ below < stack.size ∧ tree.extra = true ∧ Elements tree jsx
  state : (stack.node n).state = 1
  place : (stack.node n).place = cursor
  inside : n < stack.size

/-- It stays one on a stack that is prolonged. -/
theorem Restarts.prolong {stack stack' : Stack} {n : Nat} {jsx : Bool} {cursor : Cursor}
    (restarts : Restarts stack n jsx cursor) (prolongs : Prolongs stack stack') :
    Restarts stack' n jsx cursor := by
  obtain ⟨below, tree, links, bottom, inside, rest⟩ := restarts.error
  have same := prolongs.node n restarts.inside
  exact ⟨⟨below, tree, same.symm ▸ links, (prolongs.node below inside).symm ▸ bottom,
    Nat.lt_of_lt_of_le inside prolongs.size, rest⟩, same.symm ▸ restarts.state,
    same.symm ▸ restarts.place, Nat.lt_of_lt_of_le restarts.inside prolongs.size⟩

/-- Frames below a broken end: none of their states can do anything there, and their trees hold
JSX or not. -/
structure Stuck (fs : List Frame) (jsx : Bool) (cursor : Cursor) : Prop where
  nonempty : fs ≠ []
  idle : ∀ f ∈ fs, acts f.state Symbol.endOfText = false
  solid : ∀ f ∈ fs, f.tree.extra = false
  first : (Rose.nodesOfAll (fs.map Frame.tree).reverse).findSome? jsxKind = elementIf jsx
  stop : ∀ f, fs.head? = some f → f.tree.label.stop = cursor

section

variable {stack : Stack} {n : Nat} {fs : List Frame} {jsx : Bool} {cursor : Cursor}

/-- No node was counted since an error that has just begun. -/
theorem countSinceError_erring :
    (among stack [erring stack n]).countSinceError 0 = (0, among stack [erring stack n]) := by
  have count : ¬((among stack [erring stack n]).top 0).nodeCount <
      ((among stack [erring stack n]).version 0).countAtError := Nat.lt_irrefl _
  rw [countSinceError, if_neg count]
  exact Prod.ext (Nat.sub_self _) rfl

theorem betterExists_erring (cost : Nat) :
    (among stack [erring stack n]).betterExists 0 cost = (false, among stack [erring stack n]) := by
  rw [betterExists, if_neg (by exact Bool.false_ne_true), countSinceError_erring]
  rfl

/-- **Back to the beginning**, with all trees in an error.  The depth is that of all frames and the
error's own node, and the version that returns is put behind the one in the error. -/
theorem Breaks.returnTo (breaks : Breaks text stack n fs cursor) (stuck : Stuck fs jsx cursor) :
    ∃ stack' n', Prolongs stack stack' ∧ Restarts stack' n' jsx cursor ∧
      (among stack [erring stack n]).returnTo 0 (1 + fs.length) 1 =
        (true, among stack' [erring stack n, troubled n' (stack.node n).nodeCount]) := by
  -- All frames are taken, so the way ends at the beginning of the text.
  have whole : Breaks text stack n (fs ++ []) cursor := by rwa [List.append_nil]
  obtain ⟨below, bottom, popped⟩ := whole.pop
  have node : stack.node below = ⟨1, Cursor.ofText text, [], 0, 0, 0⟩ := by
    cases bottom with
    | bottom inside node => exact node
  have solid : ∀ t ∈ (fs.map Frame.tree).reverse, t.extra = false := by
    intro t mem
    obtain ⟨f, inside, rfl⟩ := List.mem_map.mp (List.mem_reverse.mp mem)
    exact stuck.solid f inside
  have first := stuck.first
  have stop : ∀ t, (fs.map Frame.tree).reverse.getLast? = some t → t.label.stop = cursor := by
    intro t last
    rw [List.getLast?_reverse, List.head?_map, Option.map_eq_some_iff] at last
    obtain ⟨f, head, rfl⟩ := last
    exact stuck.stop f head
  have nonempty : (fs.map Frame.tree).reverse ≠ [] := by
    rw [Ne, List.reverse_eq_nil_iff, List.map_eq_nil_iff]
    exact stuck.nonempty
  generalize (fs.map Frame.tree).reverse = trees at popped solid first stop nonempty
  obtain ⟨t, ts, rfl⟩ := List.exists_cons_of_ne_nil nonempty
  have grown : Elements (SyntaxTree.ofChildren Symbol.error (Cursor.ofText text) (t :: ts)) jsx :=
    .ofChildren (by decide) first _
  have errorStop : (SyntaxTree.ofChildren Symbol.error (Cursor.ofText text) (t :: ts)).label.stop = cursor := by
    have last := List.getLast?_eq_some_getLast nonempty
    rw [stop_ofChildren last]
    exact stop _ last
  generalize made : SyntaxTree.ofChildren Symbol.error (Cursor.ofText text) (t :: ts) = error at grown errorStop
  refine ⟨Array.push stack (stack.nodeOver below (some (error.withExtra true)) 1), stack.size,
    .push _ _, ?_, ?_⟩
  · have pushed : Stack.node (Array.push stack
        (stack.nodeOver below (some (error.withExtra true)) 1)) stack.size =
          stack.nodeOver below (some (error.withExtra true)) 1 := node_push_size _ _
    have lower := bottom.inside
    have size : stack.size < (Array.push stack
        (stack.nodeOver below (some (error.withExtra true)) 1)).size := by
      rw [Array.size_push]
      exact Nat.lt_succ_self _
    have similar := similar_withExtra error true
    refine ⟨⟨below, error.withExtra true, congrArg StackNode.links pushed, ?_,
      Nat.lt_trans lower size, extra_withExtra .., ?_⟩, congrArg StackNode.state pushed, ?_, size⟩
    · rw [node_push_of_lt _ lower, node]
    · exact (first_similar similar).trans grown
    · rw [pushed]
      exact similar.stop.trans errorStop
  · have state : (among stack [erring stack n, troubled below (stack.node n).nodeCount]).state 1 = 1 :=
      congrArg StackNode.state node
    have noError : (among stack [erring stack n, troubled below (stack.node n).nodeCount]).liftError 1 =
        ([], among stack [erring stack n, troubled below (stack.node n).nodeCount]) := by
      have links : ((among stack [erring stack n, troubled below (stack.node n).nodeCount]).top 1).links = [] :=
        congrArg StackNode.links node
      rw [liftError, links]
      rfl
    have place : ((among stack [erring stack n, troubled below (stack.node n).nodeCount]).top 1).place =
      Cursor.ofText text := congrArg StackNode.place node
    have added : (among stack [erring stack n]).addAt 0 below =
      among stack [erring stack n, troubled below (stack.node n).nodeCount] := rfl
    change giveUp 0 1 (stack.pop n (1 + fs.length)) false (among stack [erring stack n]) = _
    rw [popped, giveUp, added]
    dsimp only [List.length_singleton]
    rw [if_neg (not_not_intro state), noError]
    dsimp only [List.headD_cons]
    rw [List.nil_append, splitExtras_of_solid solid]
    dsimp only
    rw [place, made, giveUp]
    rfl

/-- **Only the beginning** can be returned to, since no state above it could go on at the end of the
text.  Nothing is claimed of whether it is: the table may not have it noted. -/
theorem Breaks.tryRetreats (breaks : Breaks text stack n fs cursor) (stuck : Stuck fs jsx cursor)
    {rs : List Retreat} (retreats : ∀ r ∈ rs, r.state = 0 ∨ IsRetreat fs 1 r) :
    Progress.tryRetreats 0 (endLeaf cursor) 0 1 rs (among stack [erring stack n]) =
        (false, among stack [erring stack n]) ∨
      ∃ stack' n', Prolongs stack stack' ∧ Restarts stack' n' jsx cursor ∧
        Progress.tryRetreats 0 (endLeaf cursor) 0 1 rs (among stack [erring stack n]) =
          (true, among stack' [erring stack n, troubled n' (stack.node n).nodeCount]) := by
  induction rs with
  | nil => exact .inl rfl
  | cons r rs ih =>
    have ih := ih fun r mem => retreats r (List.mem_cons_of_mem _ mem)
    rw [Progress.tryRetreats]
    dsimp only
    split
    · exact ih
    · next live =>
      rw [betterExists_erring]
      dsimp only
      rw [if_neg Bool.false_ne_true]
      split
      · next active =>
        rcases retreats r List.mem_cons_self with inError | ⟨taken, base, same, depth, state⟩
        · rw [inError, decide_eq_true rfl] at live
          exact absurd rfl live
        · cases base with
          | nil =>
            rw [List.append_nil] at same
            obtain ⟨stack', n', prolongs, restarts, returned⟩ := breaks.returnTo stuck
            refine .inr ⟨stack', n', prolongs, restarts, ?_⟩
            have beginning : r.state = 1 := state
            rw [if_neg (c := 0 > 0) (Nat.lt_irrefl 0), depth, beginning, ← same, returned]
            rfl
          -- no other state on the way down can do anything at the end of the text
          | cons f base =>
            have idle := stuck.idle f (same ▸ List.mem_append_right _ List.mem_cons_self)
            rw [state] at active
            exact absurd (active.symm.trans idle) (by decide)
      · exact ih

/-- The way down from two trees behind the beginning of an error.  These are the error's own, still
empty, and the end of the text. -/
theorem Breaks.popAll (breaks : Breaks text stack n fs cursor) {m k : Nat} {t u : SyntaxTree}
    (first : (stack.node m).links = [⟨n, some t⟩]) (second : (stack.node k).links = [⟨m, some u⟩])
    (above : n < m) (aboveAll : m < k) (inside : k < stack.size) :
    ∃ below, stack.popAll k = [⟨below, [(fs.map Frame.tree).reverse ++ [t, u]]⟩] := by
  obtain ⟨i, links, pile, lower⟩ := breaks.node
  have depth := pile.length_le
  obtain ⟨size, same⟩ : ∃ size, stack.size = size + 2 := ⟨stack.size - 2, by omega⟩
  obtain ⟨below, walked⟩ := pile.walk_bottom (show fs.length < size by omega) [t, u]
    ((((⟨k, [], 0⟩ : Path).over ⟨m, some u⟩).over ⟨n, some t⟩).over ⟨i, none⟩).count
  refine ⟨below, ?_⟩
  rw [Stack.popAll, same, Pile.walk_stay (t := ()) _ second, Pile.walk_stay (t := ()) _ first,
    Pile.walk_stay (t := ()) _ links]
  · exact congrArg Prod.snd walked
  · change ((), (⟨(stack.node n).links.isEmpty, false⟩ : Visit)) = _
    rw [links]
    rfl
  · change ((), (⟨(stack.node m).links.isEmpty, false⟩ : Visit)) = _
    rw [first]
    rfl
  · rw [second]
    rfl

/-- **Everything becomes one error**, and this is the tree that is kept for the whole text.  There
is one way down, over all frames, the beginning of the error and the end of the text. -/
theorem Breaks.accept (breaks : Breaks text stack n fs cursor) (stuck : Stuck fs jsx cursor)
    (version : Version) (node : version.node = n) (rest : List Version) (place : Cursor) :
    ∃ stack' version' tree,
      ((among stack (version :: rest)).push 0
          (some (SyntaxTree.ofChildren Symbol.error place [])) 1).accept 0 (endLeaf cursor) =
        ⟨stack', version' :: rest, some tree, 1⟩ ∧
      Prolongs stack stack' ∧ version'.status = .halted ∧ version'.node < stack'.size ∧
      Elements tree jsx := by
  generalize made : SyntaxTree.ofChildren Symbol.error place [] = error
  have solid : error.extra = false := by rw [← made]; rfl
  have symbol : error.symbol = Symbol.error := by rw [← made]; rfl
  have noChildren : error.children = [] := by rw [← made]; rfl
  have prolongs := Prolongs.push stack (stack.nodeOver n (some error) 1)
  have linksM : Stack.node (Array.push stack (stack.nodeOver n (some error) 1)) stack.size =
      stack.nodeOver n (some error) 1 := node_push_size _ _
  generalize grown : Array.push stack (stack.nodeOver n (some error) 1) = middle at prolongs linksM
  have size : middle.size = stack.size + 1 := by rw [← grown, Array.size_push]
  have prolongs' := Prolongs.push middle (Stack.nodeOver middle stack.size (some (endLeaf cursor)) 1)
  have linksK : Stack.node (Array.push middle (Stack.nodeOver middle stack.size (some (endLeaf cursor)) 1))
      middle.size = Stack.nodeOver middle stack.size (some (endLeaf cursor)) 1 := node_push_size _ _
  have linksM' := (prolongs'.node stack.size (by omega)).trans linksM
  obtain ⟨below, popped⟩ := ((breaks.prolong prolongs).prolong prolongs').popAll
    (congrArg StackNode.links linksM') (congrArg StackNode.links linksK) breaks.inside (by omega)
    (by rw [Array.size_push]; exact Nat.lt_succ_self _)
  have pushed : (among stack (version :: rest)).push 0 (some error) 1 =
      among middle ({ version with node := stack.size } :: rest) := by
    rw [← grown, ← node]
    rfl
  -- the error without children is the last tree that may not stand anywhere: all go below it
  rw [pushed, accept_eq (p := among middle ({ version with node := stack.size } :: rest)) (v := 0)
    (Nat.succ_pos _) popped (wholeTree_eq _ solid rfl), symbol, noChildren, List.append_nil]
  refine ⟨_, _, _, rfl, prolongs.trans prolongs', rfl, ?_, .ofChildren (by decide) ?_ _⟩
  · change middle.size < _
    rw [Array.size_push]
    exact Nat.lt_succ_self _
  · rw [Rose.nodesOfAll_append, List.findSome?_append, stuck.first, Rose.nodesOfAll_cons,
      Rose.nodesOfAll_nil, List.append_nil, (endLeaf_clean cursor).first]
    exact Option.or_none

/-- What an error at the end of the text leads to.  There is a tree of the whole text, and a second
version is left or not. -/
structure Broken (p : Progress) (jsx : Bool) (cursor : Cursor) : Prop where
  versions : ∃ version rest, p.versions = version :: rest ∧ version.status = .halted ∧
    version.node < p.stack.size ∧
    (rest = [] ∨ ∃ n count, rest = [troubled n count] ∧ Restarts p.stack n jsx cursor)
  finished : ∃ tree, p.finished = some tree ∧ Elements tree jsx

/-- How recovery ends at the end of the text, whatever was returned to: the version in the error
accepts. -/
theorem recover_erring {returned : Bool} {q : Progress}
    (tried : Progress.tryRetreats 0 (endLeaf cursor) 0 1 (stack.retreats n) (among stack [erring stack n]) =
      (returned, q)) (kept : q.dropInactive 1 = q) (few : q.versions.length ≤ maxVersions) :
    (among stack [erring stack n]).recover 0 (endLeaf cursor) =
      (q.push 0 (some (SyntaxTree.ofChildren Symbol.error (q.top 0).place [])) 1).accept 0
        (endLeaf cursor) := by
  have isEnd : (endLeaf cursor).symbol ≠ Symbol.error := by
    have differ : Symbol.endOfText ≠ Symbol.error := by decide
    exact differ
  have atEnd : (endLeaf cursor).symbol = Symbol.endOfText := rfl
  have notMany : ¬(returned && decide (q.versions.length > maxVersions)) = true := by
    rw [Bool.and_eq_true, decide_eq_true_eq]
    exact fun many => Nat.not_lt.mpr few many.2
  have retreats : ((among stack [erring stack n]).version 0).retreats.getD [] = stack.retreats n := rfl
  have known : [erring stack n].length = 1 := rfl
  rw [Progress.recover, countSinceError_erring]
  dsimp only
  rw [if_neg isEnd, retreats, known, tried]
  dsimp only
  rw [kept, if_neg notMany, if_pos atEnd]

/-- **The error at the end of the text.**  Either retreat leads to what `Broken` states.  Nothing is
skipped, as there is nothing left to skip. -/
theorem Breaks.recover (breaks : Breaks text stack n fs cursor) (stuck : Stuck fs jsx cursor) :
    Broken ((among stack [erring stack n]).recover 0 (endLeaf cursor)) jsx cursor := by
  rcases breaks.tryRetreats stuck breaks.retreats with
    tried | ⟨stack', n', prolongs, restarts, tried⟩
  -- nothing to return to: only the error is left
  · rw [recover_erring tried rfl (Nat.le_add_left 1 _)]
    obtain ⟨stack', version, tree, accepted, -, halted, inside, elements⟩ :=
      breaks.accept stuck (erring stack n) rfl []
        ((among stack [erring stack n]).top 0).place
    rw [accepted]
    exact ⟨⟨version, [], rfl, halted, inside, .inl rfl⟩, tree, rfl, elements⟩
  -- a second version restarts at the beginning, behind the error
  · rw [recover_erring tried rfl (Nat.le_add_left 2 _)]
    obtain ⟨stack'', version, tree, accepted, prolongs', halted, inside, elements⟩ :=
      (breaks.prolong prolongs).accept stuck (erring stack n) rfl
        [troubled n' (stack.node n).nodeCount]
        ((among stack' [erring stack n, troubled n' (stack.node n).nodeCount]).top 0).place
    rw [accepted]
    exact ⟨⟨version, _, rfl, halted, inside, .inr ⟨n', _, rfl, restarts.prolong prolongs'⟩⟩,
      tree, rfl, elements⟩

end

/-! ### Meeting the error -/

/-- Is there a token that the text could lack, in a state before its end?  It is one behind which a
phrase would be completed first; only such a token is tried as a missing one. -/
@[irreducible]
def lacks (state : StateId) : Bool :=
  ((List.range (Symbol.tokenCount - 1)).map (· + 1)).any fun symbol =>
    !(goto state symbol = 0 || goto state symbol = state ||
      !reducesFirst (goto state symbol) Symbol.endOfText)

/-- If none could be lacking, then the parse is not changed by trying. -/
theorem tryMissing_eq {p : Progress} {v : Nat} (cursor : Cursor) (complete : lacks (p.state v) = false)
    (fuel : Nat) :
    tryMissing fuel v (endLeaf cursor) ((List.range (Symbol.tokenCount - 1)).map (· + 1)) p =
      (false, p) := by
  rw [lacks, List.any_eq_false] at complete
  generalize (List.range (Symbol.tokenCount - 1)).map (· + 1) = symbols at complete
  induction symbols with
  | nil => rfl
  | cons symbol symbols ih =>
    have first := complete symbol List.mem_cons_self
    rw [Bool.not_eq_true, Bool.not_eq_false'] at first
    rw [tryMissing]
    dsimp only
    exact (if_pos first).trans (ih fun other mem => complete other (List.mem_cons_of_mem _ mem))

/-- The frames that some slots above the beginning tell: their trees are without errors, and their
JSX and states are those of the slots. -/
theorem Shows.clean {fs : List Frame} {upper : List Slot}
    (shown : Shows fs (upper ++ [⟨1, false⟩])) :
    AllClean (fs.map Frame.tree) (upper.map Slot.jsx) ∧
      ∀ f ∈ fs, ∃ s ∈ upper, f.state = s.state := by
  induction upper generalizing fs with
  | nil =>
    cases shown with
    | beginning => exact ⟨.nil, fun f mem => absurd mem List.not_mem_nil⟩
    | above state clean rest => cases rest
  | cons s upper ih =>
    rw [List.cons_append] at shown
    generalize more : upper ++ [(⟨1, false⟩ : Slot)] = ss at shown
    cases shown with
    | beginning => exact absurd more (by simp)
    | @above f _ fs _ state clean rest =>
      obtain ⟨others, states⟩ := ih (more.symm ▸ rest)
      refine ⟨.cons clean others, fun g mem => ?_⟩
      rcases List.mem_cons.mp mem with rfl | later
      · exact ⟨s, List.mem_cons_self, state⟩
      · obtain ⟨t, inside, same⟩ := states g later
        exact ⟨t, List.mem_cons_of_mem _ inside, same⟩

section

variable {stack : Stack} {i : Nat} {slots upper : List Slot} {cursor : Cursor}

/-- A version stands where nothing can be done at the end of the text, in terms of slots. -/
theorem Stands.stuck (stands : Stands text stack i (upper ++ [⟨1, false⟩]) cursor)
    (nonempty : upper ≠ []) (idle : ∀ s ∈ upper, acts s.state Symbol.endOfText = false) :
    ∃ fs, Pile text stack i fs ∧ Stuck fs (upper.any Slot.jsx) cursor := by
  obtain ⟨fs, pile, shown⟩ := stands.pile
  obtain ⟨clean, states⟩ := shown.clean
  refine ⟨fs, pile, ?_, fun f mem => ?_, pile.solid, ?_, fun f head => ?_⟩
  · rintro rfl
    cases upper with
    | nil => exact nonempty rfl
    | cons s upper => cases clean
  · obtain ⟨s, inside, same⟩ := states f mem
    rw [same]
    exact idle s inside
  · rw [AllClean.first (List.forall₂_reverse_iff.mpr clean), List.any_reverse, List.any_map]
    rfl
  · cases fs with
    | nil => cases head
    | cons g fs =>
      cases head
      exact pile.place.symm.trans stands.place

/-- **A version meets its error** at the end of the text: it completes what is due, tries no token,
and enters the error. -/
theorem Stands.handleError (stands : Stands text stack i slots cursor) (count : Nat) {steps : Nat}
    (completes : Completes steps slots (upper ++ [⟨1, false⟩])) (few : steps ≤ maxVersions)
    (complete : lacks (topSlot (upper ++ [⟨1, false⟩])) = false) (nonempty : upper ≠ [])
    (idle : ∀ s ∈ upper, acts s.state Symbol.endOfText = false) {budget : Nat}
    (enough : steps + 1 < budget) :
    Broken ((among stack [troubled i count]).handleError budget 0 (endLeaf cursor))
      (upper.any Slot.jsx) cursor := by
  obtain ⟨stack', i', completed, stands'⟩ := stands.reduceFrom count completes
    (show 0 + steps ≤ maxVersions by omega) enough
  have all : (among stack [troubled i count]).reduceAll budget 0 none =
      (true, among stack' [troubled i' count]) := completed
  have state : (among stack' [troubled i' count]).state 0 = topSlot (upper ++ [⟨1, false⟩]) :=
    stands'.state
  have notMissing := tryMissing_eq (p := among stack' [troubled i' count]) (v := 0) cursor
    (state.symm ▸ complete) budget
  obtain ⟨fs, pile, stuck⟩ := stands'.stuck nonempty idle
  have node : Stack.node (Array.push stack' (stack'.nodeOver i' none 0)) stack'.size =
      stack'.nodeOver i' none 0 := node_push_size _ _
  have breaks : Breaks text (Array.push stack' (stack'.nodeOver i' none 0)) stack'.size fs cursor := by
    refine ⟨⟨i', congrArg StackNode.links node, pile.prolong (.push _ _), pile.inside⟩,
      congrArg StackNode.state node, (congrArg StackNode.place node).trans stands'.place, ?_⟩
    rw [Array.size_push]
    exact Nat.lt_succ_self _
  have first : (among stack [troubled i count]).versions.length = 1 := rfl
  have last : (among stack' [troubled i' count]).versions.length = 1 := rfl
  rw [Progress.handleError, all]
  dsimp only
  rw [first, last]
  change Broken (Progress.recover (let p := mergeFollowing 0 1 0 (beginErrors budget (endLeaf cursor) [0] false
    (among stack' [troubled i' count])); p.setVersion 0 { p.version 0 with
      retreats := some (p.stack.retreats (p.version 0).node) }) 0 (endLeaf cursor)) _ _
  -- A single version is there, so nothing is merged; and no token is missing.
  rw [mergeFollowing, beginErrors, if_neg Bool.false_ne_true, notMissing]
  dsimp only
  rw [beginErrors]
  have recovered := breaks.recover stuck
  rw [erring, node] at recovered
  exact recovered

end

/-! ### The last rounds -/

namespace Progress

/-- **A round**, whether or not it is the last one.  Which of the two it is depends on costs, and
the result of the next round is the same; so both are followed. -/
theorem run_cases {budget last last' : Nat} {p q r : Progress} {least : Option Nat}
    (advanced : advanceAll budget budget 0 last p = (last', q))
    (condensed : q.condense budget = (least, r)) (fuel : Nat) :
    run budget (fuel + 1) last p = r ∨ run budget (fuel + 1) last p = run budget fuel last' r := by
  rw [run, advanced]
  dsimp only
  rw [condensed]
  dsimp only
  split
  · exact .inl rfl
  · exact .inr rfl

/-- A single version that met an error enters it. -/
theorem condense_paused (stack : Stack) (i : Nat) (token : SyntaxTree) (fuel : Nat) :
    ∃ least, (among stack [stopped stack i token]).condense fuel =
      (least, (among stack [troubled i (stack.node i).nodeCount]).handleError fuel 0 token) := by
  obtain ⟨own, standing, inError, -⟩ := standing_stopped
    (p := among stack [stopped stack i token]) (v := 0) rfl
  have inside : ¬0 ≥ (among stack [stopped stack i token]).versions.length :=
    Nat.not_le.mpr Nat.one_pos
  have version : (among stack [stopped stack i token]).version 0 = stopped stack i token := rfl
  have settled : settleAll 1 0 none (among stack [stopped stack i token]) =
      (none, among stack [stopped stack i token]) := by
    rw [settleAll, if_neg inside, version]
    dsimp only
    rw [standing]
    dsimp only
    rw [inError, if_pos rfl]
    rfl
  rw [condense]
  dsimp only [List.length_singleton]
  rw [settled]
  exact ⟨_, rfl⟩

end Progress

section

variable {p : Progress} {jsx : Bool} {cursor : Cursor}

/-- The way down from the end behind an error and an empty program: there is one, over three trees.
-/
theorem Restarts.popAll {stack : Stack} {n m k : Nat} {t u : SyntaxTree}
    (restarts : Restarts stack n jsx cursor) (first : (stack.node m).links = [⟨n, some t⟩])
    (second : (stack.node k).links = [⟨m, some u⟩]) (many : 2 < stack.size) :
    ∃ below error, stack.popAll k = [⟨below, [[error, t, u]]⟩] ∧ Elements error jsx := by
  obtain ⟨below, error, links, bottom, -, -, elements⟩ := restarts.error
  obtain ⟨size, same⟩ : ∃ size, stack.size = size + 3 := ⟨stack.size - 3, by omega⟩
  refine ⟨below, error, ?_, elements⟩
  rw [Stack.popAll, same, Pile.walk_stay (t := ()) _ second, Pile.walk_stay (t := ()) _ first,
    Pile.walk_stay (t := ()) _ links, Pile.walk_take (t := ()) false _ (.inr bottom)]
  · rfl
  · change ((), (⟨(stack.node below).links.isEmpty, false⟩ : Visit)) = _
    rw [bottom]
    rfl
  · change ((), (⟨(stack.node n).links.isEmpty, false⟩ : Visit)) = _
    rw [links]
    rfl
  · change ((), (⟨(stack.node m).links.isEmpty, false⟩ : Visit)) = _
    rw [first]
    rfl
  · rw [second]
    rfl

/-- The program that there is between an error and the end of the text. -/
def emptyProgram (cursor : Cursor) : SyntaxTree := (SyntaxTree.ofChildren 174 cursor []).addBonus 0

/-- The tree of a text that ends in an error shows what the error does.  The program is empty, and
the error, which may stand anywhere, becomes part of it. -/
theorem Elements.wholeTree {error : SyntaxTree} (elements : Elements error jsx) (cursor : Cursor) :
    ∃ tree, Progress.wholeTree [error, emptyProgram cursor, endLeaf cursor] = some tree ∧
      Elements tree jsx := by
  have whole : Progress.wholeTree ([error] ++ [emptyProgram cursor, endLeaf cursor]) =
      some (SyntaxTree.ofChildren 174 (emptyProgram cursor).label.before ([error] ++ [endLeaf cursor])) :=
    wholeTree_eq [error] rfl rfl
  have first : (Rose.nodesOfAll ([error] ++ [endLeaf cursor])).findSome? jsxKind = elementIf jsx := by
    rw [Rose.nodesOfAll_append, List.findSome?_append, Rose.nodesOfAll_cons, Rose.nodesOfAll_cons,
      Rose.nodesOfAll_nil, List.append_nil, List.append_nil, (endLeaf_clean cursor).first]
    exact (congrArg (Option.or · none) elements).trans Option.or_none
  exact ⟨_, whole, .ofChildren (by decide) first _⟩

/-- Before the end of the text an empty program is completed behind the error.  This is a reduction
over no trees. -/
theorem Restarts.completes {stack : Stack} {version : Version} {n : Nat}
    (restarts : Restarts stack n jsx cursor) (halted : version.status = .halted)
    (inside : version.node < stack.size) (count found : Nat) (finished : Option SyntaxTree)
    (fuel : Nat) :
    consume 1 (fuel + 1) (endLeaf cursor) ⟨stack, [version, troubled n count], finished, found⟩ =
      consume 1 fuel (endLeaf cursor)
        ⟨Array.push stack (stack.nodeOver n (some (emptyProgram cursor)) 5357),
          [version, troubled stack.size count], finished, found⟩ := by
  generalize beginning :
    (⟨stack, [version, troubled n count], finished, found⟩ : Progress) = p
  have active : p.Active 1 := by rw [← beginning]; rfl
  have few : p.versions.length ≤ maxVersions + versionOverflow := by
    rw [← beginning]
    exact Nat.le_add_left 2 _
  have state : p.state 1 = 1 := by rw [← beginning]; exact restarts.state
  have place : (p.top 1).place = cursor := by rw [← beginning]; exact restarts.place
  have popped : p.stack.pop (p.version 1).node 0 = [⟨n, [[]]⟩] := by
    rw [← beginning, Stack.pop]
    exact congrArg Prod.snd (Pile.walk_take (t := ()) true rfl (.inl rfl) _)
  have bottom : (p.stack.node n).state = 1 := by rw [← beginning]; exact restarts.state
  have apart : p.Apart 1 5357 cursor := by
    rw [← beginning]
    intro w early other
    obtain rfl : w = 0 := by
      have early : w < 2 := early
      omega
    refine ⟨inside, fun active => ?_⟩
    have active : version.status.isActive = true := active
    rw [halted] at active
    cases active
  have behind : goto (p.stack.node n).state 174 = 5357 := by
    rw [bottom]
    decide +kernel
  have made : (SyntaxTree.ofChildren 174 (p.top 1).place []).addBonus 0 = emptyProgram cursor := by
    rw [place, emptyProgram]
  have reduced := reduce_of_pop few popped (fun t mem => absurd mem List.not_mem_nil) made
    (by rw [place]; rfl) behind (by rw [place]; exact apart)
  have empty : actions 1 Symbol.endOfText = [.reduce 174 0 0] := by decide +kernel
  rw [consume_of_reduce active (endLeaf cursor) (by rw [state]; exact empty) reduced fuel,
    ← beginning]
  rfl

/-- Behind the empty program the end of the text is taken, and another tree of the whole text
competes with the one that was kept. -/
theorem Restarts.accepts {stack : Stack} {n : Nat} (restarts : Restarts stack n jsx cursor)
    (version : Version) (count found : Nat) (finished : Option SyntaxTree) :
    ∃ stack' tree, stack'.node (stack.size + 1) =
        Stack.nodeOver (Array.push stack (stack.nodeOver n (some (emptyProgram cursor)) 5357))
          stack.size (some (endLeaf cursor)) 1 ∧
      Progress.accept ⟨Array.push stack (stack.nodeOver n (some (emptyProgram cursor)) 5357),
          [version, troubled stack.size count], finished, found⟩ 1 (endLeaf cursor) =
        Progress.finish ⟨stack', [version, ⟨stack.size + 1, none, count, .halted⟩], finished, found⟩
          tree ∧
      Elements tree jsx := by
  have program : Stack.node (Array.push stack (stack.nodeOver n (some (emptyProgram cursor)) 5357))
      stack.size = stack.nodeOver n (some (emptyProgram cursor)) 5357 := node_push_size _ _
  have prolongs := Prolongs.push stack (stack.nodeOver n (some (emptyProgram cursor)) 5357)
  generalize grown : Array.push stack (stack.nodeOver n (some (emptyProgram cursor)) 5357) = middle
    at *
  have size : middle.size = stack.size + 1 := by rw [← grown, Array.size_push]
  have prolongs' := Prolongs.push middle (Stack.nodeOver middle stack.size (some (endLeaf cursor)) 1)
  have ended : Stack.node
      (Array.push middle (Stack.nodeOver middle stack.size (some (endLeaf cursor)) 1)) middle.size =
        Stack.nodeOver middle stack.size (some (endLeaf cursor)) 1 := node_push_size _ _
  have program' := (prolongs'.node stack.size (by omega)).trans program
  have some' := restarts.inside
  obtain ⟨below, error, popped, elements⟩ :=
    ((restarts.prolong prolongs).prolong prolongs').popAll (congrArg StackNode.links program')
      (congrArg StackNode.links ended) (by rw [Array.size_push]; omega)
  obtain ⟨tree, whole, elements'⟩ := elements.wholeTree cursor
  have accepted := accept_eq (p := ⟨middle, [version, troubled stack.size count], finished, found⟩)
    (v := 1) Nat.one_lt_two popped whole
  rw [size] at ended accepted
  exact ⟨_, tree, ended, accepted, elements'⟩

/-- **The text behind the error** is an empty program.  Whichever tree is chosen, its first JSX is
the same. -/
theorem Restarts.accept {stack : Stack} {version : Version} {n : Nat} (count found : Nat)
    {tree : SyntaxTree} (halted : version.status = .halted) (inside : version.node < stack.size)
    (restarts : Restarts stack n jsx cursor) (elements : Elements tree jsx) (atEnd : cursor.rest = [])
    {budget fuel : Nat} (enough : 64 ≤ budget) (positive : 0 < fuel) :
    ∃ q tree', advanceVersion budget 1 fuel cursor.offset
        ⟨stack, [version, troubled n count], some tree, found⟩ = (cursor.offset, q) ∧
      q.versions.length = 2 ∧ (∀ w ∈ q.versions, w.status = .halted) ∧
      q.finished = some tree' ∧ Elements tree' jsx := by
  have active : Progress.Active ⟨stack, [version, troubled n count], some tree, found⟩ 1 := rfl
  have state : Progress.state ⟨stack, [version, troubled n count], some tree, found⟩ 1 = 1 :=
    restarts.state
  have looks := advance_end (p := ⟨stack, [version, troubled n count], some tree, found⟩) (v := 1)
    restarts.place atEnd (by
      rw [state]
      exact .end (by decide) (by decide +kernel) (by decide +kernel) _)
    (show 1 < budget by omega)
  have reached : Progress.state
      ⟨Array.push stack (stack.nodeOver n (some (emptyProgram cursor)) 5357),
        [version, troubled stack.size count], some tree, found⟩ 1 = 5357 :=
    congrArg StackNode.state (node_push_size _ _)
  have action : actions 5357 Symbol.endOfText = [.accept] := by decide +kernel
  obtain ⟨stack', tree', ended, accepted, elements'⟩ :=
    restarts.accepts version count found (some tree)
  obtain ⟨more, rfl⟩ : ∃ more, budget = more + 2 := ⟨budget - 2, by omega⟩
  have advanced := looks.trans (restarts.completes halted inside count found (some tree) (more + 1))
  rw [consume_accept (endLeaf cursor) (by rw [reached]; exact action), accepted] at advanced
  refine ⟨_, if tree.replaces tree' then tree' else tree,
    advanceVersion_of_place cursor.offset active advanced (congrArg StackNode.place ended)
      (.inr ⟨Nat.one_pos, rfl⟩) positive, rfl, ?_, ?_, ?_⟩
  · intro w mem
    rcases List.mem_cons.mp mem with rfl | later
    · exact halted
    · rw [List.mem_singleton.mp later]
  · rw [Progress.finish]
    dsimp only
    split <;> rfl
  · split
    · exact elements'
    · exact elements

/-- **The last round**, in which all versions end.  If there is a second version, then its tree
competes with the one that was kept, and both show the same JSX. -/
theorem Broken.run (broken : Broken p jsx cursor) (atEnd : cursor.rest = []) {budget : Nat}
    (enough : 64 ≤ budget) (fuel : Nat) :
    ∃ tree, (Progress.run budget (fuel + 1) cursor.offset p).finished = some tree ∧
      Elements tree jsx := by
  obtain ⟨stack, versions, finished, accepted⟩ := p
  obtain ⟨tree, rfl, elements⟩ := broken.finished
  obtain ⟨version, rest, rfl, halted, inside, restarting⟩ := broken.versions
  have inactive : ¬(⟨stack, version :: rest, some tree, accepted⟩ : Progress).Active 0 := by
    intro active
    have active : version.status.isActive = true := active
    rw [halted] at active
    cases active
  have first := advanceAll_of_inside (p := ⟨stack, version :: rest, some tree, accepted⟩) (v := 0)
    (Nat.succ_pos _)
    (advanceVersion_of_inactive inactive budget cursor.offset budget) (show 0 < budget by omega)
  -- the version that accepted is done; only one that restarts has something left to do
  rcases restarting with rfl | ⟨n, count, rfl, restarts⟩
  · refine ⟨tree, run_of_finished (first.trans (advanceAll_of_outside (Nat.le_refl 1) _)) ?_ rfl fuel,
      elements⟩
    intro w mem
    rw [List.mem_singleton.mp mem]
    exact halted
  · obtain ⟨q, tree', advanced, two, allHalted, finished, elements'⟩ :=
      restarts.accept count accepted halted inside elements atEnd enough
        (show 0 < budget by omega)
    have second := advanceAll_of_inside
      (p := ⟨stack, [version, troubled n count], some tree, accepted⟩) (v := 1) Nat.one_lt_two
      advanced (show 0 < budget - 1 by omega)
    exact ⟨tree', run_of_finished
      (first.trans (second.trans (advanceAll_of_outside (Nat.le_of_eq two) _)))
      allHalted finished fuel, elements'⟩

/-- **The JSX of a text that ends inside a phrase.**  It is a paired element if one of the slots has
one, and otherwise there is none. -/
theorem Comes.broken {slots after upper : List Slot} {bonus : Int} {steps : Nat}
    (comes : Comes text slots []) (reads : ReadsEnd (topSlot slots) true Symbol.endOfText)
    (stalls : Stalls [] Symbol.endOfText slots after bonus)
    (completes : Completes steps after (upper ++ [⟨1, false⟩])) (few : steps ≤ maxVersions)
    (complete : lacks (topSlot (upper ++ [⟨1, false⟩])) = false) (nonempty : upper ≠ [])
    (idle : ∀ s ∈ upper, acts s.state Symbol.endOfText = false) :
    Elements (parse text) (upper.any Slot.jsx) := by
  obtain ⟨fuel, cursor, stack, i, runs, enough, -, chars, stands⟩ := comes
  have budget := le_budgetFor text
  obtain ⟨fs, pile, shown⟩ := stands.pile
  have sound := stands.sound (p := among stack [going i]) (v := 0) rfl rfl
  have alone : OthersAmong (among stack [going i]) 0 [] :=
    fun w inside other => absurd (Nat.lt_one_iff.mp inside) other
  -- The version stops, and then enters the error.
  obtain ⟨q, moved, stops⟩ := consume_of_stalls sound.active (Nat.le_add_left 1 _) pile shown
    alone (endLeaf cursor) stalls (Nat.lt_of_lt_of_le (by decide) budget)
  rw [← stands.readingEnd chars reads (by omega)] at stops
  obtain ⟨stack', i', rfl, -, stands', -⟩ := moved.among Nat.one_pos rfl stalls.outside
  rw [show ((among stack [going i]).top 0).place = cursor from stands.place] at stands'
  have advanced := advanceVersion_of_stop cursor.offset sound.active stops
    Bool.false_ne_true stands'.place (by omega) (show 0 < budgetFor text.length by omega)
  have all := (advanceAll_of_inside Nat.one_pos advanced
    (show 0 < budgetFor text.length by omega)).trans (advanceAll_of_outside (Nat.le_refl 1) _)
  obtain ⟨least, condensed⟩ := condense_paused stack' i' (endLeaf cursor) (budgetFor text.length)
  have broken := stands'.handleError (stack'.node i').nodeCount completes few complete
    nonempty idle (show steps + 1 < budgetFor text.length by have : maxVersions = 6 := rfl; omega)
  have last := run_cases all condensed (fuel - 1)
  rw [Nat.sub_add_cancel (by omega), ← runs] at last
  obtain ⟨tree, finished, elements⟩ : ∃ tree,
      (run (budgetFor text.length) (budgetFor text.length) 0 (Progress.start text)).finished = some tree ∧
        Elements tree (upper.any Slot.jsx) := by
    rcases last with same | same
    · rw [same]
      exact broken.finished
    · rw [same, ← Nat.sub_add_cancel (by omega : 1 ≤ fuel - 1)]
      exact broken.run chars budget _
  rw [parse_of_finished finished]
  exact elements

end

end JsxDetect.Parse
