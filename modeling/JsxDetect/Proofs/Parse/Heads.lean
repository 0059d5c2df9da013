import Mathlib.Data.List.InsertIdx
import JsxDetect.Proofs.Parse.AllReductions
import JsxDetect.Proofs.Parse.Region

/-!
# Versions in a region

What a version does next depends on the state and the place of the node on top of its stack.  Its
`Head` is just that, with how it stands, and a parse is here followed by the list of the heads of
its versions: each operation changes this list in a way that is told without the stack, as long as
the stack stays in a `Region`.

## Main Definitions

* `Head`, `Progress.heads`: where the versions are
* `Region.Carries`: the stack of a parse is in a region, and all versions are on it
* `Continues`: a stack goes on as another one

## Main Results

* `Region.Carries.push`, `Region.Carries.new`, `Region.Carries.merge`: what happens to the heads

## Design Notes

**Why heads.**  A parse consists of a stack with shared nodes and of versions that point into it,
and its operations renumber both.  In a `Region` all nodes are alike up to state and place, so the
list of heads determines what the versions do next.  Statements about a round are equations between
lists of heads, where a version has an index, `set` replaces it, `eraseIdx` drops it and `++` adds
some, and they are composed by the lemmas about lists.

**What is kept beside the heads.**  `Carries` is what every operation must preserve: the stack is in
the region and no version points beside it.  `Continues` is how the stack of a later state relates
to that of an earlier one, and carries over what was known of an old node.  It is weaker than
`KeepsFirstLinks` in one respect, as the stack may have grown, and this is why it is a relation of
its own.

**How the rules read.**  `push`, `new`, `setVersion`, `merge` and `replace` have the same three
parts: the parse is carried, the new heads in terms of the old, and `Continues`.  Nothing in later
modules opens an operation of `Progress` that is covered here.
-/

namespace JsxDetect.Parse

open Automaton Stack SyntaxTree

/-! ### Stacks that go on -/

/-- A stack goes on as another one: its nodes keep their states, places and first links.  Nodes may
have been added, and old nodes may have been given more links behind the first. -/
structure Continues (stack stack' : Stack) : Prop where
  size : stack.size ≤ stack'.size
  state : ∀ i < stack.size, (stack'.node i).state = (stack.node i).state
  place : ∀ i < stack.size, (stack'.node i).place = (stack.node i).place
  first : ∀ i < stack.size, ∀ link links, (stack.node i).links = link :: links →
    ∃ links', (stack'.node i).links = link :: links'

namespace Continues

variable {stack stack' stack'' : Stack}

theorem refl (stack : Stack) : Continues stack stack :=
  ⟨Nat.le_refl _, fun _ _ => rfl, fun _ _ => rfl, fun _ _ _ _ same => ⟨_, same⟩⟩

/-- Several operations, one after the other: first links are kept by each, hence by all. -/
theorem trans (one : Continues stack stack') (two : Continues stack' stack'') :
    Continues stack stack'' := by
  refine ⟨Nat.le_trans one.size two.size, fun i inside => ?_, fun i inside => ?_,
    fun i inside link links same => ?_⟩
  · rw [two.state i (Nat.lt_of_lt_of_le inside one.size), one.state i inside]
  · rw [two.place i (Nat.lt_of_lt_of_le inside one.size), one.place i inside]
  · obtain ⟨links', same⟩ := one.first i inside link links same
    exact two.first i (Nat.lt_of_lt_of_le inside one.size) link links' same

/-- Changing links, as the addition of one does, lets the stack go on. -/
theorem of_keepsFirstLinks (steady : KeepsFirstLinks stack stack') : Continues stack stack' :=
  ⟨Nat.le_of_eq steady.shape.size.symm, fun i _ => steady.shape.state i,
    fun i _ => steady.shape.place i, fun _ _ _ _ same => steady.first same⟩

/-- **Pushing a tree** on a version.  Its head becomes the state and the end of the tree, and the
other versions, which may share nodes with it, stay what they are. -/
theorem push (stack : Stack) (n : StackNode) : Continues stack (Array.push stack n) where
  size := by rw [Array.size_push]; exact Nat.le_succ _
  state i inside := by rw [node_push_of_lt n inside]
  place i inside := by rw [node_push_of_lt n inside]
  first i inside link links same := ⟨links, by rw [node_push_of_lt n inside, same]⟩

theorem live (continues : Continues stack stack') {i : Nat} (live : LiveNode stack i) :
    LiveNode stack' i :=
  ⟨Nat.lt_of_lt_of_le live.inside continues.size,
    by rw [continues.state i live.inside]; exact live.first⟩

/-- A node goes on to lie right above the same place.  The region is needed for the node to have a
first link at all: of one without links the bound would say nothing, and a link added later could be
any. -/
theorem low {R : Region} (continues : Continues stack stack') (holds : R.Holds stack) {i bound : Nat}
    (live : LiveNode stack i) (other : (stack.node i).state ≠ 1) (low : FirstLinkWithin stack i bound) :
    FirstLinkWithin stack' i bound := by
  obtain ⟨link, links, same⟩ := List.exists_cons_of_ne_nil ((holds i live).linked other)
  obtain ⟨links', same'⟩ := continues.first i live.inside link links same
  intro link' others again
  rw [same'] at again
  obtain ⟨rfl, -⟩ := List.cons.inj again
  have below : link ∈ (stack.node i).links := same ▸ List.mem_cons_self
  rw [continues.place _ ((holds i live).links link below).live.inside]
  exact low link links same

end Continues

/-! ### Heads -/

/-- Where a version is, and how it stands. -/
structure Head where
  state : StateId
  place : Cursor
  status : Status

namespace Head

/-- Does the version go on? -/
def isActive (h : Head) : Bool := h.status.isActive

theorem eq_of_active {h : Head} (active : h.isActive = true) {state : StateId} {place : Cursor}
    (sameState : h.state = state) (samePlace : h.place = place) : h = ⟨state, place, .active⟩ := by
  obtain ⟨_, _, status⟩ := h
  subst sameState samePlace
  cases status with
  | active => rfl
  | _ => cases active

end Head

/-- Where a version is. -/
def Stack.head (stack : Stack) (v : Version) : Head :=
  ⟨(stack.node v.node).state, (stack.node v.node).place, v.status⟩

namespace Progress

/-- Where the versions are. -/
def heads (p : Progress) : List Head := p.versions.map p.stack.head

/-- Where a version is. -/
def head (p : Progress) (v : Nat) : Head := p.stack.head (p.version v)

variable {p q : Progress} {v w : Nat}

@[simp] theorem length_heads : p.heads.length = p.versions.length := List.length_map ..

theorem heads_getElem? (inside : v < p.versions.length) : p.heads[v]? = some (p.head v) := by
  rw [heads, List.getElem?_map, List.getElem?_eq_getElem inside, head, version_eq_getElem inside]
  rfl

theorem head_of_getElem? {h : Head} (here : p.heads[v]? = some h) :
    v < p.versions.length ∧ p.head v = h := by
  have inside := (List.getElem?_eq_some_iff.mp here).1
  rw [length_heads] at inside
  rw [heads_getElem? inside] at here
  exact ⟨inside, Option.some.inj here⟩

theorem isEmpty_of_heads {h : Head} (mem : h ∈ p.heads) : p.versions.isEmpty = false := by
  obtain ⟨u, inside, -⟩ := List.mem_map.mp mem
  exact List.isEmpty_eq_false_iff.mpr (List.ne_nil_of_mem inside)

theorem active_iff_head : p.Active v ↔ (p.head v).isActive = true := Iff.rfl

/-! A version has become another one, and has left some behind all that there were. -/

section

variable {h : Head} {extras : List Head} (heads : q.heads = p.heads.set v h ++ extras)

include heads

theorem length_of_heads : q.versions.length = p.versions.length + extras.length := by
  rw [← q.length_heads, heads, List.length_append, List.length_set, p.length_heads]

theorem heads_self (inside : v < p.versions.length) : q.heads[v]? = some h := by
  rw [heads, List.getElem?_append_left (by rw [List.length_set, p.length_heads]; exact inside),
    List.getElem?_set_self (by rw [p.length_heads]; exact inside)]

theorem heads_of_ne (inside : w < p.versions.length) (other : w ≠ v) : q.heads[w]? = p.heads[w]? := by
  rw [heads, List.getElem?_append_left (by rw [List.length_set, p.length_heads]; exact inside),
    List.getElem?_set_ne other.symm]

theorem heads_of_le (behind : p.versions.length ≤ w) :
    q.heads[w]? = extras[w - p.versions.length]? := by
  rw [heads, List.getElem?_append_right (by rw [List.length_set, p.length_heads]; exact behind),
    List.length_set, p.length_heads]

/-- If the version goes on to become yet another one, then what both steps have left behind comes in
this order.  So a whole turn of a version is told in the same form as each of its steps. -/
theorem heads_trans {r : Progress} {h' : Head} {extras' : List Head} (inside : v < p.versions.length)
    (later : r.heads = q.heads.set v h' ++ extras') :
    r.heads = p.heads.set v h' ++ (extras ++ extras') := by
  rw [later, heads, List.set_append_left _ _ (by rw [List.length_set, p.length_heads]; exact inside),
    List.set_set, List.append_assoc]

end

end Progress

/-- A version is on a stack.  One that has ended may be on a node that no reading stands on, since
the end of a whole text is in the first state, too. -/
structure Rests (stack : Stack) (v : Version) : Prop where
  inside : v.node < stack.size
  live : v.status ≠ .halted → LiveNode stack v.node

theorem Rests.continues {stack stack' : Stack} {v : Version} (rests : Rests stack v)
    (continues : Continues stack stack') : Rests stack' v :=
  ⟨Nat.lt_of_lt_of_le rests.inside continues.size, fun going => continues.live (rests.live going)⟩

/-- The heads of some versions stay when the stack goes on. -/
theorem Continues.map_head {stack stack' : Stack} (continues : Continues stack stack')
    {versions : List Version} (rest : ∀ v ∈ versions, Rests stack v) :
    versions.map stack'.head = versions.map stack.head := by
  refine List.map_congr_left fun v mem => ?_
  rw [Stack.head, Stack.head, continues.state _ (rest v mem).inside,
    continues.place _ (rest v mem).inside]

/-- Counting the nodes of a version anew changes neither its head nor its node. -/
theorem recounted {stack : Stack} {versions : List Version} {v : Nat}
    (rest : ∀ u ∈ versions, Rests stack u) (inside : v < versions.length)
    (live : LiveNode stack (versions.getD v default).node) (count : Nat) :
    (∀ u ∈ versions.set v { versions.getD v default with countAtError := count }, Rests stack u) ∧
      (versions.set v { versions.getD v default with countAtError := count }).map stack.head =
        versions.map stack.head ∧
      ∀ u, ((versions.set v { versions.getD v default with countAtError := count }).getD u
        default).node = (versions.getD u default).node := by
  refine ⟨fun u mem => ?_, ?_, fun u => ?_⟩
  · rcases List.mem_or_eq_of_mem_set mem with old | rfl
    · exact rest u old
    · exact ⟨live.inside, fun _ => live⟩
  · have here : stack.head { versions.getD v default with countAtError := count } =
        stack.head (versions.getD v default) := rfl
    rw [List.map_set, here]
    refine List.ext_getElem? fun u => ?_
    by_cases same : v = u
    · subst same
      rw [List.getElem?_set_self (by simpa using inside), List.getElem?_map,
        List.getElem?_eq_getElem inside, List.getD_eq_getElem?_getD, List.getElem?_eq_getElem inside]
      rfl
    · rw [List.getElem?_set_ne same]
  · by_cases same : v = u
    · subst same
      rw [List.getD_eq_getElem?_getD, List.getElem?_set_self inside]
      rfl
    · rw [List.getD_eq_getElem?_getD, List.getElem?_set_ne same, ← List.getD_eq_getElem?_getD]

/-! ### Parses in a region -/

namespace Region

/-- The stack of a parse is in a region, and all versions are on it.  A tree that was kept for the
whole text is one without errors. -/
structure Carries (R : Region) (p : Progress) : Prop where
  stack : R.Holds p.stack
  rest : ∀ v ∈ p.versions, Rests p.stack v
  finished : ∀ t, p.finished = some t → t.Clean false

namespace Carries

variable {R : Region} {p q : Progress} {v w : Nat} (carries : Carries R p)

include carries

theorem node_inside (inside : v < p.versions.length) : (p.version v).node < p.stack.size :=
  (carries.rest _ (Progress.version_mem inside)).inside

theorem node_live (active : p.Active v) : LiveNode p.stack (p.version v).node :=
  (carries.rest _ (Progress.version_mem active.inside)).live fun halted => by
    rw [Progress.Active, halted] at active
    cases active

theorem nodeOk (active : p.Active v) : R.NodeOk p.stack (p.version v).node :=
  carries.stack _ (carries.node_live active)

/-! ### Pushing -/

/-- **Pushing a tree** on a version. -/
theorem push {n : Nat} {t : SyntaxTree} {state : StateId} (active : p.Active v)
    (fits : R.fits state n) (stop : t.label.stop = R.place n) (neutral : t.Neutral) (other : state ≠ 1)
    (under : p.state v ∈ R.under state) (order : (p.top v).place.offset ≤ (R.place n).offset)
    (rises : R.rising state → (p.top v).place.offset < (R.place n).offset) :
    Carries R (p.push v (some t) state) ∧
      (p.push v (some t) state).heads =
        p.heads.set v ⟨state, R.place n, .active⟩ ∧ Continues p.stack (p.push v (some t) state).stack := by
  have inside := active.inside
  have live := carries.node_live active
  have size : (p.push v (some t) state).stack.size = p.stack.size + 1 := Array.size_push ..
  have continues := Continues.push p.stack (p.stack.nodeOver (p.version v).node (some t) state)
  refine ⟨⟨carries.stack.push live fits stop neutral under order rises, fun u mem => ?_,
    carries.finished⟩, ?_, continues⟩
  · rcases List.mem_or_eq_of_mem_set mem with old | rfl
    · exact (carries.rest u old).continues continues
    · refine ⟨size ▸ Nat.lt_succ_self _, fun _ => ⟨size ▸ Nat.lt_succ_self _, fun isFirst => ?_⟩⟩
      refine absurd (Eq.trans ?_ isFirst) other
      rw [p.push_stack, node_push_size]
      rfl
  · have old := continues.map_head carries.rest
    obtain ⟨top, status⟩ := p.version_push_self v (some t) state inside
    refine List.ext_getElem? fun u => ?_
    by_cases same : u = v
    · subst same
      have inside' : u < (p.push u (some t) state).versions.length := by
        rw [p.length_push]
        exact inside
      rw [Progress.heads_getElem? inside', List.getElem?_set_self (by simpa using inside)]
      refine congrArg some (Head.eq_of_active ?_ ?_ ?_)
      · rw [Progress.head, Stack.head, Head.isActive, status]
        exact active
      · rw [Progress.head, Stack.head, top, p.push_stack, node_push_size]
        rfl
      · rw [Progress.head, Stack.head, top, p.push_stack, node_push_size]
        exact stop
    · rw [List.getElem?_set_ne (Ne.symm same)]
      refine Eq.trans ?_ (congrArg (·[u]?) old)
      change (List.map _ (p.versions.set v _))[u]? = (List.map _ p.versions)[u]?
      rw [List.getElem?_map, List.getElem?_map, List.getElem?_set_ne (Ne.symm same)]
      rfl

/-- **A new version** with a tree on a node.  It comes behind the others and lies right above the
node, which is what `FirstLinkWithin` says of it. -/
theorem new (v : Nat) {node n : Nat} {t : SyntaxTree} {state : StateId} (live : LiveNode p.stack node)
    (fits : R.fits state n) (stop : t.label.stop = R.place n) (neutral : t.Neutral) (other : state ≠ 1)
    (under : (p.stack.node node).state ∈ R.under state)
    (order : (p.stack.node node).place.offset ≤ (R.place n).offset)
    (rises : R.rising state → (p.stack.node node).place.offset < (R.place n).offset) :
    Carries R ((p.addAt v node).push p.versions.length (some t) state) ∧
      ((p.addAt v node).push p.versions.length (some t) state).heads =
        p.heads ++ [⟨state, R.place n, .active⟩] ∧
      Continues p.stack ((p.addAt v node).push p.versions.length (some t) state).stack ∧
      ((p.addAt v node).push p.versions.length (some t) state).version p.versions.length =
        ⟨p.stack.size, none, (p.version v).countAtError, .active⟩ ∧
      FirstLinkWithin ((p.addAt v node).push p.versions.length (some t) state).stack p.stack.size
        (p.stack.node node).place.offset := by
  rw [ProgressOk.addAt_push]
  have continues := Continues.push p.stack (p.stack.nodeOver node (some t) state)
  have size : (Array.push p.stack (p.stack.nodeOver node (some t) state)).size = p.stack.size + 1 :=
    Array.size_push ..
  refine ⟨⟨carries.stack.push live fits stop neutral under order rises, fun u mem => ?_,
    carries.finished⟩, ?_, continues, Progress.version_append_self, ?_⟩
  · rcases List.mem_append.mp mem with old | new
    · exact (carries.rest u old).continues continues
    · rw [List.mem_singleton.mp new]
      refine ⟨size ▸ Nat.lt_succ_self _, fun _ => ⟨size ▸ Nat.lt_succ_self _, fun isFirst => ?_⟩⟩
      refine absurd (Eq.trans ?_ isFirst) other
      rw [node_push_size]
      rfl
  · rw [Progress.heads, List.map_append, continues.map_head carries.rest, List.map_singleton,
      Stack.head, node_push_size]
    exact congrArg (p.heads ++ [·]) (congrArg (Head.mk state · _) stop)
  · intro link others links
    rw [node_push_size, nodeOver] at links
    obtain ⟨rfl, -⟩ := List.cons.inj links
    rw [node_push_of_lt _ live.inside]

/-- **Changing how a version stands**, by which its node and the stack do not change.  Stopping a
version and ending it are two cases. -/
theorem setVersion (new : Version) (active : p.Active v) (node : new.node = (p.version v).node) :
    Carries R (p.setVersion v new) ∧ (p.setVersion v new).heads =
      p.heads.set v ⟨(p.head v).state, (p.head v).place, new.status⟩ := by
  refine ⟨⟨carries.stack, fun u mem => ?_, carries.finished⟩, ?_⟩
  · rcases List.mem_or_eq_of_mem_set mem with old | rfl
    · exact carries.rest u old
    · exact ⟨by rw [node]; exact carries.node_inside active.inside,
        fun _ => by rw [node]; exact carries.node_live active⟩
  · rw [Progress.heads, Progress.heads, Progress.setVersion, List.map_set, Stack.head, node]
    rfl

/-! ### Joining -/

/-- **Joining two versions** drops the head of the one that is joined.  They were both going on, in
the same state at the same place, so the list of heads without the one tells of the same readings.
-/
theorem merge (merged : p.merge v w = some q) :
    Carries R q ∧ q.heads = p.heads.eraseIdx w ∧ Continues p.stack q.stack ∧
      q.finished = p.finished ∧ p.Active v ∧ p.Active w ∧
      (p.head v).state = (p.head w).state ∧ (p.head v).place = (p.head w).place ∧
      ∀ u < w, (q.version u).node = (p.version u).node := by
  rw [Progress.merge] at merged
  split at merged
  · next can =>
    obtain ⟨stack, versions, finished, accepted⟩ := p
    rw [Progress.canMerge, Bool.and_eq_true, Bool.and_eq_true] at can
    obtain ⟨⟨activeV, activeW⟩, joins⟩ := can
    obtain ⟨state, offset⟩ := joins_iff joins
    have activeV : (Progress.mk stack versions finished accepted).Active v := activeV
    have activeW : (Progress.mk stack versions finished accepted).Active w := activeW
    have liveV := carries.node_live activeV
    have liveW := carries.node_live activeW
    have place := carries.stack.place_eq liveV liveW offset
    obtain ⟨holds, steady⟩ := Holds.foldl_links (Stack.addLink (stack.size + 1))
      (fun holds live ok => holds.addLink _ live ok) carries.stack liveV fun l mem =>
        ((carries.stack _ liveW).links l mem).of_joins state place
    have continues := Continues.of_keepsFirstLinks steady
    dsimp only at merged
    generalize chosen : (if _ = 0 then _ else versions) = versions' at merged
    have either : versions' = versions ∨ ∃ count,
        versions' = versions.set v { versions.getD v default with countAtError := count } := by
      rw [← chosen]
      split
      · exact .inr ⟨_, rfl⟩
      · exact .inl rfl
    obtain ⟨all, same, nodes⟩ : (∀ u ∈ versions', Rests stack u) ∧
        versions'.map stack.head = versions.map stack.head ∧
        ∀ u, (versions'.getD u default).node = (versions.getD u default).node := by
      rcases either with rfl | ⟨count, rfl⟩
      · exact ⟨carries.rest, rfl, fun _ => rfl⟩
      · exact recounted carries.rest activeV.inside liveV count
    cases merged
    refine ⟨⟨holds, fun u mem => ?_, carries.finished⟩, ?_, continues, rfl, activeV, activeW, state,
      place, fun u earlier => ?_⟩
    · exact (all u (List.mem_of_mem_eraseIdx mem)).continues continues
    · refine Eq.trans (continues.map_head fun u mem => all u (List.mem_of_mem_eraseIdx mem)) ?_
      rw [← List.eraseIdx_map, same]
      rfl
    · rw [version_eraseIdx, if_pos earlier]
      exact nodes u
  · cases merged

/-- Versions that can be joined are joined: two of them that go on in the same state are kept apart
only if they lie at different places.  Costs play no part in it, for there are none in a region. -/
theorem not_merge (none : p.merge v w = none) (activeV : p.Active v) (activeW : p.Active w)
    (state : (p.head v).state = (p.head w).state) :
    (p.head v).place.offset ≠ (p.head w).place.offset := by
  intro place
  rw [Progress.merge] at none
  split at none
  · cases none
  · next cannot =>
    refine cannot ?_
    have costV := (carries.nodeOk activeV).cost
    have costW := (carries.nodeOk activeW).cost
    change (p.stack.node _).state = (p.stack.node _).state at state
    change (p.stack.node _).place.offset = (p.stack.node _).place.offset at place
    rw [Progress.canMerge, show (p.version v).status.isActive = true from activeV,
      show (p.version w).status.isActive = true from activeW, Stack.joins, state, place, costV, costW]
    simp

/-! ### Going on as another version -/

/-- **A version goes on as a later one**, and the later one is gone.  The stack is not touched.
Those between the two keep their numbers, and those behind move up. -/
theorem replace (order : v < w) (inside : w < p.versions.length) :
    Carries R (p.replace v w) ∧ (p.replace v w).heads = (p.heads.set v (p.head w)).eraseIdx w ∧
      (p.replace v w).stack = p.stack ∧ (p.replace v w).finished = p.finished ∧
      ((p.replace v w).version v).node = (p.version w).node := by
  have other := Nat.ne_of_lt order
  have insideV := Nat.lt_trans order inside
  obtain ⟨retreats, moved⟩ : ∃ retreats, p.replace v w =
      (p.setVersion v { p.version w with retreats }).remove w :=
    ⟨_, by rw [Progress.replace, if_neg other]⟩
  rw [moved]
  have same : p.stack.head { p.version w with retreats } = p.head w := rfl
  refine ⟨⟨carries.stack, fun u mem => ?_, carries.finished⟩, ?_, rfl, rfl, ?_⟩
  · rcases List.mem_or_eq_of_mem_set (List.mem_of_mem_eraseIdx mem) with old | rfl
    · exact carries.rest u old
    · have rests := carries.rest _ (Progress.version_mem inside)
      exact ⟨rests.inside, rests.live⟩
  · change ((p.versions.set v { p.version w with retreats }).eraseIdx w).map p.stack.head = _
    rw [← List.eraseIdx_map, List.map_set, same]
    rfl
  · rw [version_remove, if_pos order, Progress.version_setVersion, if_pos ⟨rfl, insideV⟩]

end Carries

/-- A version that is joined to one of some others is joined to it: there is a single `merge` in it
that succeeds. -/
theorem merge_of_mergeInto {p q : Progress} {w : Nat} {vs : List Nat}
    (merged : p.mergeInto w vs = some q) : ∃ v ∈ vs, p.merge v w = some q := by
  induction vs with
  | nil => cases merged
  | cons v vs ih =>
    rw [Progress.mergeInto] at merged
    split at merged
    · next here =>
      cases merged
      exact ⟨v, List.mem_cons_self, here⟩
    · obtain ⟨u, mem, here⟩ := ih merged
      exact ⟨u, List.mem_cons_of_mem _ mem, here⟩

/-- If it is joined to none of them, then each single `merge` fails. -/
theorem not_merge_of_mergeInto {p : Progress} {w : Nat} {vs : List Nat}
    (cannot : p.mergeInto w vs = none) : ∀ v ∈ vs, p.merge v w = none := by
  induction vs with
  | nil => exact List.forall_mem_nil _
  | cons v vs ih =>
    rw [Progress.mergeInto] at cannot
    split at cannot
    · cases cannot
    · next here => exact List.forall_mem_cons.mpr ⟨here, ih cannot⟩

end Region

end JsxDetect.Parse
