import JsxDetect.Proofs.Parse.EndOfText
import JsxDetect.Proofs.Parse.Phrases

/-!
# The end of the text in a region

A version in a `Region` that ends at the end of the text gives a tree of the whole text, and this is
without errors and JSX, as are all trees below the version.

## Main Results

* `Region.Holds.wholeTree`: the trees that the ways down give
* `Region.Carries.accept`: the end of a version

## Design Notes

**Two halves.**  That each way down gives a tree without errors is read off what a region says of
nodes, `Holds.wholeTree`.  That there is a way down at all is another matter, as a search is limited
in the number of steps and ways.  In the applications the version is one tree above the beginning,
so two steps along first links suffice, `popAll_ne_nil`.

**The choice between trees is not followed.**  Several ways may give several trees, and the best of
them is kept, by cost and by order.  All candidates are without errors and JSX, so
`clean_foldl_finish` says what is needed of any fold over them.
-/

namespace JsxDetect

open Parse Automaton Stack SyntaxTree

namespace Parse

/-! ### Ways to the bottom -/

namespace Stack

variable {stack : Stack} {fuel : Nat} {p : Path} {paths : List Path} {popped : List Popped}

/-- The question whether a way down has come to the bottom. -/
def atBottom (stack : Stack) : Unit → Path → Unit × Visit :=
  fun _ p => ((), ⟨(stack.node p.node).links.isEmpty, false⟩)

/-- The first way goes on over the first link.  What becomes of the others is left open. -/
theorem walk_atBottom_down (fuel : Nat) (paths : List Path) (popped : List Popped) {first : Link}
    {others : List Link} (links : (stack.node p.node).links = first :: others) :
    ∃ later popped', walk (atBottom stack) stack (fuel + 1) () (p :: paths) popped =
      walk (atBottom stack) stack fuel () (p.over first :: later) popped' := by
  obtain ⟨⟨later, same⟩, -⟩ := round_kept stack (atBottom stack) paths ()
    [p.over first] (branch p others ([].length + 1 + paths.length + [].length) []) popped
  refine ⟨later, (round (atBottom stack) stack (p :: paths) () [] [] popped).2.2, ?_⟩
  have begins : (round (atBottom stack) stack (p :: paths) () [] [] popped).2.1 =
      p.over first :: later := by
    rw [round, atBottom, links]
    exact same
  rw [walk]
  · dsimp only
    rw [begins]
  · exact List.cons_ne_nil _ _

/-- A way that has come to the bottom is recorded, so that the result is not empty whatever follows.
-/
theorem walk_atBottom_ends (links : (stack.node p.node).links = []) :
    (walk (atBottom stack) stack (fuel + 1) () (p :: paths) popped).2 ≠ [] := by
  have recorded := record_first p.node p.trees popped
  obtain ⟨-, kept⟩ := round_kept stack (atBottom stack) paths () [] []
    (record p.node p.trees popped)
  have begins : (round (atBottom stack) stack (p :: paths) () [] [] popped).2.2.head?.map Popped.node =
      some ((popped.head?.map Popped.node).getD p.node) := by
    rw [round, atBottom, links]
    exact kept _ recorded
  intro none
  rw [walk] at none
  · dsimp only at none
    have stays := walk_first stack (atBottom stack) fuel ()
      (round (atBottom stack) stack (p :: paths) () [] [] popped).2.1 begins
    rw [none] at stays
    cases stays
  · exact List.cons_ne_nil _ _

theorem inhabited_popAll (stack : Stack) (i : Nat) : Inhabited (stack.popAll i) :=
  (recorded_walk_start stack (atBottom stack) () ⟨i, [], 0⟩ (stack.size + 1)).2

/-- There is a way to the bottom over two links, found along the first ones. -/
theorem popAll_ne_nil {i : Nat} {one two : Link} {others others' : List Link}
    (links : (stack.node i).links = one :: others)
    (links' : (stack.node one.below).links = two :: others')
    (bottom : (stack.node two.below).links = []) (size : 2 ≤ stack.size) : stack.popAll i ≠ [] := by
  obtain ⟨more, size⟩ : ∃ more, stack.size + 1 = more + 1 + 1 + 1 := ⟨stack.size - 2, by omega⟩
  have below (p : Path) (link : Link) : (p.over link).node = link.below := by
    rw [Path.over]
    cases link.tree <;> rfl
  obtain ⟨later, popped, down⟩ := walk_atBottom_down (p := ⟨i, [], 0⟩) (more + 1 + 1) [] [] links
  obtain ⟨later', popped', down'⟩ := walk_atBottom_down (p := Path.over ⟨i, [], 0⟩ one) (more + 1) later
    popped (by rw [below]; exact links')
  have all : stack.popAll i = (walk (atBottom stack) stack (stack.size + 1) () [⟨i, [], 0⟩] []).2 := rfl
  rw [all, size, down, down']
  exact walk_atBottom_ends (by rw [below]; exact bottom)

end Stack

/-! ### The end of a version -/

namespace Progress

theorem stack_foldl_finish (p : Progress) (ts : List SyntaxTree) :
    (ts.foldl finish p).stack = p.stack ∧ (ts.foldl finish p).versions = p.versions := by
  induction ts generalizing p with
  | nil => exact ⟨rfl, rfl⟩
  | cons t ts ih => exact ih (p.finish t)

/-- The best of some trees without errors and JSX is one as well; and there is one, if there was one
before or is one among them. -/
theorem clean_foldl_finish (p : Progress) (ts : List SyntaxTree)
    (old : ∀ t, p.finished = some t → t.Clean false) (new : ∀ t ∈ ts, t.Clean false) :
    (∀ t, (ts.foldl finish p).finished = some t → t.Clean false) ∧
      ((p.finished.isSome ∨ ts ≠ []) → (ts.foldl finish p).finished.isSome) := by
  induction ts generalizing p with
  | nil => exact ⟨old, fun either => either.resolve_right fun other => other rfl⟩
  | cons t ts ih =>
    obtain ⟨here, later⟩ := List.forall_mem_cons.mp new
    have found : (p.finish t).finished.isSome ∧ ∀ u, (p.finish t).finished = some u → u.Clean false := by
      rw [finish]
      dsimp only
      split
      · exact ⟨rfl, by rintro _ ⟨⟩; exact here⟩
      · next u known =>
        split
        · exact ⟨rfl, by rintro _ ⟨⟩; exact here⟩
        · exact ⟨rfl, by rintro _ ⟨⟩; exact old u known⟩
    obtain ⟨clean, isSome⟩ := ih (p.finish t) found.2 later
    exact ⟨clean, fun _ => isSome (.inl found.1)⟩

/-- So is the best tree that some ways down give, if each gives one. -/
theorem clean_foldl_wholeTree (p : Progress) {ways : List (List SyntaxTree)}
    (whole : ∀ trees ∈ ways, ∃ tree, wholeTree trees = some tree ∧ tree.Clean false)
    (nonempty : ways ≠ [])
    (old : ∀ t, p.finished = some t → t.Clean false) :
    (∀ t, ((ways.filterMap wholeTree).foldl finish p).finished = some t → t.Clean false) ∧
      ((ways.filterMap wholeTree).foldl finish p).finished.isSome := by
  have new : ∀ t ∈ ways.filterMap wholeTree, t.Clean false := by
    intro t mem
    obtain ⟨trees, way, same⟩ := List.mem_filterMap.mp mem
    obtain ⟨tree, same', clean⟩ := whole trees way
    rw [same] at same'
    exact Option.some.inj same' ▸ clean
  obtain ⟨clean, found⟩ := p.clean_foldl_finish (ways.filterMap wholeTree) old new
  refine ⟨clean, found (.inr ?_)⟩
  obtain ⟨trees, way⟩ := List.exists_mem_of_ne_nil _ nonempty
  obtain ⟨tree, same, -⟩ := whole trees way
  exact List.ne_nil_of_mem (List.mem_filterMap.mpr ⟨trees, way, same⟩)

end Progress

namespace Region

variable {R : Region} {p : Progress} {v : Nat}

/-- The trees on a way down from a version whose last tree ends the text.  Those below it are
neutral. -/
theorem Holds.ending {stack : Stack} (holds : R.Holds stack) {start : Nat} (live : LiveNode stack start)
    {last : SyntaxTree} {count : Nat} {q : Path}
    (reached : Reached stack (fun _ => True) ⟨start, [last], count⟩ q) :
    LiveNode stack q.node ∧ ∃ ts, q.trees = ts ++ [last] ∧ (∀ t ∈ ts, t.Neutral) ∧ (ts = [] → q.node = start) := by
  induction reached with
  | start => exact ⟨live, [], rfl, List.forall_mem_nil _, fun _ => rfl⟩
  | @above q link before stay mem ih =>
    obtain ⟨liveQ, ts, trees, neutral, -⟩ := ih
    have ok := (holds _ liveQ).links link mem
    obtain ⟨t, tree, tidyT, -⟩ := ok.tree
    rw [Path.over_some tree]
    exact ⟨ok.live, t :: ts, by rw [trees]; rfl, List.forall_mem_cons.mpr ⟨tidyT, neutral⟩,
      fun none => by cases none⟩

/-- **Each way down gives a tree of the whole text**, when the end of the text stands over some node
that is not the first one. -/
theorem Holds.wholeTree {stack : Stack} (holds : R.Holds stack) {start top : Nat}
    (live : LiveNode stack start)
    {last : SyntaxTree} (links : (stack.node top).links = [⟨start, some last⟩])
    (linked : (stack.node start).links ≠ []) (clean : last.Clean false) (extra : last.extra = true) :
    ∀ trees ∈ (stack.popAll top).flatMap (·.paths),
      ∃ tree, Progress.wholeTree trees = some tree ∧ tree.Clean false := by
  intro trees way
  obtain ⟨k, listed, way⟩ := List.mem_flatMap.mp way
  obtain ⟨path, reached, ends, rfl⟩ := recorded_popAll _ _ k listed trees way
  rcases reached.first with rfl | ⟨l, mem, reached⟩
  · rw [links] at ends
    cases ends
  · rw [links] at mem
    rw [List.mem_singleton.mp mem, Path.over_some rfl] at reached
    -- the way has come over a tree when it ends
    obtain ⟨-, ts, same, neutral, only⟩ := holds.ending live reached
    have nonempty : ts ≠ [] := fun none => linked (by rw [← only none]; exact ends)
    obtain ⟨earlier, root, rfl⟩ : ∃ earlier root, ts = earlier ++ [root] :=
      ⟨_, _, (List.dropLast_append_getLast nonempty).symm⟩
    have rootNeutral := neutral root (List.mem_append_right _ (List.mem_singleton.mpr rfl))
    rw [same, List.append_assoc]
    exact wholeTree_clean (fun t mem => (neutral t (List.mem_append_left _ mem)).clean) rootNeutral.clean
      rootNeutral.solid clean extra

/-- There is a way down, when the node is two links above the first one. -/
theorem Holds.ways_ne_nil {stack : Stack} (holds : R.Holds stack) {start top : Nat}
    (live : LiveNode stack start) {last : SyntaxTree}
    (links : (stack.node top).links = [⟨start, some last⟩]) (other : (stack.node start).state ≠ 1)
    (above : ∀ state ∈ R.under (stack.node start).state, state = 1) (bottom : R.under 1 = [])
    (size : 2 ≤ stack.size) : (stack.popAll top).flatMap (·.paths) ≠ [] := by
  obtain ⟨link, more, links'⟩ := List.exists_cons_of_ne_nil ((holds _ live).linked other)
  have below := (holds _ live).links link (links' ▸ List.mem_cons_self)
  have lowest : (stack.node link.below).links = [] := by
    refine List.eq_nil_iff_forall_not_mem.mpr fun l mem => ?_
    have under := ((holds _ below.live).links l mem).under
    rw [above _ below.under, bottom] at under
    cases under
  obtain ⟨k, others, ways⟩ := List.exists_cons_of_ne_nil (popAll_ne_nil links links' lowest size)
  have mem : k ∈ stack.popAll top := ways ▸ List.mem_cons_self
  obtain ⟨trees, way⟩ := List.exists_mem_of_ne_nil _ (inhabited_popAll _ _ k mem)
  exact List.ne_nil_of_mem (List.mem_flatMap.mpr ⟨k, mem, way⟩)

/-- A version that has been pushed upon ends.  Its node is in the first state, which no reading
stands on, so nothing has to be known of it. -/
theorem Carries.halt_push (carries : Carries R p) (active : p.Active v) {last : SyntaxTree}
    {state : StateId} {q : Progress} (stack : q.stack = (p.push v (some last) state).stack)
    (versions : q.versions = (p.push v (some last) state).versions) (holds : R.Holds q.stack)
    (clean : ∀ t, q.finished = some t → t.Clean false) :
    Carries R (q.halt v) ∧ ∃ h, h.isActive = false ∧ h.place = last.label.stop ∧
      (q.halt v).heads = p.heads.set v h := by
  have continues : Continues p.stack q.stack := by
    rw [stack]
    exact Continues.push p.stack _
  have top := node_push_size p.stack (p.stack.nodeOver (p.version v).node (some last) state)
  have pushed := (p.version_push_self v (some last) state active.inside).1
  have halted : (q.halt v).versions = p.versions.set v { q.version v with status := .halted } := by
    change q.versions.set v _ = _
    rw [versions]
    exact List.set_set ..
  have node : (q.version v).node = p.stack.size := by
    rw [Progress.version, versions]
    exact pushed
  refine ⟨⟨holds, fun u mem => ?_, clean⟩,
    q.stack.head { q.version v with status := .halted }, rfl, ?_, ?_⟩
  · rw [halted] at mem
    rcases List.mem_or_eq_of_mem_set mem with old | rfl
    · exact (carries.rest u old).continues continues
    · refine ⟨?_, fun going => absurd rfl going⟩
      change (q.version v).node < q.stack.size
      rw [node, stack, Progress.push_stack, Array.size_push]
      exact Nat.lt_succ_self _
  · rw [Stack.head, node, stack, Progress.push_stack, top]
    rfl
  · have goesOn : (q.halt v).stack = q.stack := rfl
    rw [Progress.heads, halted, List.map_set, goesOn, continues.map_head carries.rest]
    rfl

/-- **The end of a version** that is one tree above the beginning: there is then a tree of the whole
text. -/
theorem Carries.accept (carries : Carries R p) (active : p.Active v) {last : SyntaxTree}
    (clean : last.Clean false) (extra : last.extra = true) (other : p.state v ≠ 1)
    (above : ∀ state ∈ R.under (p.state v), state = 1) (bottom : R.under 1 = []) :
    Carries R (p.accept v last) ∧ (p.accept v last).finished.isSome ∧
      Continues p.stack (p.accept v last).stack ∧
      ∃ h, h.isActive = false ∧ h.place = last.label.stop ∧
        (p.accept v last).heads = p.heads.set v h := by
  have live := carries.node_live active
  have continues : Continues p.stack (p.push v (some last) 1).stack := Continues.push p.stack _
  have nonempty : 0 < p.stack.size := Nat.lt_of_le_of_lt (Nat.zero_le _) live.inside
  have holds : R.Holds (p.push v (some last) 1).stack := by
    refine carries.stack.pushNode _ fun dead => absurd (dead.first ?_) (Nat.ne_of_gt nonempty)
    rw [node_push_size]
    rfl
  have liveTop : LiveNode (p.push v (some last) 1).stack (p.version v).node := live.push _
  have links : ((p.push v (some last) 1).stack.node p.stack.size).links =
      [⟨(p.version v).node, some last⟩] := by
    rw [Progress.push_stack, node_push_size]
    rfl
  have same : ((p.push v (some last) 1).stack.node (p.version v).node).state = p.state v :=
    continues.state _ live.inside
  have notEnd : ((p.push v (some last) 1).stack.node (p.version v).node).state ≠ 1 := by
    rw [same]
    exact other
  have whole := holds.wholeTree liveTop links ((holds _ liveTop).linked notEnd) clean extra
  have ways := holds.ways_ne_nil liveTop links notEnd (by rw [same]; exact above) bottom (by
    rw [Progress.push_stack, Array.size_push]
    omega)
  rw [Progress.accept, (p.version_push_self v (some last) 1 active.inside).1]
  generalize ((p.push v (some last) 1).stack.popAll p.stack.size).flatMap (·.paths) = trees at whole ways
  obtain ⟨cleanAll, found⟩ := (p.push v (some last) 1).clean_foldl_wholeTree whole ways carries.finished
  obtain ⟨stack, versions⟩ := Progress.stack_foldl_finish (p.push v (some last) 1)
    (trees.filterMap Progress.wholeTree)
  generalize (trees.filterMap Progress.wholeTree).foldl Progress.finish (p.push v (some last) 1) = q
    at cleanAll found stack versions ⊢
  obtain ⟨carries', ended⟩ := carries.halt_push active stack versions (stack ▸ holds) cleanAll
  exact ⟨carries', found, stack ▸ continues, ended⟩

end Region

end Parse

end JsxDetect
