import JsxDetect.Proofs.Parse.Heads

/-!
# Completing phrases in a region

A reduction of a version in a `Region` adds new versions behind the others.  What is known of them
does not depend on the stack: they have come as far as the version itself, each is in the state
that the phrase leads to from a state below, and each differs from every other version that goes on.

## Main Definitions

* `Region.Grows`, `Region.Spawns`: a parse with new versions behind the others
* `Region.Target`: a phrase may be completed over a state
* `Region.Passable`: an action behind which the next one is taken

## Main Results

* `Region.Carries.reduce`: what a reduction adds
* `Region.Carries.act`: what several actions add

## Design Notes

**From paths to heads.**  A reduction pops many paths, groups them by node, picks a best phrase for
each node, adds a version for it and tries to join this with the versions there are.  Of all this
only one thing matters in a region: which heads are added.  `Reduced` says it without mention of the
stack, and is what the modules on comparisons use.

**Layers.**  Each layer has its structure and extends the one below: `Grows` is an addition behind
the others, `Spawns` adds that the new ones are told apart, `Added` is for one list of popped nodes,
`Reduced` for a reduction, `Acted` for a list of actions.  `refl` and `trans` are proved of the
first two and serve the inductions of the others.

**The first of the new ones.**  How many versions are kept is limited, and so an upper bound on what
is added is not enough: some reading must be seen to go on.  `Opens` is the lower bound.  It speaks
of the first path only, as this is the one that is there whatever the limit.
-/

namespace JsxDetect.Parse

open Automaton Stack SyntaxTree

namespace Region

/-! ### Phrases -/

/-- A phrase may be completed over a state, up to the place with a number. -/
structure Target (R : Region) (base : StateId) (symbol : Symbol) (n : Nat) : Prop where
  fits : R.fits (goto base symbol) n
  below : base ∈ R.under (goto base symbol)
  steady : ¬R.rising (goto base symbol)
  other : goto base symbol ≠ 1

/-- The ways down to a node over which a phrase is completed. -/
structure Ready (R : Region) (stack : Stack) (symbol : Symbol) (n : Nat) (k : Stack.Popped) : Prop where
  live : LiveNode stack k.node
  order : (stack.node k.node).place.offset ≤ (R.place n).offset
  target : Target R (stack.node k.node).state symbol n
  ways : k.paths ≠ []
  trees : ∀ trees ∈ k.paths, trees ≠ [] ∧ (∀ t ∈ trees, t.Neutral) ∧
    ∀ t, trees.getLast? = some t → t.label.stop = R.place n

/-- What is ready stays so on a stack that goes on, as completing one phrase does not change the
ways down that were found for the next. -/
theorem Ready.continues {R : Region} {stack stack' : Stack} {symbol : Symbol} {n : Nat}
    {k : Stack.Popped} (ready : Ready R stack symbol n k) (continues : Continues stack stack') :
    Ready R stack' symbol n k where
  live := continues.live ready.live
  order := by rw [continues.place _ ready.live.inside]; exact ready.order
  target := by rw [continues.state _ ready.live.inside]; exact ready.target
  ways := ready.ways
  trees := ready.trees

/-- The phrase that is picked over these ways is neutral and ends where the version is, whichever of
them it is built over.  Trees left over at the end there are none, as nothing that may stand
anywhere was passed. -/
theorem Ready.phrase {R : Region} {stack : Stack} {symbol : Symbol} {n : Nat} {k : Stack.Popped}
    (ready : Ready R stack symbol n k) (known : ordinary symbol = true) (cursor : Cursor) :
    ∃ t, Progress.bestPhrase symbol cursor k.paths = (t, []) ∧ (t.addBonus 0).Neutral ∧
      (t.addBonus 0).label.stop = R.place n := by
  obtain ⟨trees, mem, best⟩ := bestPhrase_eq symbol cursor ready.ways
  obtain ⟨nonempty, neutral, stop⟩ := ready.trees trees mem
  refine ⟨SyntaxTree.ofChildren symbol cursor trees, ?_, .ofChildren known neutral cursor, ?_⟩
  · rw [best, Progress.phrase, splitExtras_of_solid fun t mem => (neutral t mem).solid]
  · obtain ⟨t, last⟩ := Option.isSome_iff_exists.mp (List.getLast?_isSome.mpr nonempty)
    rw [(SyntaxTree.similar_addBonus _ 0).stop, SyntaxTree.stop_ofChildren last]
    exact stop t last

/-- What is known of a parse with new versions behind the others.  The nodes of the old versions are
kept, and not only their heads, since first links are known of nodes. -/
structure Grows (R : Region) (p q : Progress) (added : List Head) : Prop where
  carries : Carries R q
  heads : q.heads = p.heads ++ added
  continues : Continues p.stack q.stack
  finished : q.finished = p.finished
  nodes : ∀ u < p.versions.length, (q.version u).node = (p.version u).node

namespace Grows

variable {R : Region} {p q r : Progress} {added more : List Head}

theorem refl (carries : Carries R p) : Grows R p p [] :=
  ⟨carries, (List.append_nil _).symm, .refl _, rfl, fun _ _ => rfl⟩

theorem length (grows : Grows R p q added) :
    q.versions.length = p.versions.length + added.length := by
  rw [← q.length_heads, grows.heads, List.length_append, p.length_heads]

theorem trans (one : Grows R p q added) (two : Grows R q r more) : Grows R p r (added ++ more) where
  carries := two.carries
  heads := by rw [two.heads, one.heads, List.append_assoc]
  continues := one.continues.trans two.continues
  finished := two.finished.trans one.finished
  nodes u inside := by
    rw [two.nodes u (by rw [one.length]; omega), one.nodes u inside]

theorem head (grows : Grows R p q added) {u : Nat} (inside : u < p.versions.length) :
    q.head u = p.head u := by
  have here : q.heads[u]? = p.heads[u]? := by
    rw [grows.heads, List.getElem?_append_left (by rw [p.length_heads]; exact inside)]
  rw [q.heads_getElem? (by rw [grows.length]; omega), p.heads_getElem? inside] at here
  exact Option.some.inj here

theorem head_new (grows : Grows R p q added) {i : Nat} (low : i < added.length) :
    q.head (p.versions.length + i) = added[i] := by
  refine (Progress.head_of_getElem? ?_).2
  rw [grows.heads, List.getElem?_append_right (by rw [p.length_heads]; omega), p.length_heads,
    Nat.add_sub_cancel_left, List.getElem?_eq_getElem low]

/-- The first of the new versions is right behind the old ones. -/
theorem head_first {h : Head} (grows : Grows R p q (h :: added)) : q.head p.versions.length = h :=
  grows.head_new (Nat.succ_pos _)

theorem low (grows : Grows R p q added) (carries : Carries R p) {u bound : Nat} (active : p.Active u)
    (other : p.state u ≠ 1) (low : FirstLinkWithin p.stack (p.version u).node bound) :
    FirstLinkWithin q.stack (q.version u).node bound := by
  rw [grows.nodes u active.inside]
  exact grows.continues.low carries.stack (carries.node_live active) other low

end Grows

/-- What is known of new versions that others than `v` are told apart from.  Version `v` is left out
as it is the one that is reduced, and it will be replaced.  The last field says that versions are
added only as long as there is room. -/
structure Spawns (R : Region) (v : Nat) (p q : Progress) (added : List Head) : Prop where
  grows : Grows R p q added
  nodup : added.Nodup
  fresh : ∀ h ∈ added, ∀ u < p.versions.length, u ≠ v → p.head u ≠ h
  few : q.versions.length ≤ max p.versions.length (maxVersions + versionOverflow + 1)

namespace Spawns

variable {R : Region} {v : Nat} {p q r : Progress} {added more : List Head}

theorem refl (carries : Carries R p) : Spawns R v p p [] :=
  ⟨.refl carries, List.nodup_nil, List.forall_mem_nil _, Nat.le_max_left _ _⟩

/-- What the second step adds is told apart from all that there was before it, so also from what the
first one added. -/
theorem trans (inside : v < p.versions.length) (one : Spawns R v p q added)
    (two : Spawns R v q r more) : Spawns R v p r (added ++ more) := by
  have length := one.grows.length
  refine ⟨one.grows.trans two.grows, List.nodup_append.mpr ⟨one.nodup, two.nodup, ?_⟩,
    fun h mem u insideU other => ?_, ?_⟩
  · rintro h here _ later rfl
    obtain ⟨i, low, atIndex⟩ := List.mem_iff_getElem.mp here
    exact two.fresh h later (p.versions.length + i) (by omega) (by omega)
      ((one.grows.head_new low).trans atIndex)
  · rcases List.mem_append.mp mem with here | later
    · exact one.fresh h here u insideU other
    · rw [← one.grows.head insideU]
      exact two.fresh h later u (by omega) other
  · have few := one.few
    have more := two.few
    omega

end Spawns

/-- The head of a version that has completed a phrase over a state: the place does not change, and
the version goes on. -/
def ofPhrase (R : Region) (n : Nat) (symbol : Symbol) (base : StateId) : Head :=
  ⟨goto base symbol, R.place n, .active⟩

/-- The first new version goes on in the state that the phrase leads to. -/
theorem Grows.first_phrase {R : Region} {p q : Progress} {n : Nat} {symbol : Symbol} {base : StateId}
    {others : List Head} (grows : Grows R p q (ofPhrase R n symbol base :: others)) :
    q.Active p.versions.length ∧ q.state p.versions.length = goto base symbol := by
  refine ⟨?_, congrArg Head.state grows.head_first⟩
  rw [q.active_iff_head, grows.head_first]
  rfl

/-- **One phrase**: a new version, or one that is joined to another one that was there.  The two
cases are those of `mergeInto`; in the first one nothing is added, but a head like it is there. -/
theorem Carries.completeOne {R : Region} {p : Progress} (carries : Carries R p) (v : Nat)
    {symbol : Symbol} {n : Nat} {k : Stack.Popped} (ready : Ready R p.stack symbol n k)
    {tree : SyntaxTree} (neutral : (tree.addBonus 0).Neutral)
    (stop : (tree.addBonus 0).label.stop = R.place n) {q : Progress}
    (pushed : (p.addAt v k.node).push p.versions.length (some (tree.addBonus 0))
      (goto (p.stack.node k.node).state symbol) = q)
    (few : p.versions.length ≤ maxVersions + versionOverflow) :
    (∀ r, q.mergeInto p.versions.length ((List.range p.versions.length).filter (· ≠ v)) = some r →
      Spawns R v p r [] ∧ ∃ u < p.versions.length, u ≠ v ∧
        p.head u = ofPhrase R n symbol (p.stack.node k.node).state) ∧
    (q.mergeInto p.versions.length ((List.range p.versions.length).filter (· ≠ v)) = none →
      Spawns R v p q [ofPhrase R n symbol (p.stack.node k.node).state] ∧
        FirstLinkWithin q.stack (q.version p.versions.length).node (p.stack.node k.node).place.offset) := by
  obtain ⟨carriesQ, heads, continues, version, low⟩ := carries.new v ready.live ready.target.fits
    stop neutral ready.target.other ready.target.below ready.order
    fun rising => absurd rising ready.target.steady
  rw [pushed] at carriesQ heads continues version low
  have nodes : ∀ u < p.versions.length, (q.version u).node = (p.version u).node := by
    intro u inside
    rw [← pushed, ProgressOk.addAt_push, Progress.version_append_of_lt inside]
    rfl
  have grows : Grows R p q [ofPhrase R n symbol (p.stack.node k.node).state] :=
    ⟨carriesQ, heads, continues, by rw [← pushed, ProgressOk.addAt_push], nodes⟩
  have new := grows.head_first
  refine ⟨fun r merged => ?_, fun cannot => ⟨⟨grows, List.pairwise_singleton _ _, ?_, ?_⟩,
    by rw [version]; exact low⟩⟩
  -- joined: the heads are those there were, and one of them is that of the phrase
  · obtain ⟨u, mem, merged⟩ := merge_of_mergeInto merged
    obtain ⟨mem, other⟩ := List.mem_filter.mp mem
    have inside := List.mem_range.mp mem
    obtain ⟨carriesR, headsR, more, finished, active, -, state, place, nodesR⟩ := carriesQ.merge merged
    have joined : Grows R p r [] := by
      refine ⟨carriesR, ?_, continues.trans more, finished.trans grows.finished, fun u inside => ?_⟩
      · rw [headsR, heads, List.eraseIdx_append_of_length_le (by rw [p.length_heads]), p.length_heads,
          Nat.sub_self]
        rfl
      · rw [nodesR u inside, nodes u inside]
    refine ⟨⟨joined, List.nodup_nil, List.forall_mem_nil _, ?_⟩, u, inside, of_decide_eq_true other, ?_⟩
    · rw [joined.length]
      exact Nat.le_max_left _ _
    · rw [new] at state place
      rw [grows.head inside] at state place
      rw [q.active_iff_head, grows.head inside] at active
      exact Head.eq_of_active active state place
  -- not joined: no version that goes on has the same head
  · intro h mem u inside other same
    rw [List.mem_singleton.mp mem] at same
    have active : q.Active u := by
      rw [q.active_iff_head, grows.head inside, same]
      rfl
    have activeNew : q.Active p.versions.length := by
      rw [q.active_iff_head, new]
      rfl
    have mem : u ∈ (List.range p.versions.length).filter (· ≠ v) :=
      List.mem_filter.mpr ⟨List.mem_range.mpr inside, decide_eq_true other⟩
    have apart := carriesQ.not_merge (not_merge_of_mergeInto cannot u mem) active activeNew
    rw [new, grows.head inside, same] at apart
    exact apart rfl rfl
  · rw [grows.length, List.length_singleton]
    omega

/-- What the completion of some phrases on version `v` has added. -/
structure Added (R : Region) (v : Nat) (symbol : Symbol) (n : Nat) (popped : List Stack.Popped)
    (p q : Progress) (added : List Head) : Prop extends Spawns R v p q added where
  phrases : ∀ h ∈ added, ∃ k ∈ popped, h = ofPhrase R n symbol (p.stack.node k.node).state
  first : p.versions.length ≤ maxVersions + versionOverflow → ∀ k, popped.head? = some k →
    (∃ u < p.versions.length, u ≠ v ∧
      p.head u = ofPhrase R n symbol (p.stack.node k.node).state) ∨
    ∃ others, added = ofPhrase R n symbol (p.stack.node k.node).state :: others ∧
      FirstLinkWithin q.stack (q.version p.versions.length).node (p.stack.node k.node).place.offset

/-- **The phrases over some ways down.**  Each new version differs from all others that go on.  By
induction on the ways; that there is room for one more is asked anew for each of them, which is why
the bound on the number is a field and not a hypothesis. -/
theorem Carries.complete {R : Region} {v : Nat} {symbol : Symbol} {n : Nat}
    (known : ordinary symbol = true) (cursor : Cursor) {popped : List Stack.Popped} {p : Progress}
    (carries : Carries R p) (inside : v < p.versions.length)
    (ready : ∀ k ∈ popped, Ready R p.stack symbol n k) :
    ∃ added, Added R v symbol n popped p (Progress.complete v symbol 0 cursor popped p) added := by
  induction popped generalizing p with
  | nil =>
    exact ⟨[], .refl carries, List.forall_mem_nil _, fun _ k none => by cases none⟩
  | cons k popped ih =>
    obtain ⟨readyK, readyRest⟩ := List.forall_mem_cons.mp ready
    rw [Progress.complete]
    split
    · next full =>
      obtain ⟨added, ok⟩ := ih carries inside readyRest
      refine ⟨added, ok.toSpawns, fun h mem => ?_, fun few => absurd few (Nat.not_le.mpr full)⟩
      obtain ⟨k', mem', same⟩ := ok.phrases h mem
      exact ⟨k', List.mem_cons_of_mem _ mem', same⟩
    · next notFull =>
      have few := Nat.not_lt.mp notFull
      obtain ⟨tree, best, neutral, stop⟩ := readyK.phrase known cursor
      rw [best]
      dsimp only
      rw [Progress.pushAll, List.foldl_nil]
      generalize pushed : (p.addAt v k.node).push p.versions.length (some (tree.addBonus 0))
        (goto (p.stack.node k.node).state symbol) = q
      obtain ⟨joined, alone⟩ := carries.completeOne v readyK neutral stop pushed few
      -- What is known of the other ways down stays true on the new stack.
      have later : ∀ {r : Progress}, Continues p.stack r.stack →
          (∀ k' ∈ popped, Ready R r.stack symbol n k') ∧
          ∀ h, (∃ k' ∈ popped, h = ofPhrase R n symbol (r.stack.node k'.node).state) →
            ∃ k' ∈ k :: popped, h = ofPhrase R n symbol (p.stack.node k'.node).state := by
        rintro r continues
        refine ⟨fun k' mem => (readyRest k' mem).continues continues, ?_⟩
        rintro h ⟨k', mem, same⟩
        rw [continues.state _ (readyRest k' mem).live.inside] at same
        exact ⟨k', List.mem_cons_of_mem _ mem, same⟩
      split
      · next r merged =>
        obtain ⟨spawns, u, insideU, other, same⟩ := joined r merged
        have length : r.versions.length = p.versions.length := spawns.grows.length
        obtain ⟨ready, phrases⟩ := later spawns.grows.continues
        obtain ⟨added, ok⟩ := ih spawns.grows.carries (by rw [length]; exact inside) ready
        refine ⟨added, spawns.trans inside ok.toSpawns, fun h mem => phrases h (ok.phrases h mem), ?_⟩
        rintro - _ ⟨⟩
        exact .inl ⟨u, insideU, other, same⟩
      · next cannot =>
        obtain ⟨spawns, low⟩ := alone cannot
        have length : q.versions.length = p.versions.length + 1 := spawns.grows.length
        obtain ⟨ready, phrases⟩ := later spawns.grows.continues
        obtain ⟨added, ok⟩ := ih spawns.grows.carries (by omega) ready
        refine ⟨_ :: added, spawns.trans inside ok.toSpawns, ?_, ?_⟩
        · exact List.forall_mem_cons.mpr ⟨⟨k, List.mem_cons_self, rfl⟩,
            fun h mem => phrases h (ok.phrases h mem)⟩
        · rintro - _ ⟨⟩
          obtain ⟨activeNew, state⟩ := spawns.grows.first_phrase
          exact .inr ⟨added, rfl, ok.grows.low spawns.grows.carries activeNew
            (by rw [state]; exact readyK.target.other) low⟩

/-! ### Reductions -/

/-- The first way down over a phrase has given the first new version, or one that goes on there was
there before.  The new one lies right above a place that is not behind the one that `v` lies above,
and before that one, if another operator was passed. -/
def Opens (R : Region) (v : Nat) (symbol : Symbol) (count n : Nat) (p q : Progress)
    (added : List Head) : Prop :=
  ∃ base ∈ R.base (p.state v) count,
    (∃ u < p.versions.length, u ≠ v ∧ p.head u = ofPhrase R n symbol base) ∨
    ∃ others, added = ofPhrase R n symbol base :: others ∧
      ∀ bound, FirstLinkWithin p.stack (p.version v).node bound → ∃ lower ≤ bound,
        FirstLinkWithin q.stack (q.version p.versions.length).node lower ∧
        ((∀ state ∈ R.base (p.state v) 1, R.rising state) → 2 ≤ count → lower < bound)

/-- It is still so when there are more versions, since the first new one stays the first. -/
theorem Opens.append {R : Region} {v : Nat} {symbol : Symbol} {count n : Nat} {p q r : Progress}
    {added more : List Head} (opens : Opens R v symbol count n p q added) (grows : Grows R p q added)
    (later : Grows R q r more) (other : ∀ base ∈ R.base (p.state v) count, goto base symbol ≠ 1) :
    Opens R v symbol count n p r (added ++ more) := by
  obtain ⟨base, below, known⟩ := opens
  refine ⟨base, below, known.imp_right ?_⟩
  rintro ⟨others, rfl, lower⟩
  obtain ⟨active, state⟩ := grows.first_phrase
  refine ⟨others ++ more, rfl, fun bound above => ?_⟩
  obtain ⟨bound', le, low, strict⟩ := lower bound above
  exact ⟨bound', le, later.low grows.carries active (by rw [state]; exact other base below) low, strict⟩

/-- What a reduction of version `v` has added: the new versions come behind the others, have
completed the phrase up to the same place, and are told apart by their states.  If there was room
for one, then the first way down has given one, or one that goes on there was there before. -/
structure Reduced (R : Region) (v : Nat) (symbol : Symbol) (count n : Nat) (p q : Progress)
    (added : List Head) : Prop extends Spawns R v p q added where
  phrases : ∀ h ∈ added, ∃ base ∈ R.base (p.state v) count, h = ofPhrase R n symbol base
  first : p.versions.length ≤ maxVersions + versionOverflow → Opens R v symbol count n p q added

/-- **A reduction.**  All that it does to the heads is to add some, and it answers with the number
of the first one if there is any.  `deep` says that no way down ends at the beginning of the text
before the phrase is complete. -/
theorem Carries.reduce {R : Region} {p : Progress} (carries : Carries R p) {v : Nat} {symbol : Symbol}
    {count n : Nat} (active : p.Active v) (place : (p.top v).place = R.place n)
    (known : ordinary symbol = true) (nonempty : 0 < count) (few : count ≤ p.stack.size)
    (deep : ∀ m < count, 1 ∉ R.base (p.state v) m)
    (targets : ∀ base ∈ R.base (p.state v) count, Target R base symbol n) :
    ∃ added q, p.reduce v symbol count 0 =
        (if added = [] then none else some p.versions.length, q) ∧
      Reduced R v symbol count n p q added := by
  have inside := active.inside
  have start := carries.node_live active
  have ways := (recorded_pop p.stack (p.version v).node count).2
  have popped : ∀ k ∈ p.stack.pop (p.version v).node count, ∀ trees ∈ k.paths,
      Holds.Popped R p.stack (p.version v).node count k.node trees :=
    fun k mem trees way => carries.stack.pop start mem way
  have inhabited : ∀ k ∈ p.stack.pop (p.version v).node count,
      ∃ trees, Holds.Popped R p.stack (p.version v).node count k.node trees := by
    intro k mem
    obtain ⟨trees, way⟩ := List.exists_mem_of_ne_nil _ (ways k mem)
    exact ⟨trees, popped k mem trees way⟩
  have ready : ∀ k ∈ p.stack.pop (p.version v).node count, Ready R p.stack symbol n k := by
    intro k mem
    obtain ⟨trees, one⟩ := inhabited k mem
    have order : (p.stack.node k.node).place.offset ≤ (p.top v).place.offset := one.order
    refine ⟨one.live, by rw [← place]; exact order, targets _ one.base, ways k mem, fun trees way => ?_⟩
    have this := popped k mem trees way
    refine ⟨fun none => ?_, this.neutral, fun t last => (this.stop t last).trans place⟩
    have length := this.length
    rw [none] at length
    exact absurd length (Nat.ne_of_lt nonempty)
  obtain ⟨added, ok⟩ := Carries.complete known (p.top v).place carries inside ready
  refine ⟨added, _, ?_, ok.toSpawns, fun h mem => ?_, fun room => ?_⟩
  · rw [Progress.reduce]
    by_cases none : added = []
    · have same : (Progress.complete v symbol 0 (p.top v).place
          (p.stack.pop (p.version v).node count) p).versions.length = p.versions.length := by
        rw [ok.grows.length, none]
        rfl
      rw [if_pos none, if_neg (by omega)]
    · have more := List.length_pos_iff.mpr none
      rw [if_neg none, if_pos (by rw [ok.grows.length]; omega)]
  · obtain ⟨k, mem, same⟩ := ok.phrases h mem
    obtain ⟨trees, one⟩ := inhabited k mem
    exact ⟨_, one.base, same⟩
  -- the first way down goes to the lowest place, and gives the first new version
  · obtain ⟨node, first, low⟩ := carries.stack.pop_first start deep few
    obtain ⟨k, isFirst, rfl⟩ := Option.map_eq_some_iff.mp first
    obtain ⟨trees, one⟩ := inhabited k (List.mem_of_head? isFirst)
    refine ⟨_, one.base, ?_⟩
    rcases ok.first room k isFirst with there | ⟨others, new, lower⟩
    · exact .inl there
    · refine .inr ⟨others, new, fun bound above => ⟨_, (low bound above nonempty).1, lower,
        fun rising many => ?_⟩⟩
      exact (low bound above nonempty).2 rising many

/-! ### Several actions -/

/-- A phrase that may be completed in a state at the place with a number. -/
structure Completable (R : Region) (state : StateId) (n : Nat) (symbol : Symbol) (count : Nat)
    (bonus : Int) : Prop where
  bonus : bonus = 0
  known : ordinary symbol = true
  nonempty : 0 < count
  deep : ∀ m < count, 1 ∉ R.base state m
  targets : ∀ base ∈ R.base state count, Target R base symbol n

/-- An action of a state behind which the next one is taken.  A shift is one if it only repeats, as
the table marks those that take no part. -/
def Passable (R : Region) (state : StateId) (n : Nat) : Action → Prop
  | .reduce symbol count bonus => Completable R state n symbol count bonus
  | .shift _ repeats => repeats = true
  | _ => False

/-- What some actions of version `v`, one after the other, have added. -/
structure Acted (R : Region) (v n : Nat) (as : List Action) (p q : Progress) (added : List Head) :
    Prop extends Spawns R v p q added where
  phrases : ∀ h ∈ added, ∃ symbol count base, .reduce symbol count 0 ∈ as ∧
    base ∈ R.base (p.state v) count ∧ h = ofPhrase R n symbol base
  first : p.versions.length ≤ maxVersions + versionOverflow → ∀ symbol count bonus,
    as.head? = some (.reduce symbol count bonus) → Opens R v symbol count n p q added

/-- **Several actions**, each of which lets the next one be taken.  The last new version is
remembered. -/
theorem Carries.act {R : Region} {v n : Nat} (token : SyntaxTree) (as more : List Action)
    (last : Option Nat) {p : Progress} (carries : Carries R p)
    (active : p.Active v) (place : (p.top v).place = R.place n)
    (size : ∀ symbol count bonus, .reduce symbol count bonus ∈ as → count ≤ p.stack.size)
    (pass : ∀ a ∈ as, Passable R (p.state v) n a) :
    ∃ added q last', Progress.act v token (as ++ more) last p =
        Progress.act v token more last' q ∧ Acted R v n as p q added ∧
      (added = [] → last' = last) ∧
      (added ≠ [] → ∃ i < added.length, last' = some (p.versions.length + i)) := by
  induction as generalizing last p with
  | nil =>
    exact ⟨[], p, last, rfl, ⟨.refl carries, List.forall_mem_nil _, fun _ _ _ _ none => by cases none⟩,
      fun _ => rfl, fun some => absurd rfl some⟩
  | cons a as ih =>
    obtain ⟨passA, passRest⟩ := List.forall_mem_cons.mp pass
    cases a with
    | shift next repeats =>
      obtain rfl : repeats = true := passA
      obtain ⟨added, q, last', same, acted, kept, new⟩ := ih last carries active place
        (fun symbol count bonus mem => size symbol count bonus (List.mem_cons_of_mem _ mem)) passRest
      refine ⟨added, q, last', ?_, ⟨acted.toSpawns, fun h mem => ?_,
        fun _ _ _ _ none => by cases none⟩, kept, new⟩
      · rw [List.cons_append, Progress.act, if_pos rfl, same]
      · obtain ⟨symbol, count, base, mem, known⟩ := acted.phrases h mem
        exact ⟨symbol, count, base, List.mem_cons_of_mem _ mem, known⟩
    | shiftExtra => exact passA.elim
    | recover => exact passA.elim
    | accept => exact passA.elim
    | reduce symbol count bonus =>
      obtain ⟨rfl, known, nonempty, deep, targets⟩ := passA
      obtain ⟨one, q, reduced, ok⟩ := carries.reduce active place known nonempty
        (size _ _ _ List.mem_cons_self) deep targets
      have inside := active.inside
      have sameHead := ok.grows.head inside
      have activeQ : q.Active v := by
        rw [q.active_iff_head, sameHead]
        exact active
      have sameState : q.state v = p.state v := congrArg Head.state sameHead
      have samePlace : (q.top v).place = (p.top v).place := congrArg Head.place sameHead
      have length := ok.grows.length
      obtain ⟨added, r, last', same, acted, kept, new⟩ := ih
        (if one = [] then last else some p.versions.length)
        ok.grows.carries activeQ (samePlace.trans place) (fun symbol count bonus mem => Nat.le_trans
          (size symbol count bonus (List.mem_cons_of_mem _ mem)) ok.grows.continues.size)
        (by rw [sameState]; exact passRest)
      refine ⟨one ++ added, r, last', ?_, ⟨ok.toSpawns.trans inside acted.toSpawns, fun h mem => ?_, ?_⟩,
        fun none => ?_, fun nonempty => ?_⟩
      · rw [List.cons_append, Progress.act, reduced, ← same]
        by_cases none : one = []
        · rw [if_pos none, if_pos none]
        · rw [if_neg none, if_neg none]
      · rcases List.mem_append.mp mem with here | later
        · obtain ⟨base, below, same⟩ := ok.phrases h here
          exact ⟨symbol, count, base, List.mem_cons_self, below, same⟩
        · obtain ⟨symbol', count', base, mem, below, same⟩ := acted.phrases h later
          exact ⟨symbol', count', base, List.mem_cons_of_mem _ mem, sameState ▸ below, same⟩
      · rintro room symbol' count' bonus' ⟨⟩
        exact (ok.first room).append ok.grows acted.grows fun base below => (targets base below).other
      · obtain ⟨rfl, rfl⟩ := List.append_eq_nil_iff.mp none
        rw [kept rfl, if_pos rfl]
      -- The last new version is one of the later actions, or of this one if they add none.
      · by_cases later : added = []
        · subst later
          rw [List.append_nil] at nonempty
          rw [kept rfl, if_neg nonempty]
          exact ⟨0, by rw [List.append_nil]; exact List.length_pos_iff.mpr nonempty, rfl⟩
        · obtain ⟨i, low, same⟩ := new later
          refine ⟨one.length + i, by rw [List.length_append]; omega, ?_⟩
          rw [same, length, Nat.add_assoc]

end Region

end JsxDetect.Parse
