import JsxDetect.Proofs.Parse.ProgressInvariant
import JsxDetect.Parse.Reduction

/-!
# Reductions preserve the invariant

A phrase is completed over trees that a way down has passed, so its children are well-formed, and an
element has a `<` of the text among them.  It is never completed in the state of an error, so its
children are proper as well.  New versions come behind the others, which stay as they were.

## Main Definitions

* `Passed`: what holds of the trees that a way down has passed
* `Extends`: a step that adds versions, and leaves the first ones as they were

## Main Results

* `ProgressOk.reduce`: a reduction preserves the invariant
* `Progress.wholeTree_eq`: the tree of a whole text

## Design Notes

**A reduction is one fold.**  It pops a number of trees, which may lead down several ways, and puts
the new tree on each place where a way ends.  `Completable` collects what one such place has to
offer, so that the induction in `complete` is on the list of places and never looks at the stack
below them again.

**Why elements are grounded.**  The certificate about the states behind a tag is read here and only
here: a state in which an element may be completed is as many trees behind a tag as the phrase
takes, so `StackOk.wayDown` finds the `<` among the trees that are popped.  Whether these trees were
read, repaired or added makes no difference, as an added token is never a `<`.

**New versions come last.**  `Extends` says so with a bound, and not with the list of versions, as a
reduction joins a new version to an old one where it can and then the list is shorter.
-/

namespace JsxDetect

namespace SyntaxTree

/-! ### Trees that may stand anywhere -/

/-- The two parts of a split list make it up again: what may stand anywhere is split off at the end.
-/
theorem splitExtras_append (trees : List SyntaxTree) :
    (splitExtras trees).1 ++ (splitExtras trees).2 = trees := by
  rw [splitExtras, ← List.reverse_append, List.takeWhile_append_dropWhile, List.reverse_reverse]

theorem extra_of_mem_splitExtras {trees : List SyntaxTree} {t : SyntaxTree}
    (mem : t ∈ (splitExtras trees).2) : t.extra = true :=
  List.all_eq_true.mp List.all_takeWhile t (List.mem_reverse.mp mem)

theorem mem_of_mem_splitExtras {trees : List SyntaxTree} {t : SyntaxTree}
    (mem : t ∈ (splitExtras trees).1 ∨ t ∈ (splitExtras trees).2) : t ∈ trees := by
  rw [← splitExtras_append trees]
  exact List.mem_append.mpr mem

/-- A tree that may not stand anywhere is not split off. -/
theorem mem_splitExtras_of_not_extra {trees : List SyntaxTree} {t : SyntaxTree} (mem : t ∈ trees)
    (notExtra : t.extra = false) : t ∈ (splitExtras trees).1 := by
  rw [← splitExtras_append trees] at mem
  rcases List.mem_append.mp mem with inner | extra
  · exact inner
  · rw [extra_of_mem_splitExtras extra] at notExtra
    cases notExtra

/-- Nothing is split off in front of a tree that may not stand anywhere. -/
theorem splitExtras_append_left {earlier : List SyntaxTree} (trees : List SyntaxTree)
    (last : ∀ c, earlier.getLast? = some c → c.extra = false) :
    splitExtras (earlier ++ trees) =
      (earlier ++ (splitExtras trees).1, (splitExtras trees).2) := by
  have whole : (trees.reverse.takeWhile extra).length = trees.length →
      trees.reverse = trees.reverse.takeWhile extra := fun equal =>
    ((List.takeWhile_prefix extra).eq_of_length (by rw [equal, List.length_reverse])).symm
  rw [splitExtras, List.reverse_append, List.dropWhile_append, List.takeWhile_append]
  cases reversed : earlier.reverse with
  | nil =>
    rw [List.reverse_eq_nil_iff.mp reversed]
    simpa [splitExtras] using whole
  | cons c others =>
    have notExtra : c.extra = false := by
      refine last c ?_
      rw [List.getLast?_eq_head?_reverse, reversed]
      rfl
    have same : earlier = (c :: others).reverse := by
      rw [← reversed, List.reverse_reverse]
    rw [List.dropWhile_cons_of_neg (by rw [notExtra]; exact Bool.false_ne_true),
      List.takeWhile_cons_of_neg (by rw [notExtra]; exact Bool.false_ne_true), same, splitExtras]
    have both := List.takeWhile_append_dropWhile (p := extra) (l := trees.reverse)
    cases dropped : trees.reverse.dropWhile extra with
    | nil =>
      rw [dropped, List.append_nil] at both
      simp [both]
    | cons d more => simpa using whole

/-- What is left ends with a tree that may not stand anywhere. -/
theorem not_extra_of_getLast_splitExtras {trees : List SyntaxTree} {t : SyntaxTree}
    (last : (splitExtras trees).1.getLast? = some t) : t.extra = false := by
  rw [splitExtras, List.getLast?_reverse] at last
  have first := List.head?_dropWhile_not extra trees.reverse
  rw [last] at first
  simpa using first

end SyntaxTree

namespace Parse

open Automaton Stack SyntaxTree

variable {text : List Char}

/-- What holds of the trees that a way down to a node has passed. -/
structure Passed (text : List Char) (stack : Stack) (node : Nat) (trees : List SyntaxTree) :
    Prop where
  inside : node < stack.size
  live : SoundBelow stack node
  wellFormed : ∀ t ∈ trees, t.WellFormed text
  extra : ∀ t ∈ trees, t.extra = true → t.Proper

theorem Passed.grows {stack stack' : Stack} {node : Nat} {trees : List SyntaxTree}
    (passed : Passed text stack node trees) (grows : Grows stack stack') :
    Passed text stack' node trees :=
  ⟨Nat.lt_of_lt_of_le passed.inside grows.size, grows.sound _ passed.live, passed.wellFormed,
    passed.extra⟩

section

variable {stack : Stack} {start count : Nat} {q : Popped} {trees : List SyntaxTree}

/-- Each way down that a reduction finds has passed well-formed trees, and ends below what is sound.
-/
theorem StackOk.passed (ok : StackOk text stack) (live : SoundBelow stack start)
    (mem : q ∈ stack.pop start count) (way : trees ∈ q.paths) :
    Passed text stack q.node trees := by
  obtain ⟨p, descent, -, node, rfl⟩ := (recorded_pop stack start count).1 q mem trees way
  have sound := soundOver_soundBelow stack
  have down := ok.wayDown (sound.inside start live) descent
  rw [← node]
  exact ⟨down.inside, (sound.reached live descent).1, down.wellFormed, down.extra⟩

/-- A way down from a node that is in no error ends on one that is in none, and passes proper trees
only: what was skipped lies in the state of errors. -/
theorem proper_of_pop (live : SoundBelow stack start) (noError : (stack.node start).state ≠ 0)
    (mem : q ∈ stack.pop start count) (way : trees ∈ q.paths) :
    (stack.node q.node).state ≠ 0 ∧ ∀ t ∈ trees, t.Proper := by
  obtain ⟨p, descent, -, node, rfl⟩ := (recorded_pop stack start count).1 q mem trees way
  rw [← node]
  exact ((soundOver_soundBelow stack).reached live descent).2 noError

/-- An element is completed over a `<` of the text: among the trees that are popped there is one
with such a token below it, and it is not one of those that may stand anywhere. -/
theorem StackOk.tagged (ok : StackOk text stack) (inside : start < stack.size) {symbol : Symbol}
    (completes : Completes (stack.node start).state symbol count)
    (element : symbol ∈ elementSymbols) (mem : q ∈ stack.pop start count)
    (way : trees ∈ q.paths) : ∃ t ∈ trees, t.extra = false ∧ t.Tagged text := by
  obtain ⟨p, descent, ends, -, rfl⟩ := (recorded_pop stack start count).1 q mem trees way
  have down := ok.wayDown inside descent
  obtain ⟨pos, behind⟩ := completes.element element
  exact down.behind (by omega) (by omega)

end

/-! ### Steps that add versions -/

/-- A step leaves the versions before `base` as they were; all others go on. -/
structure Extends (base : Nat) (p q : Progress) : Prop where
  keeps : Keeps (· < base) p q
  length : base ≤ q.versions.length
  active : ∀ w, base ≤ w → w < q.versions.length → q.Active w

theorem Extends.refl (p : Progress) : Extends p.versions.length p p :=
  ⟨.refl _ _, Nat.le_refl _, fun _ low high => absurd high (Nat.not_lt.mpr low)⟩

/-- One step that adds versions after another one.  The second may keep more than the first did, as
it begins with more versions. -/
theorem Extends.trans {base base' : Nat} {p q r : Progress} (one : Extends base p q)
    (two : Extends base' q r) (later : base ≤ base') (short : base' ≤ q.versions.length) :
    Extends base p r where
  keeps := one.keeps.trans (two.keeps.mono fun _ low => Nat.lt_of_lt_of_le low later)
  length := Nat.le_trans later two.length
  active w low high := by
    rcases Nat.lt_or_ge w base' with before | behind
    · have inside := Nat.lt_of_lt_of_le before short
      exact two.keeps.active before inside (one.active w low inside)
    · exact two.active w behind high

/-- A version that is kept is in the same state. -/
theorem Keeps.state {kept : Nat → Prop} {p q : Progress} (keeps : Keeps kept p q)
    (ok : ProgressOk text p) {v : Nat} (k : kept v) (inside : v < p.versions.length) :
    q.state v = p.state v := by
  rw [Progress.state, Progress.top, (keeps.heads v k inside).node]
  exact keeps.stack.state _ (ok.version v).inside

namespace ProgressOk

variable {p : Progress}

/-- The place of a version lies in the text, whatever its status is. -/
theorem place (ok : ProgressOk text p) (v : Nat) : (p.top v).place.rest <:+ text :=
  ok.stack.place _ (ok.version v).inside

/-- Pushing trees that may stand anywhere preserves the invariant.  They are pushed into one state,
so it is asked only that the first of them may be. -/
theorem pushAll (ok : ProgressOk text p) {v : Nat} {trees : List SyntaxTree} {state : StateId}
    (active : p.Active v) (same : 0 < behindTag state → p.state v = state)
    (noError : state ≠ 0 → p.state v ≠ 0)
    (all : ∀ t ∈ trees, t.WellFormed text ∧ t.extra = true ∧ t.Proper) :
    ProgressOk text (p.pushAll v trees state) ∧ Keeps (· ≠ v) p (p.pushAll v trees state) ∧
      (p.pushAll v trees state).versions.length = p.versions.length ∧
        (p.pushAll v trees state).Active v := by
  induction trees generalizing p with
  | nil => exact ⟨ok, .refl _ _, rfl, active⟩
  | cons t trees ih =>
    obtain ⟨wellFormed, extra, proper⟩ := all t List.mem_cons_self
    have fits : Fits text (p.state v) t state :=
      ⟨⟨wellFormed, fun _ => proper, .of_same_extra same extra⟩, fun some => ⟨noError some, proper⟩⟩
    have state' := p.state_push_self v (some t) state active.inside
    obtain ⟨okay, keeps, length, active'⟩ := ih (ok.push fits)
      (p.active_push v (some t) state active) (fun _ => state')
      (fun some => by rw [state']; exact some) fun u mem => all u (List.mem_cons_of_mem _ mem)
    exact ⟨okay, (p.keeps_push v (some t) state).trans keeps,
      length.trans (p.length_push v (some t) state), active'⟩

/-- A new version, with a tree pushed on the node it begins from. -/
theorem addAt_push (p : Progress) (v node : Nat) (t : SyntaxTree) (state : StateId) :
    (p.addAt v node).push p.versions.length (some t) state =
      ⟨Array.push p.stack (p.stack.nodeOver node (some t) state),
        p.versions ++ [⟨p.stack.size, none, (p.version v).countAtError, .active⟩],
        p.finished, p.accepted⟩ := by
  have last : (p.versions ++ [(⟨node, none, (p.version v).countAtError, .active⟩ : Version)]).getD
      p.versions.length default = ⟨node, none, (p.version v).countAtError, .active⟩ :=
    p.version_add_self _
  simp only [Progress.addAt, Progress.add, Progress.push, last]
  rw [List.set_append_right _ _ (Nat.le_refl _), Nat.sub_self]
  rfl

/-- **A new version on a tree**: the versions there were stay as they are, and the new one is the
last and in the state that the tree was pushed into. -/
theorem addAt_push_ok (ok : ProgressOk text p) (v : Nat) {node : Nat} {t : SyntaxTree}
    {state : StateId} (live : SoundBelow p.stack node)
    (fits : Fits text (p.stack.node node).state t state) :
    ProgressOk text ((p.addAt v node).push p.versions.length (some t) state) ∧
      Extends p.versions.length p ((p.addAt v node).push p.versions.length (some t) state) ∧
        ((p.addAt v node).push p.versions.length (some t) state).versions.length =
          p.versions.length + 1 ∧
        ((p.addAt v node).push p.versions.length (some t) state).state p.versions.length =
          state := by
  rw [addAt_push]
  have inside := (soundOver_soundBelow p.stack).inside node live
  have earlier : ∀ w, w < p.versions.length →
      (Progress.mk (Array.push p.stack (p.stack.nodeOver node (some t) state))
        (p.versions ++ [⟨p.stack.size, none, (p.version v).countAtError, .active⟩])
        p.finished p.accepted).version w = p.version w := fun _ inside =>
    Progress.version_append_of_lt inside
  have last : (Progress.mk (Array.push p.stack (p.stack.nodeOver node (some t) state))
        (p.versions ++ [⟨p.stack.size, none, (p.version v).countAtError, .active⟩])
        p.finished p.accepted).version p.versions.length =
      ⟨p.stack.size, none, (p.version v).countAtError, .active⟩ :=
    Progress.version_append_self
  have length : (p.versions ++ [(⟨p.stack.size, none, (p.version v).countAtError, .active⟩ :
      Version)]).length = p.versions.length + 1 := List.length_append
  refine ⟨⟨fits.stack ok.stack inside, fun u mem => ?_, ok.finished⟩,
    ⟨⟨.push _ _, fun w _ inside => ?_, fun w low _ => ?_⟩, ?_, fun w low high => ?_⟩, length, ?_⟩
  · rcases List.mem_append.mp mem with old | new
    · exact (ok.versions u old).grows (.push _ _)
    · rw [List.mem_singleton.mp new]
      refine ⟨?_, fun _ => fits.soundBelow live, fun lookahead same => by cases same⟩
      rw [Array.size_push]
      exact Nat.lt_succ_self _
  · rw [length]
    exact Nat.lt_succ_of_lt inside
  · rw [earlier w low]
    exact .refl _
  · rw [length]
    exact Nat.le_succ _
  · rw [length] at high
    have same : w = p.versions.length := by omega
    rw [Progress.Active, same, last]
    rfl
  · rw [Progress.state, Progress.top, last, node_push_size]
    rfl

/-- A new version on a tree, with trees over it that may stand anywhere. -/
theorem addAt_push_pushAll (ok : ProgressOk text p) (v : Nat) {node : Nat} {t : SyntaxTree}
    {state : StateId} {trees : List SyntaxTree} (live : SoundBelow p.stack node)
    (fits : Fits text (p.stack.node node).state t state)
    (all : ∀ t ∈ trees, t.WellFormed text ∧ t.extra = true ∧ t.Proper) :
    ProgressOk text (((p.addAt v node).push p.versions.length (some t) state).pushAll
        p.versions.length trees state) ∧
      Extends p.versions.length p (((p.addAt v node).push p.versions.length (some t) state).pushAll
        p.versions.length trees state) ∧
      (((p.addAt v node).push p.versions.length (some t) state).pushAll
        p.versions.length trees state).versions.length = p.versions.length + 1 := by
  obtain ⟨ok1, extends1, length1, state1⟩ := ok.addAt_push_ok v live fits
  have active1 := extends1.active _ (Nat.le_refl _) (by rw [length1]; exact Nat.lt_succ_self _)
  obtain ⟨ok2, keeps2, length2, active2⟩ := ok1.pushAll active1 (fun _ => state1)
    (fun some => by rw [state1]; exact some) all
  refine ⟨ok2, ⟨extends1.keeps.trans (keeps2.mono fun w low => Nat.ne_of_lt low), ?_,
    fun w low high => ?_⟩, length2.trans length1⟩
  · rw [length2, length1]
    exact Nat.le_succ _
  · rw [length2, length1] at high
    have same : w = p.versions.length := by omega
    rw [same]
    exact active2

end ProgressOk

/-! ### Phrases -/

open Progress in
/-- The phrase that is kept lies over one of the ways.  Which one is decided by costs, and does not
matter for the invariant. -/
theorem bestPhrase_eq (symbol : Symbol) (cursor : Cursor) {ways : List (List SyntaxTree)}
    (some : ways ≠ []) : ∃ trees ∈ ways, bestPhrase symbol cursor ways = phrase symbol cursor trees := by
  have fold : ∀ (others : List (List SyntaxTree)) (best : SyntaxTree × List SyntaxTree),
      others.foldl (fun best trees =>
        let other := phrase symbol cursor trees
        if best.1.replaces other.1 then other else best) best = best ∨
      ∃ trees ∈ others, others.foldl (fun best trees =>
        let other := phrase symbol cursor trees
        if best.1.replaces other.1 then other else best) best = phrase symbol cursor trees := by
    intro others
    induction others with
    | nil => exact fun best => .inl rfl
    | cons trees others ih =>
      intro best
      rw [List.foldl_cons]
      rcases ih (if best.1.replaces (phrase symbol cursor trees).1 then phrase symbol cursor trees
        else best) with same | ⟨trees', mem, same⟩
      · rw [same]
        split
        · exact .inr ⟨trees, List.mem_cons_self, rfl⟩
        · exact .inl rfl
      · exact .inr ⟨trees', List.mem_cons_of_mem _ mem, same⟩
  cases ways with
  | nil => exact absurd rfl some
  | cons trees others =>
    rcases fold others (phrase symbol cursor trees) with same | ⟨trees', mem, same⟩
    · exact ⟨trees, List.mem_cons_self, same⟩
    · exact ⟨trees', List.mem_cons_of_mem _ mem, same⟩

/-- A node over what is left of some trees, without those at the end that may stand anywhere, is
well-formed.  These could not hold the tag of an element, so it is still among the others. -/
theorem Passed.inner {stack : Stack} {node : Nat} {trees : List SyntaxTree} {cursor : Cursor}
    (symbol : Symbol) (passed : Passed text stack node trees) (place : cursor.rest <:+ text)
    (tagged : symbol ∈ elementSymbols → ∃ t ∈ trees, t.extra = false ∧ t.Tagged text)
    (proper : ∀ t ∈ trees, t.Proper) :
    (ofChildren symbol cursor (splitExtras trees).1).WellFormed text := by
  refine .ofChildren place (fun c mem => passed.wellFormed c (mem_of_mem_splitExtras (.inl mem))) ?_
    (fun _ c last => not_extra_of_getLast_splitExtras last)
    fun _ c mem => proper c (mem_of_mem_splitExtras (.inl mem))
  intro element
  obtain ⟨t, mem, notExtra, less⟩ := tagged element
  exact ⟨t, mem_splitExtras_of_not_extra mem notExtra, less⟩

/-- The trees that are split off are well-formed, and proper, so they may be pushed again on the new
phrase. -/
theorem Passed.extras {stack : Stack} {node : Nat} {trees : List SyntaxTree}
    (passed : Passed text stack node trees) :
    ∀ t ∈ (splitExtras trees).2, t.WellFormed text ∧ t.extra = true ∧ t.Proper := by
  intro t mem
  have inside := mem_of_mem_splitExtras (.inr mem)
  have extra := extra_of_mem_splitExtras mem
  exact ⟨passed.wellFormed t inside, extra, passed.extra t inside extra⟩

namespace ProgressOk

variable {p : Progress}

/-- The step into the state behind a phrase fits the certificate.  Behind an element the number is
one, and there the `<` is below the phrase itself. -/
theorem wayOver_phrase {state : StateId} {symbol : Symbol} {t : SyntaxTree}
    (phrase : Symbol.tokenCount ≤ symbol) (noError : symbol < Symbol.skipped)
    (isPhrase : t.symbol = symbol) (notExtra : t.extra = false)
    (tagged : symbol ∈ elementSymbols → t.Tagged text) :
    WayOver text state t (goto state symbol) := by
  have way := way_of_goto state phrase
  refine .of_way (isPhrase ▸ way) notExtra ?_ fun behind => ?_
  · rw [isPhrase]
    exact Nat.ne_of_lt (Nat.lt_succ_of_lt noError)
  · -- behind a whole tag: no token has the number of a phrase
    rcases way.first behind with less | tag
    · rw [less] at phrase
      exact absurd phrase (by decide)
    · refine tagged ?_
      rw [tag]
      decide

/-- What has to hold of the places that a phrase is put on. -/
structure Completable (text : List Char) (stack : Stack) (symbol : Symbol) (cursor : Cursor)
    (q : Popped) : Prop where
  inhabited : q.paths ≠ []
  passed : ∀ trees ∈ q.paths, Passed text stack q.node trees
  outside : (stack.node q.node).state ≠ 0
  proper : ∀ trees ∈ q.paths, ∀ t ∈ trees, t.Proper
  tagged : symbol ∈ elementSymbols → ∀ trees ∈ q.paths,
    ∃ t ∈ trees, t.extra = false ∧ t.Tagged text
  place : cursor.rest <:+ text

/-- The places that are still to come stay fit for the phrase while it is put on the first ones. -/
theorem Completable.grows {stack stack' : Stack} {symbol : Symbol} {cursor : Cursor} {q : Popped}
    (known : Completable text stack symbol cursor q) (grows : Grows stack stack') :
    Completable text stack' symbol cursor q := by
  obtain ⟨trees, way⟩ := List.exists_mem_of_ne_nil _ known.inhabited
  exact { known with
    passed := fun trees way => (known.passed trees way).grows grows
    outside := by
      rw [grows.state _ (known.passed trees way).inside]
      exact known.outside }

/-- Putting a phrase on the places that the ways down lead to, one after the other.  The induction
is on these places; the stack only grows while it goes on. -/
theorem complete (ok : ProgressOk text p) (v : Nat) {symbol : Symbol} (bonus : Int)
    (cursor : Cursor) (popped : List Popped) (phrase : Symbol.tokenCount ≤ symbol)
    (noError : symbol < Symbol.skipped)
    (all : ∀ q ∈ popped, Completable text p.stack symbol cursor q) :
    ProgressOk text (Progress.complete v symbol bonus cursor popped p) ∧
      Extends p.versions.length p (Progress.complete v symbol bonus cursor popped p) := by
  induction popped generalizing p with
  | nil => exact ⟨ok, .refl p⟩
  | cons q rest ih =>
    have later : ∀ {p' : Progress}, ProgressOk text p' → Extends p.versions.length p p' →
        ProgressOk text (Progress.complete v symbol bonus cursor rest p') ∧
          Extends p.versions.length p (Progress.complete v symbol bonus cursor rest p') := by
      intro p' ok' extended
      obtain ⟨okay, step⟩ := ih ok' fun q' mem =>
        (all q' (List.mem_cons_of_mem _ mem)).grows extended.keeps.stack
      exact ⟨okay, extended.trans step extended.length (Nat.le_refl _)⟩
    rw [Progress.complete]
    dsimp only
    split
    · exact later ok (.refl p)
    · have known := all q List.mem_cons_self
      obtain ⟨trees, way, chosen⟩ := bestPhrase_eq symbol cursor known.inhabited
      have passed := known.passed trees way
      have wellFormed := passed.inner symbol known.place (fun element => known.tagged element trees way)
        (known.proper trees way)
      have similar := similar_addBonus (ofChildren symbol cursor (splitExtras trees).1) bonus
      rw [chosen, Progress.phrase]
      dsimp only
      have proper : ((ofChildren symbol cursor (splitExtras trees).1).addBonus bonus).Proper :=
        similar.proper (.ofChildren (Nat.ne_of_lt noError))
      have fits : Fits text (p.stack.node q.node).state
          ((ofChildren symbol cursor (splitExtras trees).1).addBonus bonus)
          (goto (p.stack.node q.node).state symbol) := by
        refine ⟨⟨similar.wellFormed wellFormed, fun _ => proper,
          wayOver_phrase phrase noError similar.symbol ?_ fun element => ?_⟩,
          fun _ => ⟨known.outside, proper⟩⟩
        · rw [extra_addBonus]
          rfl
        · exact similar.tagged (wellFormed.grounded.here element)
      obtain ⟨ok1, extends1, length1⟩ := ok.addAt_push_pushAll v passed.live fits passed.extras
      split
      · next merged joined =>
        obtain ⟨ok2, u, mem, merges⟩ := ok1.mergeInto joined
        have length2 := merges.length
        rw [length1] at length2
        refine later ok2 ⟨extends1.keeps.trans merges.keeps, ?_, fun w low high => ?_⟩
        · omega
        · omega
      · exact later ok1 extends1

/-- **A reduction** preserves the invariant, and adds versions at the end.  If it names a version,
then this is the first new one. -/
theorem reduce (ok : ProgressOk text p) {v : Nat} {symbol : Symbol} {count : Nat}
    (bonus : Int) (active : p.Active v) (completes : Completes (p.state v) symbol count) :
    ProgressOk text (p.reduce v symbol count bonus).2 ∧
      Extends p.versions.length p (p.reduce v symbol count bonus).2 ∧
        ∀ w, (p.reduce v symbol count bonus).1 = some w →
          w = p.versions.length ∧ w < (p.reduce v symbol count bonus).2.versions.length := by
  have head := ok.head active
  have inside := (ok.version v).inside
  have completable : ∀ q ∈ p.stack.pop (p.version v).node count,
      Completable text p.stack symbol (p.top v).place q := by
    intro q mem
    have inhabited := (recorded_pop _ _ _).2 q mem
    obtain ⟨trees, way⟩ := List.exists_mem_of_ne_nil _ inhabited
    exact ⟨inhabited, fun trees way => ok.stack.passed head mem way,
      (proper_of_pop head completes.outside mem way).1,
      fun trees way => (proper_of_pop head completes.outside mem way).2,
      fun element trees way => ok.stack.tagged inside completes element mem way, ok.place v⟩
  obtain ⟨okay, extended⟩ := ok.complete v bonus (p.top v).place
    (p.stack.pop (p.version v).node count) completes.phrase completes.noError completable
  refine ⟨okay, extended, fun w same => ?_⟩
  rw [Progress.reduce] at same ⊢
  dsimp only at same ⊢
  split at same
  · next more =>
    cases same
    exact ⟨rfl, more⟩
  · cases same

end ProgressOk

/-! ### The tree of a whole text -/

/-- The tree of a whole text is the last one before its end, with all others below it. -/
theorem Progress.wholeTree_eq (earlier : List SyntaxTree) {root last : SyntaxTree}
    (solid : root.extra = false) (extra : last.extra = true) :
    Progress.wholeTree (earlier ++ [root, last]) =
      some (ofChildren root.symbol root.label.before (earlier ++ root.children ++ [last])) := by
  have noExtra : ¬root.extra = true := by
    rw [solid]
    exact Bool.false_ne_true
  rw [Progress.wholeTree, List.reverse_append, List.reverse_cons, List.reverse_singleton,
    List.singleton_append, List.cons_append, List.singleton_append,
    List.dropWhile_cons_of_pos extra, List.dropWhile_cons_of_neg noExtra,
    List.takeWhile_cons_of_pos extra, List.takeWhile_cons_of_neg noExtra]
  dsimp only
  rw [List.reverse_reverse]
  rfl

end Parse

end JsxDetect
