import JsxDetect.Proofs.Parse.NextToken
import JsxDetect.Proofs.Parse.Turn

/-!
# Rounds with one version or two

A round of the parser in which a single version takes a token, and rounds in which a second one has
begun at a place where a phrase could be complete, until it meets a token that it cannot take.

## Main Definitions

* `Stands`: a node on a pile without errors
* `Comes`: after some rounds there is a single version
* `Forks`: after some rounds there are two versions

## Main Results

* `Comes.step`: one more token
* `Comes.fork`, `Forks.step`: a stray reading begins, and ends

## Design Notes

**A run as an equation.**  `Comes` says that the run on a text equals a run that goes on from a
state with one version, with so much fuel left.  As an equation it needs no description of the state
besides the pile, and a further token rewrites the right side of it.  That the fuel is enough comes
with it: each round takes at least one character, and `Comes` keeps 64 rounds to spare.

**Stray readings.**  Behind a `<` the grammar allows readings that are given up a token later.  Two
versions are then in the list for one round.  They are never in one state, so they are not joined,
and the stray one is not preferred; both are hypotheses of `Comes.fork`, decided by evaluation.
-/

namespace JsxDetect.Parse

open Automaton Stack SyntaxTree

variable {text : List Char} {slots : List Slot}

/-! ### Nothing to pay -/

/-- A pile that shows slots costs nothing: all its trees are without errors. -/
theorem Pile.cost {stack : Stack} {i : Nat} {fs : List Frame} (pile : Pile text stack i fs)
    (shown : Shows fs slots) : (stack.node i).cost = 0 := by
  induction pile generalizing slots with
  | bottom inside node => rw [node]
  | @above i below f fs inside lower node solid rest ih =>
    cases shown with
    | above state clean deeper =>
      rw [node]
      change (stack.node below).cost + f.tree.cost = 0
      rw [ih deeper, clean.cost]

namespace Progress

/-- A version that goes on, from a node without errors below. -/
structure Sound (p : Progress) (v i : Nat) : Prop where
  version : p.version v = ⟨i, none, 0, .active⟩
  cost : (p.stack.node i).cost = 0
  outside : (p.stack.node i).state ≠ 0

namespace Sound

variable {p : Progress} {v i : Nat} (sound : p.Sound v i)

include sound

theorem active : p.Active v := by
  rw [Active, sound.version]
  rfl

theorem top : p.top v = p.stack.node i := by
  rw [Progress.top, sound.version]

theorem hasAdvanced : p.hasAdvanced v = true := by
  rw [Progress.hasAdvanced, if_pos (by rw [sound.top, sound.cost])]

/-- A sound version has no cost and is in no error, so its standing is a count and what speaks for
it. -/
theorem standing :
    p.standing v = (⟨0, (p.stack.node i).nodeCount, (p.stack.node i).bonus, false⟩, p) := by
  have outside : ((p.stack.node i).state == 0) = false := beq_false_of_ne sound.outside
  have cost : p.errorCost v = 0 := by
    rw [errorCost, sound.top, sound.cost, sound.version]
    dsimp only [Status.isPaused]
    rw [decide_eq_false sound.outside]
    rfl
  have count : p.countSinceError v = ((p.stack.node i).nodeCount, p) := by
    rw [countSinceError, sound.top, sound.version]
    dsimp only
    rw [if_neg (Nat.not_lt_zero _), Nat.sub_zero]
  rw [Progress.standing, cost, count]
  dsimp only
  rw [Progress.state, sound.top, sound.version]
  dsimp only [Status.isPaused]
  rw [decide_eq_false sound.outside]
  rfl

end Sound

/-! ### The comparison of few versions -/

/-- A version that goes on from a node. -/
abbrev going (i : Nat) : Version := ⟨i, none, 0, .active⟩

/-- Nothing is finished yet, and there are some versions. -/
abbrev among (stack : Stack) (versions : List Version) : Progress := ⟨stack, versions, none, 0⟩

variable {stack : Stack} {i j : Nat}

/-- Comparing a sound version with those before it, with its standing written out. -/
theorem settleAll_sound {p : Progress} {v i : Nat} (inside : v < p.versions.length)
    (sound : p.Sound v i) (fuel : Nat) (least : Option Nat) :
    settleAll (fuel + 1) v least p =
      (fun next => settleAll fuel next.1 (some (match least with | some c => min c 0 | none => 0))
        next.2)
        (settle ⟨0, (p.stack.node i).nodeCount, (p.stack.node i).bonus, false⟩ v v 0 p) := by
  rw [settleAll, if_neg (Nat.not_le.mpr inside), sound.version]
  dsimp only
  rw [sound.standing]
  rfl

/-- A single version is kept. -/
theorem condense_one (sound : (among stack [going i]).Sound 0 i) (fuel : Nat) :
    (among stack [going i]).condense fuel = (some 0, among stack [going i]) := by
  have settled : settleAll 1 0 none (among stack [going i]) = (some 0, among stack [going i]) :=
    settleAll_sound Nat.one_pos sound 0 none
  rw [condense]
  dsimp only [List.length_cons, List.length_nil]
  rw [settled]
  rfl

/-- Two versions in different states are not joined. -/
theorem merge_eq_none {p : Progress} {v w i j : Nat} (soundI : p.Sound v i)
    (soundJ : p.Sound w j) (differ : (p.stack.node i).state ≠ (p.stack.node j).state) :
    p.merge v w = none := by
  have apart : p.stack.joins i j = false := by
    rw [joins, beq_false_of_ne differ]
    rfl
  rw [merge, canMerge, soundI.version, soundJ.version]
  dsimp only
  rw [apart, Bool.and_false, if_neg Bool.false_ne_true]

/-- Of two versions without errors the first one is preferred, or none of them, if there is not
more in favour of the second. -/
theorem compare_sound {count count' : Nat} {bonus bonus' : Int} (favour : bonus' ≤ bonus) :
    (Standing.mk 0 count bonus false).compare ⟨0, count', bonus', false⟩ =
      if bonus > bonus' then .preferLeft else .neither := by
  rw [Standing.compare]
  dsimp only
  rw [if_neg (c := bonus' > bonus) (Int.not_lt.mpr favour)]
  rfl

/-- Two versions in different states are kept, in the same order if there is not more in favour
of the second one. -/
theorem condense_two (soundI : (among stack [going i, going j]).Sound 0 i)
    (soundJ : (among stack [going i, going j]).Sound 1 j)
    (differ : (stack.node i).state ≠ (stack.node j).state)
    (favour : (stack.node j).bonus ≤ (stack.node i).bonus) (fuel : Nat) :
    (among stack [going i, going j]).condense fuel =
      (some 0, among stack [going i, going j]) := by
  have settled : settle ⟨0, (stack.node j).nodeCount, (stack.node j).bonus, false⟩ 1 1 0
      (among stack [going i, going j]) = (2, among stack [going i, going j]) := by
    rw [settle, if_neg (by decide), soundI.standing]
    dsimp only
    rw [compare_sound favour, merge_eq_none soundI soundJ differ]
    by_cases more : (stack.node i).bonus > (stack.node j).bonus
    · rw [if_pos more]
      rfl
    · rw [if_neg more]
      rfl
  have settledAll : settleAll 2 0 none (among stack [going i, going j]) =
      (some 0, among stack [going i, going j]) := by
    rw [settleAll_sound Nat.two_pos soundI]
    change settleAll 1 1 (some 0) (among stack [going i, going j]) = _
    rw [settleAll_sound Nat.one_lt_two soundJ, settled]
    rfl
  rw [condense]
  dsimp only [List.length_cons, List.length_nil]
  rw [settledAll]
  rfl

/-- A version that met an error at a token. -/
abbrev stopped (stack : Stack) (j : Nat) (token : SyntaxTree) : Version :=
  ⟨j, none, (stack.node j).nodeCount, .paused token⟩

/-- A version that met an error is in one, and costs at least what recovering does. -/
theorem standing_stopped {p : Progress} {v j : Nat} {token : SyntaxTree}
    (version : p.version v = stopped p.stack j token) :
    ∃ standing, p.standing v = (standing, p) ∧ standing.inError = true ∧
      Cost.recovery ≤ standing.cost := by
  have count : p.countSinceError v = (0, p) := by
    rw [countSinceError, Progress.top, version]
    dsimp only
    rw [if_neg (Nat.lt_irrefl _), Nat.sub_self]
  rw [Progress.standing, count, errorCost, version]
  refine ⟨_, rfl, rfl, ?_⟩
  simp only [Status.isPaused, Bool.true_or, if_true]
  omega

/-- A version that met an error is given up if another one goes on: it has a cost, and the other
none. -/
theorem condense_stopped {token : SyntaxTree}
    (soundI : (among stack [going i, stopped stack j token]).Sound 0 i) (fuel : Nat) :
    (among stack [going i, stopped stack j token]).condense fuel =
      (some 0, among stack [going i]) := by
  obtain ⟨own, standing, inError, costs⟩ := standing_stopped
    (p := among stack [going i, stopped stack j token]) (v := 1) rfl
  have better : (Standing.mk 0 (stack.node i).nodeCount (stack.node i).bonus false).compare own =
      .takeLeft := by
    have pays : 0 < own.cost := Nat.lt_of_lt_of_le (by decide) costs
    rw [Standing.compare, inError]
    exact if_pos pays
  have settled : settle own 1 1 0 (among stack [going i, stopped stack j token]) =
      (1, among stack [going i]) := by
    rw [settle, if_neg (by decide), soundI.standing]
    dsimp only
    rw [better]
    rfl
  have settledAll : settleAll 2 0 none (among stack [going i, stopped stack j token]) =
      (some 0, among stack [going i]) := by
    rw [settleAll_sound Nat.two_pos soundI]
    change settleAll 1 1 (some 0) (among stack [going i, stopped stack j token]) = _
    have inside : ¬1 ≥ (among stack [going i, stopped stack j token]).versions.length :=
      Nat.not_le.mpr Nat.one_lt_two
    have version : (among stack [going i, stopped stack j token]).version 1 =
      stopped stack j token := rfl
    rw [settleAll, if_neg inside, version]
    dsimp only
    rw [standing]
    dsimp only
    rw [inError, if_pos rfl, settled]
    rfl
  rw [condense]
  dsimp only [List.length_cons, List.length_nil]
  rw [settledAll]
  rfl

/-! ### One token on one version -/

/-- A version that has come past the foremost place, or to it behind another version, has had its
turn. -/
theorem advanceVersion_of_place {p q : Progress} {v budget : Nat} (last : Nat) {cursor : Cursor}
    (active : p.Active v) (advanced : p.advance budget v = q) (place : (q.top v).place = cursor)
    (further : last < cursor.offset ∨ 0 < v ∧ last = cursor.offset) {fuel : Nat} (positive : 0 < fuel) :
    advanceVersion budget v fuel last p = (cursor.offset, q) := by
  obtain ⟨fuel, rfl⟩ := Nat.exists_eq_add_one_of_ne_zero (Nat.ne_of_gt positive)
  have isActive : (p.version v).status.isActive = true := active
  rw [advanceVersion, if_pos isActive, advanced]
  dsimp only
  rw [place, if_pos]
  rw [Bool.or_eq_true, Bool.and_eq_true, decide_eq_true_eq, decide_eq_true_eq, decide_eq_true_eq]
  exact further.imp id fun ⟨later, same⟩ => ⟨later, same.symm⟩

theorem advanceVersion_of_inactive {p : Progress} {v : Nat} (inactive : ¬p.Active v)
    (budget last fuel : Nat) : advanceVersion budget v fuel last p = (last, p) := by
  cases fuel with
  | zero => rfl
  | succ fuel => rw [advanceVersion, if_neg (show ¬(p.version v).status.isActive = true from inactive)]

/-- A version goes on as long as it is not ahead of the others. -/
theorem advanceVersion_of_behind {p q : Progress} {v budget : Nat} (last : Nat) {cursor : Cursor}
    (active : p.Active v) (advanced : p.advance budget v = q) (place : (q.top v).place = cursor)
    (behind : ¬(last < cursor.offset ∨ 0 < v ∧ last = cursor.offset)) (fuel : Nat) :
    advanceVersion budget v (fuel + 1) last p = advanceVersion budget v fuel last q := by
  have isActive : (p.version v).status.isActive = true := active
  rw [advanceVersion, if_pos isActive, advanced]
  dsimp only
  rw [place, if_neg]
  rw [Bool.or_eq_true, Bool.and_eq_true, decide_eq_true_eq, decide_eq_true_eq, decide_eq_true_eq]
  exact fun further => behind (further.imp id fun ⟨later, same⟩ => ⟨later, same.symm⟩)

/-- A version that stops at a place not ahead of the others. -/
theorem advanceVersion_of_stop {p q : Progress} {v budget : Nat} (last : Nat) {cursor : Cursor}
    (active : p.Active v) (advanced : p.advance budget v = q) (inactive : ¬q.Active v)
    (place : (q.top v).place = cursor) (behind : ¬(last < cursor.offset ∨ 0 < v ∧ last = cursor.offset))
    {fuel : Nat} (positive : 0 < fuel) : advanceVersion budget v fuel last p = (last, q) := by
  obtain ⟨fuel, rfl⟩ := Nat.exists_eq_add_one_of_ne_zero (Nat.ne_of_gt positive)
  rw [advanceVersion_of_behind last active advanced place behind,
    advanceVersion_of_inactive inactive]

/-- **A round** after which nothing is finished: the run goes on with the versions that are left.
The cost of the best version does not matter while there is no tree to compare it with. -/
theorem run_of_open {budget last last' : Nat} {p q r : Progress} {least : Option Nat}
    (advanced : advanceAll budget budget 0 last p = (last', q)) (more : q.versions ≠ [])
    (condensed : q.condense budget = (least, r)) (unfinished : r.finished = none) (fuel : Nat) :
    run budget (fuel + 1) last p = run budget fuel last' r := by
  have isMore : q.versions.isEmpty = false := by
    rw [← Bool.not_eq_true, List.isEmpty_iff]
    exact more
  rw [run, advanced]
  dsimp only
  rw [condensed]
  dsimp only
  rw [isMore, unfinished]
  rfl

theorem advanceAll_of_inside {budget v last last' : Nat} {p q : Progress}
    (inside : v < p.versions.length) (advanced : advanceVersion budget v budget last p = (last', q))
    {fuel : Nat} (positive : 0 < fuel) :
    advanceAll budget fuel v last p = advanceAll budget (fuel - 1) (v + 1) last' q := by
  obtain ⟨fuel, rfl⟩ := Nat.exists_eq_add_one_of_ne_zero (Nat.ne_of_gt positive)
  rw [advanceAll, if_pos inside, advanced]
  rfl

theorem advanceAll_of_outside {budget v last : Nat} {p : Progress}
    (outside : p.versions.length ≤ v) (fuel : Nat) : advanceAll budget fuel v last p = (last, p) := by
  cases fuel with
  | zero => rfl
  | succ fuel => rw [advanceAll, if_neg (Nat.not_lt.mpr outside)]

end Progress

/-! ### Versions on piles -/

/-- A node on a pile without errors. -/
structure Stands (text : List Char) (stack : Stack) (i : Nat) (slots : List Slot) (cursor : Cursor) :
    Prop where
  pile : ∃ fs, Pile text stack i fs ∧ Shows fs slots
  place : (stack.node i).place = cursor
  outside : topSlot slots ≠ 0

namespace Stands

open Progress

variable {stack stack' : Stack} {i : Nat} {cursor : Cursor} (stands : Stands text stack i slots cursor)

include stands

theorem state : (stack.node i).state = topSlot slots := by
  obtain ⟨fs, pile, shown⟩ := stands.pile
  exact pile.state.trans shown.topState

theorem inside : i < stack.size := by
  obtain ⟨fs, pile, -⟩ := stands.pile
  exact pile.inside

theorem prolong (prolongs : Prolongs stack stack') : Stands text stack' i slots cursor := by
  obtain ⟨fs, pile, shown⟩ := stands.pile
  refine ⟨⟨fs, pile.prolong prolongs, shown⟩, ?_, stands.outside⟩
  rw [prolongs.node i pile.inside, stands.place]

/-- A version that stands on a pile and goes on is sound. -/
theorem sound {p : Progress} {v : Nat} (same : p.stack = stack) (version : p.version v = going i) :
    p.Sound v i := by
  obtain ⟨fs, pile, shown⟩ := stands.pile
  refine ⟨version, ?_, ?_⟩
  · rw [same]
    exact pile.cost shown
  · rw [same, stands.state]
    exact stands.outside

/-- The token that the version reads next. -/
theorem reading {p : Progress} {v : Nat} (same : p.stack = stack) (version : p.version v = going i)
    {taken rest : List Char} {symbol : Symbol} (reads : Reads (topSlot slots) taken symbol rest)
    (chars : cursor.rest = taken ++ rest) {budget : Nat} (positive : 0 < budget) :
    ∃ start, p.advance budget v =
      consume v budget (leaf symbol cursor start (cursor.behind taken rest)) p := by
  obtain ⟨budget, rfl⟩ := Nat.exists_eq_add_one_of_ne_zero (Nat.ne_of_gt positive)
  obtain ⟨start, looks⟩ := reads.reads cursor chars
  have sound := stands.sound same version
  refine ⟨start, ?_⟩
  rw [Progress.advance, sound.top, sound.hasAdvanced, same, stands.state, stands.place, looks]

/-- **The version takes the next token**, as computed from the states.  It stands on new slots then,
at the place behind the token. -/
theorem advance {p : Progress} {v : Nat} (same : p.stack = stack)
    (version : p.version v = going i) (few : p.versions.length ≤ maxVersions + versionOverflow)
    {avoid : List StateId} (othersAmong : OthersAmong p v avoid) {taken rest : List Char}
    {symbol : Symbol}
    (reads : Reads (topSlot slots) taken symbol rest) (token : ordinary symbol = true)
    (chars : cursor.rest = taken ++ rest) {after : List Slot} {bonus : Int}
    (turns : Turns avoid symbol slots after bonus) {budget : Nat} (enough : 64 ≤ budget) :
    Moved text v (cursor.behind taken rest) after bonus p (p.advance budget v) := by
  obtain ⟨start, advances⟩ := stands.reading same version reads chars (by omega : 0 < budget)
  obtain ⟨fs, pile, shown⟩ := stands.pile
  rw [advances]
  subst same
  exact consume_of_turns (stands.sound rfl version).active few (by rw [version]; exact pile) shown
    othersAmong (leaf symbol cursor start _) (.leaf token false) rfl turns
    (Nat.lt_of_lt_of_le (by decide) enough)

/-- **The version stops** at a token with which nothing can be done.  What it completed before is
kept, so it stands on other slots than it did. -/
theorem stop {p : Progress} {v : Nat} (same : p.stack = stack) (version : p.version v = going i)
    (few : p.versions.length ≤ maxVersions + versionOverflow) {avoid : List StateId}
    (othersAmong : OthersAmong p v avoid) {taken rest : List Char} {symbol : Symbol}
    (reads : Reads (topSlot slots) taken symbol rest) (chars : cursor.rest = taken ++ rest)
    {after : List Slot} {bonus : Int} (stalls : Stalls avoid symbol slots after bonus)
    {budget : Nat} (enough : 64 ≤ budget) :
    ∃ token q, Moved text v cursor after bonus p q ∧ p.advance budget v = stoppedAt token v q := by
  obtain ⟨start, advances⟩ := stands.reading same version reads chars (by omega : 0 < budget)
  obtain ⟨fs, pile, shown⟩ := stands.pile
  rw [advances]
  subst same
  obtain ⟨q, moved, stops⟩ := consume_of_stalls (stands.sound rfl version).active few
    (by rw [version]; exact pile) shown othersAmong
    (leaf symbol cursor start (cursor.behind taken rest)) stalls
    (Nat.lt_of_lt_of_le (by decide) enough)
  rw [(stands.sound rfl version).top, stands.place] at moved
  exact ⟨_, q, moved, stops⟩

end Stands

section

variable {p q : Progress} {v : Nat} {cursor : Cursor} {bonus : Int}

theorem Moved.stands (moved : Moved text v cursor slots bonus p q) (outside : topSlot slots ≠ 0) :
    Stands text q.stack (q.version v).node slots cursor :=
  ⟨moved.pile, moved.place, outside⟩

end

/-- One of some versions has moved. -/
theorem Moved.among {stack : Stack} {versions : List Version} {v i : Nat} {cursor : Cursor}
    {bonus : Int} {q : Progress}
    (moved : Moved text v cursor slots bonus (Progress.among stack versions) q)
    (inside : v < versions.length) (version : versions[v] = Progress.going i)
    (outside : topSlot slots ≠ 0) :
    ∃ stack' i', q = Progress.among stack' (versions.set v (Progress.going i')) ∧
      Prolongs stack stack' ∧ Stands text stack' i' slots cursor ∧
      (stack'.node i').bonus = (stack.node i).bonus + bonus := by
  have before : (Progress.among stack versions).version v = Progress.going i := by
    rw [Progress.version_eq_getElem inside]
    exact version
  obtain ⟨i', after⟩ := moved.versions
  have stands := moved.stands outside
  have favour := moved.favour
  have prolongs := moved.prolongs
  obtain ⟨stack', versions', finished, accepted⟩ := q
  cases moved.finished
  cases moved.accepted
  cases after
  rw [before] at stands favour ⊢
  have now : (Progress.among stack' (versions.set v (Progress.going i'))).version v =
      Progress.going i' := by
    rw [Progress.version, List.getD_eq_getElem?_getD, List.getElem?_set_self inside]
    rfl
  rw [now] at stands
  rw [Progress.top, now, Progress.top, before] at favour
  exact ⟨stack', i', rfl, prolongs, stands, favour⟩

/-- A version that may both complete a phrase and go on does both, each in a version of its own.
The one that goes on keeps the first place, and the phrase is in the second version. -/
theorem consume_of_fork {stack : Stack} {i : Nat} {cursor : Cursor}
    (stands : Stands text stack i slots cursor) (token : SyntaxTree)
    (clean : (token.withExtra false).Clean false) (leaf : token.bonus = 0) {symbol : Symbol}
    {count : Nat} {bonus : Int} {next : StateId}
    (action : actions (topSlot slots) token.symbol =
      [.reduce symbol count bonus, .shift next false])
    (allowed : Allowed [] symbol count bonus slots) (outside : next ≠ 0)
    (outside' : topSlot (regroup symbol count slots) ≠ 0) (fuel : Nat) :
    ∃ stack' i' j', Progress.consume 0 (fuel + 1) token (Progress.among stack [Progress.going i]) =
        Progress.among stack' [Progress.going i', Progress.going j'] ∧
      Stands text stack' i' (⟨next, false⟩ :: slots) token.label.stop ∧
      Stands text stack' j' (regroup symbol count slots) cursor ∧
      (stack'.node j').bonus = (stack'.node i').bonus + bonus := by
  obtain ⟨fs, pile, shown⟩ := stands.pile
  obtain ⟨taken, base, rfl, rfl, floor, grouped⟩ :=
    shown.group allowed.deep allowed.sound allowed.noTag bonus (stack.node i).place
  rw [← floor] at grouped
  obtain ⟨below, pileBelow, reduced⟩ := reduce_pile
    (p := Progress.among stack [Progress.going i]) (v := 0) (Nat.le_add_left 1 _) pile
    rfl bonus (Progress.apart_of_alone rfl (goto (topState base) symbol) _)
  have state : (Progress.among stack [Progress.going i]).state 0 = topSlot slots := stands.state
  have top : ((Progress.among stack [Progress.going i]).top 0).place = cursor := stands.place
  have solid : (token.withExtra false).extra = false := extra_withExtra ..
  have solid' : (groupOf symbol bonus cursor taken).extra = false := extra_addBonus ..
  rw [top] at reduced
  rw [stands.place] at grouped
  -- The phrase comes on a node of its own, below which the version itself has not moved.
  have stray := pileBelow.push solid' (goto (topState base) symbol)
  have prolongs := Prolongs.push stack
    (stack.nodeOver below (some (groupOf symbol bonus cursor taken)) (goto (topState base) symbol))
  have main := (pile.prolong prolongs).push solid next
  have prolongs' := Prolongs.push (Array.push stack
    (stack.nodeOver below (some (groupOf symbol bonus cursor taken)) (goto (topState base) symbol)))
    (Stack.nodeOver (Array.push stack (stack.nodeOver below
      (some (groupOf symbol bonus cursor taken)) (goto (topState base) symbol)))
      i (some (token.withExtra false)) next)
  refine ⟨_, _, stack.size, ?_, ⟨⟨_, main, .above rfl clean shown⟩, ?_, outside⟩,
    ⟨⟨_, stray.prolong prolongs', grouped⟩, ?_, outside'⟩, ?_⟩
  · rw [Progress.consume, state, action, Progress.act, reduced]
    rfl
  · rw [main.place]
    exact (similar_withExtra token false).stop
  · rw [(stray.prolong prolongs').place]
    refine groupOf_stop fun f head => ?_
    rw [Pile.top_stop (p := Progress.among stack [Progress.going i]) (v := 0) pile f head]
    exact top
  · rw [(stray.prolong prolongs').bonus, main.bonus, favourOf_cons, favourOf_cons, favourOf_append,
      bonus_groupOf bonus fun none => allowed.counts (List.length_eq_zero_iff.mpr none),
      bonus_withExtra, leaf]
    omega

theorem le_budgetFor (text : List Char) : 64 ≤ budgetFor text.length := by
  rw [budgetFor]
  omega

/-- After some rounds a single version is left, with so many characters still to be read. -/
def Comes (text : List Char) (slots : List Slot) (chars : List Char) : Prop :=
  ∃ fuel cursor stack i, Progress.run (budgetFor text.length) (budgetFor text.length) 0 (.start text) =
      Progress.run (budgetFor text.length) fuel cursor.offset (Progress.among stack [Progress.going i]) ∧
    chars.length + 64 ≤ fuel ∧ chars <:+ text ∧ cursor.rest = chars ∧ Stands text stack i slots cursor

namespace Comes

open Progress

theorem start (text : List Char) : Comes text [⟨1, false⟩] text := by
  refine ⟨budgetFor text.length, Cursor.ofText text, _, 0, rfl, ?_, List.suffix_rfl, rfl,
    ⟨[], .bottom ?_ rfl, .beginning⟩, rfl, ?_⟩
  · rw [budgetFor]
    omega
  · exact Nat.one_pos
  · decide

/-- **One more token.**  A single version reads it, makes its reductions, and is alone again. -/
theorem step (known after deeper : List Slot) {bonus : Int} {taken rest : List Char}
    {symbol : Symbol} (comes : Comes text (known ++ deeper) (taken ++ rest))
    (nonempty : known ≠ []) (reads : Reads (topSlot known) taken symbol rest)
    (token : ordinary symbol = true) (turns : Turns [] symbol known after bonus) :
    Comes text (after ++ deeper) rest := by
  obtain ⟨fuel, cursor, stack, i, runs, enough, suffix, chars, stands⟩ := comes
  have turns := turns.append nonempty deeper
  have outside := turns.outside
  have reads : Reads (topSlot (known ++ deeper)) taken symbol rest := by
    rw [topSlot_append nonempty]
    exact reads
  have othersAmong : OthersAmong (among stack [going i]) 0 [] :=
    fun w inside other => absurd (Nat.lt_one_iff.mp inside) other
  have budget := le_budgetFor text
  have moved := stands.advance rfl rfl (Nat.le_add_left 1 _) othersAmong reads token chars
    turns budget
  obtain ⟨stack', i', same, -, stands', -⟩ := moved.among Nat.one_pos rfl outside
  have behind := Cursor.offset_le_behind cursor taken rest
  have positive := List.length_pos_iff.mpr reads.nonempty
  -- The round ends when the only version has come past the place where it was.
  have versionAdvanced := advanceVersion_of_place cursor.offset
    (stands.sound (p := among stack [going i]) rfl rfl).active rfl moved.place
    (.inl (by omega)) (show 0 < budgetFor text.length by omega)
  rw [same] at versionAdvanced
  have advanced : advanceAll (budgetFor text.length) (budgetFor text.length) 0 cursor.offset
      (among stack [going i]) = ((cursor.behind taken rest).offset, among stack' [going i']) :=
    (advanceAll_of_inside Nat.one_pos versionAdvanced (by omega)).trans
      (advanceAll_of_outside (Nat.le_refl 1) _)
  rw [List.length_append] at enough
  refine ⟨fuel - 1, cursor.behind taken rest, stack', i', ?_, by omega,
    (List.suffix_append taken rest).trans suffix, Cursor.behind_rest .., stands'⟩
  rw [runs, ← run_of_open advanced (List.cons_ne_nil _ _)
    (condense_one (stands'.sound rfl rfl) _) rfl, Nat.sub_add_cancel (by omega)]

/-! ### Tokens of a plain text -/

/-- What a version with some slots on top does at a token: in which slots it ends, if its state
reads with one of some lexicons. -/
def takes (symbol : Symbol) (lexicons : List Nat) (known after : List Slot) : Bool :=
  !known.isEmpty && topSlot known != 0 && lexicons.contains (row (topSlot known)).lexicon &&
    ordinary symbol && (turn [] symbol known).map Prod.fst == some after

/-- What the computation says of a token. -/
structure Takes (symbol : Symbol) (lexicons : List Nat) (known after : List Slot) : Prop where
  nonempty : known ≠ []
  outside : topSlot known ≠ 0
  lexicon : (row (topSlot known)).lexicon ∈ lexicons
  token : ordinary symbol = true
  turns : ∃ bonus, Turns [] symbol known after bonus

theorem takes_iff {symbol : Symbol} {lexicons : List Nat} {known after : List Slot}
    (holds : takes symbol lexicons known after = true) : Takes symbol lexicons known after := by
  simp only [takes, Bool.and_eq_true, Bool.not_eq_true', bne_iff_ne, beq_iff_eq,
    List.isEmpty_eq_false_iff, List.contains_iff_mem,
    Option.map_eq_some_iff] at holds
  obtain ⟨⟨⟨⟨nonempty, outside⟩, lexicon⟩, token⟩, ⟨found, bonus⟩, turns, rfl⟩ := holds
  exact ⟨nonempty, outside, lexicon, token, bonus, .of_turn turns⟩

theorem plain {slots : List Slot} {chars : List Char} (comes : Comes text slots chars)
    (allPlain : Plain text) : Plain chars := by
  obtain ⟨-, -, -, -, -, -, suffix, -⟩ := comes
  exact fun c mem => allPlain c (suffix.subset mem)

variable (known after deeper : List Slot) (blank : List Char) {rest : List Char} (allPlain : Plain text)
  (space : ∀ b ∈ blank, b ∈ Token.spaces) (line : '\n' ∉ blank)

include allPlain space line

/-- **A name** that is no keyword, in a state that reads names.  Only the slots named are looked at;
those below may be any. -/
theorem name (word : List Char) (comes : Comes text (known ++ deeper) (blank ++ (word ++ rest)))
    (holds : takes Symbol.identifier nameLexicons known after = true) (isWord : Token.IsWord word)
    (free : Grammar.keyword? word = none) (next : Token.Lexicon.Follows rest nameEnders) :
    Comes text (after ++ deeper) rest := by
  obtain ⟨nonempty, outside, lexicon, token, bonus, turns⟩ := takes_iff holds
  have reads := Reads.name outside lexicon space line isWord next (comes.plain allPlain) free
  rw [← List.append_assoc] at comes
  exact comes.step known after deeper nonempty reads token turns

/-- **A keyword** that the state can use; in other states the word would be read as a name.  Here,
too, the slots below may be any. -/
theorem keyword (word : List Char) {symbol : Symbol}
    (comes : Comes text (known ++ deeper) (blank ++ (word ++ rest)))
    (holds : takes symbol nameLexicons known after = true) (isWord : Token.IsWord word)
    (keyword : Grammar.keyword? word = some symbol)
    (short : word.length ≤ Grammar.longestKeyword) (acts : acts (topSlot known) symbol = true)
    (next : Token.Lexicon.Follows rest nameEnders) : Comes text (after ++ deeper) rest := by
  obtain ⟨nonempty, outside, lexicon, token, bonus, turns⟩ := takes_iff holds
  have reads := Reads.keyword outside lexicon space line isWord next (comes.plain allPlain)
    keyword short acts
  rw [← List.append_assoc] at comes
  exact comes.step known after deeper nonempty reads token turns

/-- **A fixed text**, such as a sign, if nothing longer can be read there.  It is sound if the
lexicons it names read it, which is checked once for a token. -/
theorem fixed (t : FixedToken) (sound : t.sound = true)
    (comes : Comes text (known ++ deeper) (blank ++ (t.text ++ rest)))
    (holds : takes t.symbol t.lexicons known after = true)
    (loose : blank = [] ∨ (row (topSlot known)).lexicon ∈ looseLexicons)
    (next : Token.Lexicon.Follows rest t.enders) : Comes text (after ++ deeper) rest := by
  obtain ⟨nonempty, outside, lexicon, token, bonus, turns⟩ := takes_iff holds
  have reads := FixedToken.reads sound outside lexicon (fun differs => loose.resolve_left differs)
    space line next (comes.plain allPlain)
  rw [← List.append_assoc] at comes
  exact comes.step known after deeper nonempty reads token turns

/-- **The beginning of a tag.**  The word behind it must not make `<template>`, which is one token.
-/
theorem lessThan (word : List Char)
    (comes : Comes text (known ++ deeper) (blank ++ '<' :: (word ++ rest)))
    (holds : takes 96 lessThanLexicons known after = true)
    (loose : blank = [] ∨ (row (topSlot known)).lexicon ∈ looseLexicons)
    (isWord : Token.IsWord word) (noTemplate : word ≠ templateWord)
    (next : ∀ d, rest.head? = some d → Token.isLetter d = false) :
    Comes text (after ++ deeper) (word ++ rest) := by
  obtain ⟨nonempty, outside, lexicon, token, bonus, turns⟩ := takes_iff holds
  have reads := Reads.lessThan outside lexicon
    (fun differs => looseLexicons_skip _ (loose.resolve_left differs)) space line isWord noTemplate
    next (comes.plain allPlain)
  rw [show blank ++ '<' :: (word ++ rest) = (blank ++ ['<']) ++ (word ++ rest) by simp] at comes
  exact comes.step known after deeper nonempty reads token turns

end Comes

/-! ### A stray reading -/

/-- After some rounds there are two versions, with so many characters still to be read.  There
is not more in favour of the second one. -/
def Forks (text : List Char) (slots stray : List Slot) (chars : List Char) : Prop :=
  ∃ fuel cursor stack i j, Progress.run (budgetFor text.length) (budgetFor text.length) 0 (.start text) =
      Progress.run (budgetFor text.length) fuel cursor.offset
        (Progress.among stack [Progress.going i, Progress.going j]) ∧
    chars.length + 64 ≤ fuel ∧ chars <:+ text ∧ cursor.rest = chars ∧
    Stands text stack i slots cursor ∧ Stands text stack j stray cursor ∧ (stack.node j).bonus ≤ (stack.node i).bonus

open Progress

/-- **A stray reading begins.**  At a token a phrase could be complete, but need not be.  So there
are two versions then, one with the phrase and one without. -/
theorem Comes.fork (known stray deeper : List Slot) {bonus strayBonus : Int}
    {taken rest : List Char} {symbol strayToken group : Symbol} {count : Nat} {next : StateId}
    (comes : Comes text (known ++ deeper) (taken ++ rest)) (nonempty : known ≠ [])
    (reads : Reads (topSlot known) taken symbol rest) (token : ordinary symbol = true)
    (action : actions (topSlot known) symbol = [.reduce group count bonus, .shift next false])
    (allowed : Allowed [] group count bonus known) (outside : next ≠ 0)
    (strayOutside : topSlot (regroup group count known) ≠ 0)
    (strayReads : Reads (topSlot (regroup group count known)) taken strayToken rest)
    (strayIsToken : ordinary strayToken = true)
    (strayTurns : Turns [next] strayToken (regroup group count known) stray strayBonus)
    (disfavour : bonus + strayBonus ≤ 0) (differ : next ≠ topSlot stray) :
    Forks text (⟨next, false⟩ :: known ++ deeper) (stray ++ deeper) rest := by
  obtain ⟨fuel, cursor, stack, i, runs, enough, suffix, chars, stands⟩ := comes
  have budget := le_budgetFor text
  have nonempty' : regroup group count known ≠ [] := List.cons_ne_nil _ _
  have deep : count < (known ++ deeper).length := by
    rw [List.length_append]
    exact Nat.lt_of_lt_of_le allowed.deep (Nat.le_add_right _ _)
  have reads : Reads (topSlot (known ++ deeper)) taken symbol rest := by
    rw [topSlot_append nonempty]
    exact reads
  have strayReads : Reads (topSlot (regroup group count known ++ deeper)) taken strayToken rest := by
    rw [topSlot_append nonempty']
    exact strayReads
  -- The version does both: it takes the token, and it completes the phrase.
  obtain ⟨start, advances⟩ := stands.reading (p := among stack [going i]) (v := 0) rfl rfl reads
    chars (by omega : 0 < budgetFor text.length)
  obtain ⟨stack', i', j', consumed, main, other, favour⟩ := consume_of_fork stands
    (leaf symbol cursor start (cursor.behind taken rest)) (.leaf token false) rfl
    (by rw [topSlot_append nonempty]; exact action)
    ⟨deep, allowed.sound, allowed.noTag, List.not_mem_nil, allowed.counts⟩ outside
    (by rw [regroup_append allowed.deep, topSlot_append nonempty']; exact strayOutside)
    (budgetFor text.length - 1)
  rw [Nat.sub_add_cancel (by omega), ← advances] at consumed
  have main : Stands text stack' i' (⟨next, false⟩ :: known ++ deeper) (cursor.behind taken rest) :=
    main
  have behind := Cursor.offset_le_behind cursor taken rest
  have positive := List.length_pos_iff.mpr reads.nonempty
  have first := advanceVersion_of_place cursor.offset
    (stands.sound (p := among stack [going i]) rfl rfl).active consumed main.place (.inl (by omega))
    (show 0 < budgetFor text.length by omega)
  -- The other version takes the token, too.
  have othersAmong : OthersAmong (among stack' [going i', going j']) 1 [next] := by
    intro w inside differs
    obtain rfl : w = 0 := by
      have inside : w < 2 := inside
      omega
    exact ⟨main.inside, fun _ => List.mem_singleton.mpr main.state⟩
  rw [regroup_append allowed.deep] at other
  have moved := other.advance rfl rfl (Nat.le_add_left 2 _) othersAmong strayReads strayIsToken chars
    (strayTurns.append nonempty' deeper) budget
  have strayOutside' := (strayTurns.append nonempty' deeper).outside
  obtain ⟨stack'', j'', same, prolongs, other', favour'⟩ :=
    moved.among Nat.one_lt_two rfl strayOutside'
  have second := advanceVersion_of_place (cursor.behind taken rest).offset
    (other.sound (p := among stack' [going i', going j']) (v := 1) rfl rfl).active rfl
    moved.place (.inr ⟨Nat.one_pos, rfl⟩) (show 0 < budgetFor text.length by omega)
  rw [same] at second
  have advanced : advanceAll (budgetFor text.length) (budgetFor text.length) 0 cursor.offset
      (among stack [going i]) =
        ((cursor.behind taken rest).offset, among stack'' [going i', going j'']) :=
    (advanceAll_of_inside Nat.one_pos first (by omega)).trans
      ((advanceAll_of_inside Nat.one_lt_two second (by omega)).trans
        (advanceAll_of_outside (Nat.le_refl 2) _))
  have main' := main.prolong prolongs
  have favours : (stack''.node j'').bonus ≤ (stack''.node i').bonus := by
    rw [prolongs.node i' main.inside, favour', favour]
    omega
  have differ' : (stack''.node i').state ≠ (stack''.node j'').state := by
    rw [main'.state, other'.state, topSlot_append (List.cons_ne_nil _ _),
      topSlot_append strayTurns.ne_nil]
    exact differ
  rw [List.length_append] at enough
  refine ⟨fuel - 1, cursor.behind taken rest, stack'', i', j'', ?_, by omega,
    (List.suffix_append taken rest).trans suffix, Cursor.behind_rest .., main', other', favours⟩
  rw [runs, ← run_of_open advanced (List.cons_ne_nil _ _)
    (condense_two (main'.sound rfl rfl) (other'.sound rfl rfl) differ' favours _) rfl,
    Nat.sub_add_cancel (by omega)]

theorem Forks.plain {slots stray : List Slot} {chars : List Char}
    (forks : Forks text slots stray chars) (allPlain : Plain text) : Plain chars := by
  obtain ⟨-, -, -, -, -, -, -, suffix, -⟩ := forks
  exact fun c mem => allPlain c (suffix.subset mem)

/-- **A stray reading ends** at a token with which nothing can be done, while the other version
takes its own token there.  The stray one is dropped at the end of the round. -/
theorem Forks.step (known after deeper : List Slot) {stray strayAfter : List Slot}
    {bonus strayBonus : Int}
    {taken strayTaken rest strayRest : List Char} {symbol strayToken : Symbol}
    (forks : Forks text (known ++ deeper) stray (taken ++ rest)) (nonempty : known ≠ [])
    (reads : Reads (topSlot known) taken symbol rest) (token : ordinary symbol = true)
    (turns : Turns [topSlot stray] symbol known after bonus)
    (strayReads : Reads (topSlot stray) strayTaken strayToken strayRest)
    (sameChars : strayTaken ++ strayRest = taken ++ rest)
    (stalls : Stalls [topSlot after] strayToken stray strayAfter strayBonus) :
    Comes text (after ++ deeper) rest := by
  obtain ⟨fuel, cursor, stack, i, j, runs, enough, suffix, chars, main, other, favour⟩ := forks
  have budget := le_budgetFor text
  have after_ne := turns.ne_nil
  have turns := turns.append nonempty deeper
  have outside := turns.outside
  have reads : Reads (topSlot (known ++ deeper)) taken symbol rest := by
    rw [topSlot_append nonempty]
    exact reads
  have othersAmong : OthersAmong (among stack [going i, going j]) 0 [topSlot stray] := by
    intro w inside differs
    obtain rfl : w = 1 := by
      have inside : w < 2 := inside
      omega
    exact ⟨other.inside, fun _ => List.mem_singleton.mpr other.state⟩
  have moved := main.advance (p := among stack [going i, going j]) (v := 0) rfl rfl
    (Nat.le_add_left 2 _) othersAmong reads token chars turns budget
  obtain ⟨stack', i', same, prolongs, main', -⟩ := moved.among Nat.two_pos rfl outside
  have behind := Cursor.offset_le_behind cursor taken rest
  have positive := List.length_pos_iff.mpr reads.nonempty
  have first := advanceVersion_of_place cursor.offset
    (main.sound (p := among stack [going i, going j]) (v := 0) rfl rfl).active rfl moved.place
    (.inl (by omega)) (show 0 < budgetFor text.length by omega)
  rw [same] at first
  -- The stray version stops.
  have other' := other.prolong prolongs
  have othersAmong' : OthersAmong (among stack' [going i', going j]) 1 [topSlot after] := by
    intro w inside differs
    obtain rfl : w = 0 := by
      have inside : w < 2 := inside
      omega
    exact ⟨main'.inside, fun _ => List.mem_singleton.mpr
      (main'.state.trans (topSlot_append after_ne deeper))⟩
  obtain ⟨unread, q, moved', stops⟩ := other'.stop (p := among stack' [going i', going j])
    (v := 1) rfl rfl (Nat.le_add_left 2 _) othersAmong' strayReads (chars.trans sameChars.symm) stalls
    budget
  obtain ⟨stack'', j', rfl, prolongs', other'', -⟩ :=
    moved'.among Nat.one_lt_two rfl stalls.outside
  have second := advanceVersion_of_stop (cursor.behind taken rest).offset
    (other'.sound (p := among stack' [going i', going j]) (v := 1) rfl rfl).active stops
    Bool.false_ne_true other''.place (by omega) (show 0 < budgetFor text.length by omega)
  have advanced : advanceAll (budgetFor text.length) (budgetFor text.length) 0 cursor.offset
      (among stack [going i, going j]) =
        ((cursor.behind taken rest).offset, among stack'' [going i', stopped stack'' j' unread]) :=
    (advanceAll_of_inside Nat.two_pos first (by omega)).trans
      ((advanceAll_of_inside Nat.one_lt_two second (by omega)).trans
        (advanceAll_of_outside (Nat.le_refl 2) _))
  have main'' := main'.prolong prolongs'
  rw [List.length_append] at enough
  refine ⟨fuel - 1, cursor.behind taken rest, stack'', i', ?_, by omega,
    (List.suffix_append taken rest).trans suffix, Cursor.behind_rest .., main''⟩
  rw [runs, ← run_of_open advanced (List.cons_ne_nil _ _)
    (condense_stopped (main''.sound rfl rfl) _) rfl, Nat.sub_add_cancel (by omega)]

end JsxDetect.Parse
