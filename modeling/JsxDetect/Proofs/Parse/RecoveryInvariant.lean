import JsxDetect.Proofs.Parse.AllReductions
import JsxDetect.Parse.Recovery

/-!
# Recovery preserves the invariant

Whatever is given up, skipped or added in an error, the trees stay well-formed: the trees given up
become the children of an error, a token that is added is never a `<` that an element could begin
with, and a skipped token is one that was read.

## Main Results

* `ProgressOk.recover`: dealing with a token while an error lasts
* `ProgressOk.handleError`: meeting an error

## Design Notes

**Repairs are ordinary steps.**  A tree that the parser makes up is pushed like any other, and what
has to be shown is that it fits: `Lifted.error` for the trees given up, `skipped_fits` for skipped
text, `missing_fits` for an added token.  The rest of the module is about numbers of versions.

**Why an added token is harmless.**  The parser adds a token only if the state behind it begins with
a reduction at the next token.  No state behind a tag does so at any token, by a check of the table,
so an added token never opens a tag; if it closes one, then the `<` was read.

**Tokens at the end of the text.**  Behind an added token the parser asks whether the next token
could be taken, and at the end of the text whether any could (`Progress.awaited`).  The invariant
does not depend on the difference: `reduceAll_last` is about both.

**Returning keeps the certificate.**  A version returns to a state only over nodes that were passed
on the way from it, and an error that it takes along may stand anywhere, so that the state behind it
is the one before it (`lifted_of_popError`).
-/

namespace JsxDetect.Parse

open Automaton Stack SyntaxTree

variable {text : List Char}

/-- A token that is skipped is well-formed, whether it is marked as one that may stand anywhere or
not. -/
theorem TokenOk.skippedToken {t : SyntaxTree} (ok : TokenOk text t) :
    (Progress.skippedToken t).WellFormed text := by
  rw [Progress.skippedToken]
  split
  · exact (similar_withExtra t true).wellFormed ok.wellFormed
  · exact ok.wellFormed

namespace ProgressOk

variable {p : Progress}

/-! ### Taking errors apart -/

/-- What is known of a node that a new version begins from, with the children of the error that
was taken off there. -/
structure Lifted (text : List Char) (stack : Stack) (goal : StateId) (node : Nat)
    (earlier : List SyntaxTree) : Prop where
  live : SoundBelow stack node
  state : 0 < behindTag goal → (stack.node node).state = goal
  outside : goal ≠ 0 → (stack.node node).state ≠ 0
  wellFormed : ∀ c ∈ earlier, c.WellFormed text
  last : ∀ c, earlier.getLast? = some c → c.extra = false

/-- A node from which no error was taken off: it is in the state that is returned to, and nothing
was brought along. -/
theorem lifted_nil {stack : Stack} {goal : StateId} {node : Nat} (live : SoundBelow stack node)
    (state : (stack.node node).state = goal) : Lifted text stack goal node [] :=
  ⟨live, fun _ => state, fun some => by rw [state]; exact some, by simp, fun c last => by cases last⟩

/-- A way down that has passed no tree is no way at all, or begins in an error. -/
theorem eq_start_of_no_trees {stack : Stack} (ok : StackOk text stack) {start : Nat}
    (inside : start < stack.size) {p : Path}
    (reached : Reached stack (fun p => p.trees = []) ⟨start, [], 0⟩ p) (none : p.trees = []) :
    p = ⟨start, [], 0⟩ ∨ (stack.node start).state = 0 := by
  induction reached with
  | start => exact .inl rfl
  | @above p link before stay mem ih =>
    rcases ih stay with rfl | zero
    · cases tree : link.tree with
      | none => exact .inr ((ok.links start inside link mem).begins tree)
      | some t =>
        rw [Path.over_some tree] at none
        cases none
    · exact .inr zero

/-- The way over an error leads to a node like the one before it.  An error may stand anywhere, so
the state behind it is the state before it, and its children are well-formed as it is. -/
theorem lifted_of_popError {stack : Stack} (ok : StackOk text stack) {start : Nat}
    (live : SoundBelow stack start) {q : Popped} (mem : q ∈ stack.popError start)
    {trees : List SyntaxTree} (way : trees ∈ q.paths) :
    ∃ error, trees = [error] ∧
      Lifted text stack (stack.node start).state q.node error.children := by
  obtain ⟨p, reached, node, rfl, error, last, isError⟩ :=
    (recorded_popError stack start).1 q mem trees way
  have sound := soundOver_soundBelow stack
  have inside := sound.inside start live
  obtain ⟨liveDown, outside⟩ := sound.reached live reached
  cases reached with
  | start => cases last
  | @above p link before stay mem =>
    have linkOk := ok.links p.node (ok.wayDown inside before).inside link mem
    cases tree : link.tree with
    | none =>
      rw [Path.over_none tree, stay] at last
      cases last
    | some t =>
      rw [Path.over_some tree] at last node liveDown outside ⊢
      rw [stay] at last ⊢
      cases last
      refine ⟨t, rfl, ?_⟩
      rw [← node]
      have wellFormed := linkOk.wellFormed t tree
      refine ⟨liveDown, fun pos => ?_, fun some => (outside some).1, fun c child => wellFormed.child child,
        wellFormed.closed.here.error isError⟩
      rcases eq_start_of_no_trees ok inside before stay with rfl | zero
      · have some : behindTag (stack.node start).state =
            behindTag (stack.node start).state - 1 + 1 := by omega
        rcases linkOk.way t tree _ some with ⟨-, same⟩ | ⟨-, noError, -⟩
        · exact same
        · exact absurd isError noError
      · rw [zero] at pos
        exact absurd pos (by decide)

/-- Taking off the error on top of a new version, if there is one.  In both cases the version is as
if it had been begun from the node below, so nothing more has to be known of `liftError`. -/
theorem liftError_eq (ok : ProgressOk text p) {v node : Nat} {goal : StateId}
    (live : SoundBelow p.stack node) (state : (p.stack.node node).state = goal) :
    ∃ node' earlier, (p.addAt v node).liftError p.versions.length = (earlier, p.addAt v node') ∧
      Lifted text p.stack goal node' earlier := by
  have new : (p.addAt v node).version p.versions.length =
      ⟨node, none, (p.version v).countAtError, .active⟩ := p.version_add_self _
  have moved : ∀ node', (p.addAt v node).setVersion p.versions.length
      ⟨node', none, (p.version v).countAtError, .active⟩ = p.addAt v node' := fun _ =>
    p.setVersion_add _ _
  rw [Progress.liftError]
  dsimp only
  split
  · exact ⟨node, [], rfl, lifted_nil live state⟩
  · rw [new]
    dsimp only
    have stack : (p.addAt v node).stack = p.stack := rfl
    rw [stack]
    have inhabited := (recorded_popError p.stack node).2
    cases ways : p.stack.popError node with
    | nil => exact ⟨node, [], rfl, lifted_nil live state⟩
    | cons q others =>
      have mem : q ∈ p.stack.popError node := by
        rw [ways]
        exact List.mem_cons_self
      dsimp only
      rw [moved]
      cases paths : q.paths with
      | nil => exact absurd paths (inhabited q mem)
      | cons trees more =>
        have way : trees ∈ q.paths := by
          rw [paths]
          exact List.mem_cons_self
        obtain ⟨error, rfl, lifted⟩ := lifted_of_popError ok.stack live mem way
        rw [state] at lifted
        exact ⟨q.node, error.children, rfl, lifted⟩

/-! ### Returning to an earlier state -/

/-- The trees given up on a way down, with those of the error below them, become one error that may
stand anywhere.  Its children end with one that may not, as what is split off is pushed behind it.
-/
theorem Lifted.error {stack : Stack} {goal : StateId} {node node' : Nat}
    {trees earlier : List SyntaxTree} {cursor : Cursor} (lifted : Lifted text stack goal node' earlier)
    (passed : Passed text stack node trees) (place : cursor.rest <:+ text) :
    Fits text (stack.node node').state
      ((ofChildren Symbol.error cursor (earlier ++ (splitExtras trees).1)).withExtra true) goal := by
  have wellFormed : ∀ c ∈ earlier ++ (splitExtras trees).1, c.WellFormed text := by
    intro c mem
    rcases List.mem_append.mp mem with before | behind
    · exact lifted.wellFormed c before
    · exact passed.wellFormed c (mem_of_mem_splitExtras (.inl behind))
  have isLast : ∀ d, (earlier ++ (splitExtras trees).1).getLast? = some d → d.extra = false := by
    intro d ends
    have split := congrArg Prod.fst (splitExtras_append_left trees lifted.last)
    dsimp only at split
    rw [← split] at ends
    exact not_extra_of_getLast_splitExtras ends
  have made : (ofChildren Symbol.error cursor (earlier ++ (splitExtras trees).1)).WellFormed text :=
    .ofChildren place wellFormed (fun element => absurd element (by decide)) (fun _ => isLast)
      fun noError => absurd noError (by decide)
  have similar := similar_withExtra
    (ofChildren Symbol.error cursor (earlier ++ (splitExtras trees).1)) true
  have proper := similar.proper (.ofChildren (by decide))
  exact ⟨⟨similar.wellFormed made, fun _ => proper, .of_same_extra lifted.state (extra_withExtra _ _)⟩,
    fun some => ⟨lifted.outside some, proper⟩⟩

/-- A step that preserves the invariant and only adds versions: those there were stay as they
are. -/
structure Adds (text : List Char) (p q : Progress) : Prop where
  ok : ProgressOk text q
  keeps : Keeps (· < p.versions.length) p q
  length : p.versions.length ≤ q.versions.length

namespace Adds

variable {q r : Progress} {node : Nat} {goal : StateId} {trees : List SyntaxTree}

theorem refl (ok : ProgressOk text p) : Adds text p p := ⟨ok, .refl _ _, Nat.le_refl _⟩

theorem trans (first : Adds text p q) (second : Adds text q r) : Adds text p r :=
  ⟨second.ok, first.keeps.trans (second.keeps.mono fun _ low => Nat.lt_of_lt_of_le low first.length),
    Nat.le_trans first.length second.length⟩

theorem of_recounts (ok : ProgressOk text p) (recounts : Recounts p q) : Adds text p q :=
  ⟨recounts.ok ok, recounts.keeps _, Nat.le_of_eq recounts.length.symm⟩

/-- A version that is begun only to be halted: the way down did not lead to the state looked for. -/
theorem addAt_halt (ok : ProgressOk text p) (v : Nat) (inside : node < p.stack.size) :
    Adds text p ((p.addAt v node).halt p.versions.length) := by
  have halted : (p.addAt v node).halt p.versions.length =
      p.add ⟨node, none, (p.version v).countAtError, .halted⟩ := by
    rw [Progress.halt, Progress.setStatus, Progress.addAt, Progress.setVersion_add,
      Progress.version_add_self]
  rw [halted]
  refine ⟨ok.add ⟨inside, fun notHalted => absurd rfl notHalted, fun lookahead same => ?_⟩,
    p.keeps_add _, ?_⟩
  · cases same
  · rw [Progress.length_add]
    exact Nat.le_succ _

/-- A version that goes on from a node, with trees over it that may stand anywhere. -/
theorem addAt_pushAll (ok : ProgressOk text p) (v : Nat) (live : SoundBelow p.stack node)
    (state : 0 < behindTag goal → (p.stack.node node).state = goal)
    (outside : goal ≠ 0 → (p.stack.node node).state ≠ 0)
    (all : ∀ t ∈ trees, t.WellFormed text ∧ t.extra = true ∧ t.Proper) :
    Adds text p ((p.addAt v node).pushAll p.versions.length trees goal) := by
  have inside := (soundOver_soundBelow p.stack).inside node live
  have new : (p.addAt v node).version p.versions.length =
      ⟨node, none, (p.version v).countAtError, .active⟩ := p.version_add_self _
  have ok1 : ProgressOk text (p.addAt v node) :=
    ok.add ⟨inside, fun _ => live, fun lookahead same => by cases same⟩
  have active : (p.addAt v node).Active p.versions.length := by
    rw [Progress.Active, new]
    rfl
  have here : (p.addAt v node).state p.versions.length = (p.stack.node node).state := by
    rw [Progress.state, Progress.top, new]
    rfl
  obtain ⟨ok2, keeps, length, -⟩ := ok1.pushAll active (by rw [here]; exact state)
    (by rw [here]; exact outside) all
  refine ⟨ok2, (p.keeps_add _).trans (keeps.mono fun w low => Nat.ne_of_lt low), ?_⟩
  rw [length, Progress.addAt, Progress.length_add]
  exact Nat.le_succ _

end Adds

/-- **Giving trees up** preserves the invariant, and leaves the versions there were.  The induction
is on the ways down; each of them gives a new version, which is halted if it is in another state. -/
theorem giveUp (ok : ProgressOk text p) {v : Nat} {goal : StateId} {popped : List Popped}
    (done : Bool) (inhabited : Inhabited popped)
    (all : ∀ q ∈ popped, ∀ trees ∈ q.paths, Passed text p.stack q.node trees) :
    Adds text p (Progress.giveUp v goal popped done p).2 := by
  -- on the ways down, each of which begins a version of its own
  induction popped generalizing p done with
  | nil => exact .refl ok
  | cons q rest ih =>
    have step {p' : Progress} {done' : Bool} (adds : Adds text p p') :
        Adds text p (Progress.giveUp v goal rest done' p').2 :=
      adds.trans (ih adds.ok done' (fun q' mem => inhabited q' (List.mem_cons_of_mem _ mem))
        fun q' mem trees way =>
          (all q' (List.mem_cons_of_mem _ mem) trees way).grows adds.keeps.stack)
    cases paths : q.paths with
    | nil => exact absurd paths (inhabited q List.mem_cons_self)
    | cons trees more =>
      have passed := all q List.mem_cons_self trees (by rw [paths]; exact List.mem_cons_self)
      have new : (p.addAt v q.node).version p.versions.length =
          ⟨q.node, none, (p.version v).countAtError, .active⟩ := p.version_add_self _
      rw [Progress.giveUp]
      dsimp only
      split
      · exact step (.addAt_halt ok v passed.inside)
      · next same =>
        rw [Progress.state, Progress.top, new] at same
        have state : (p.stack.node q.node).state = goal := Decidable.of_not_not same
        obtain ⟨node, earlier, lift, lifted⟩ := ok.liftError_eq (v := v) passed.live state
        rw [lift]
        dsimp only
        rw [paths, List.headD_cons, splitExtras_append_left trees lifted.last]
        dsimp only
        -- an error is made only if trees are given up
        cases inner : earlier ++ (splitExtras trees).1 with
        | nil =>
          exact step (.addAt_pushAll ok v lifted.live lifted.state lifted.outside passed.extras)
        | cons c others =>
          dsimp only
          rw [← inner]
          have place : ((p.addAt v node).top p.versions.length).place.rest <:+ text := by
            rw [Progress.top, Progress.addAt, Progress.version_add_self]
            exact ok.stack.place node ((soundOver_soundBelow p.stack).inside node lifted.live)
          obtain ⟨ok1, extends1, -⟩ :=
            ok.addAt_push_pushAll v lifted.live (lifted.error passed place) passed.extras
          exact step ⟨ok1, extends1.keeps, extends1.length⟩

theorem returnTo (ok : ProgressOk text p) {v : Nat} (depth : Nat) (goal : StateId)
    (active : p.Active v) : Adds text p (p.returnTo v depth goal).2 :=
  ok.giveUp false (recorded_pop _ _ _).2 fun _ mem _ way =>
    ok.stack.passed (ok.head active) mem way

/-- **Trying to return** preserves the invariant, and leaves the versions there were.  The induction
is on the states that could be returned to, and stops at the first that takes the token. -/
theorem tryRetreats (ok : ProgressOk text p) {v : Nat} (lookahead : SyntaxTree)
    (count known : Nat) (retreats : List Retreat) (active : p.Active v) :
    Adds text p (Progress.tryRetreats v lookahead count known retreats p).2 := by
  induction retreats generalizing p with
  | nil => exact .refl ok
  | cons r rs ih =>
    have step {p' : Progress} (adds : Adds text p p') :
        Adds text p (Progress.tryRetreats v lookahead count known rs p').2 :=
      adds.trans (ih adds.ok (adds.keeps.active active.inside active.inside active))
    rw [Progress.tryRetreats]
    dsimp only
    split
    · exact step (.refl ok)
    · have recounts := Recounts.betterExists p v (p.errorCost v + r.depth * Cost.skippedNode +
        Cost.skippedByte * r.place.bytesTo (p.top v).place +
        Cost.skippedLine * r.place.rowsTo (p.top v).place)
      have counted : Adds text p _ := .of_recounts ok recounts
      split
      · exact counted
      · split
        · generalize (if count > 0 then r.depth + 1 else r.depth) = depth
          have returned := counted.trans
            (counted.ok.returnTo depth r.state (recounts.active active))
          split
          · exact returned
          · exact step returned
        · exact step counted

/-! ### Skipping a token -/

/-- Dropping the versions that were begun and halted keeps those before them. -/
theorem dropInactive (ok : ProgressOk text p) {known : Nat}
    (few : known ≤ p.versions.length) :
    ProgressOk text (p.dropInactive known) ∧
      Keeps (· < known) p (p.dropInactive known) := by
  refine ⟨ok.withVersions fun u mem => ok.versions u ?_, ⟨.refl _, fun w low _ => ?_,
    fun w low inside => ?_⟩⟩
  · rcases List.mem_append.mp mem with before | behind
    · exact List.mem_of_mem_take before
    · exact List.mem_of_mem_drop (List.mem_filter.mp behind).1
  · rw [Progress.dropInactive, List.length_append, List.length_take_of_le few]
    exact Nat.lt_of_lt_of_le low (Nat.le_add_right _ _)
  · have short : w < (p.versions.take known).length := by
      rw [List.length_take_of_le few]
      exact low
    have same : (p.dropInactive known).version w = p.version w := by
      simp only [Progress.dropInactive, Progress.version, List.getD_eq_getElem?_getD,
        List.getElem?_append_left short, List.getElem?_take_of_lt low]
    rw [same]
    exact .refl _

/-- Moving a version to another node, with a tree pushed on it: the old node is no longer looked at.
-/
theorem setVersion_push_ok (ok : ProgressOk text p) {v : Nat} {new : Version}
    {t : SyntaxTree} {state : StateId} (inside : v < p.versions.length)
    (live : SoundBelow p.stack new.node) (notPaused : new.status = .active)
    (fits : Fits text (p.stack.node new.node).state t state) :
    ProgressOk text ((p.setVersion v new).push v (some t) state) := by
  have same : (p.setVersion v new).push v (some t) state =
      ⟨Array.push p.stack (p.stack.nodeOver new.node (some t) state),
        p.versions.set v { new with node := p.stack.size }, p.finished, p.accepted⟩ := by
    have here : (p.versions.set v new).getD v default = new := by
      rw [List.getD_eq_getElem?_getD, List.getElem?_set_self inside, Option.getD_some]
    simp only [Progress.setVersion, Progress.push, here, List.set_set, Option.isNone_some,
      Bool.false_eq_true, if_false]
  have low := (soundOver_soundBelow p.stack).inside _ live
  rw [same]
  refine ⟨fits.stack ok.stack low, fun u mem => ?_, ok.finished⟩
  rcases List.mem_or_eq_of_mem_set mem with old | rfl
  · exact (ok.versions u old).grows (.push _ _)
  · refine ⟨?_, fun _ => fits.soundBelow live, fun lookahead paused => ?_⟩
    · rw [Array.size_push]
      exact Nat.lt_succ_self _
    · rw [notPaused] at paused
      cases paused

/-- The node over a token that is skipped, and over what was skipped before.  It leads to the state
of errors, where the certificate asks nothing. -/
theorem skipped_fits (trees : List SyntaxTree) {cursor : Cursor} {token : SyntaxTree}
    (below : StateId) (place : cursor.rest <:+ text) (wellFormed : ∀ t ∈ trees, t.WellFormed text)
    (tokenWellFormed : token.WellFormed text) :
    Fits text below (ofChildren Symbol.skipped cursor (trees ++ [token])) 0 := by
  refine ⟨⟨.ofChildren place (fun c mem => ?_) (fun element => absurd element (by decide))
    (fun isError => absurd isError (by decide)) fun noError => absurd noError (by decide),
    fun extra => ?_, .of_eq_zero (by decide)⟩, fun noError => absurd rfl noError⟩
  · rcases List.mem_append.mp mem with before | here
    · exact wellFormed c before
    · rw [List.mem_singleton.mp here]
      exact tokenWellFormed
  · rw [extra_ofChildren] at extra
    cases extra

/-- **Skipping a token** preserves the invariant.  If there is skipped text on top already, then its
node is replaced by one that has the token as well. -/
theorem skip (ok : ProgressOk text p) {v count : Nat} {lookahead : SyntaxTree}
    (active : p.Active v) (token : TokenOk text lookahead) :
    ProgressOk text (p.skip v lookahead count) := by
  have place := ok.place v
  rw [Progress.skip]
  dsimp only
  have piece : Fits text (p.state v)
      (ofChildren Symbol.skipped (p.top v).place [Progress.skippedToken lookahead]) 0 :=
    skipped_fits [] _ place (by simp) token.skippedToken
  split
  · exact ok.push piece
  · split
    · exact ok.push piece
    · next q others ways =>
      have mem : q ∈ p.stack.pop (p.version v).node 1 := by
        rw [ways]
        exact List.mem_cons_self
      cases paths : q.paths with
      | nil => exact absurd paths ((recorded_pop _ _ _).2 q mem)
      | cons trees more =>
        have way : trees ∈ q.paths := by
          rw [paths]
          exact List.mem_cons_self
        have passed := ok.stack.passed (ok.head active) mem way
        rw [List.headD_cons]
        exact ok.setVersion_push_ok active.inside passed.live rfl
          (skipped_fits trees _ place passed.wellFormed piece.wellFormed)

/-- **Dealing with a token while an error lasts** preserves the invariant: returning, skipping, or
at the end of the text putting everything under one error. -/
theorem recover (ok : ProgressOk text p) {v : Nat} {lookahead : SyntaxTree}
    (active : p.Active v) (token : TokenOk text lookahead) :
    ProgressOk text (p.recover v lookahead) := by
  rw [Progress.recover]
  dsimp only
  have counted := Recounts.countSinceError p v
  generalize (p.countSinceError v) = count at counted ⊢
  generalize (if lookahead.symbol = Symbol.error then [] else
    (count.2.version v).retreats.getD []) = retreats
  obtain ⟨ok2, keeps2, long2⟩ := (counted.ok ok).tryRetreats lookahead count.1 p.versions.length
    retreats (counted.active active)
  generalize Progress.tryRetreats v lookahead count.1 p.versions.length retreats count.2 = tried
    at ok2 keeps2 long2 ⊢
  rw [counted.length] at long2 keeps2
  obtain ⟨ok3, keeps3⟩ := ok2.dropInactive long2
  have inside := active.inside
  have active2 : tried.2.Active v :=
    keeps2.active inside (by rw [counted.length]; exact inside) (counted.active active)
  have active3 := keeps3.active inside (Nat.lt_of_lt_of_le inside long2) active2
  generalize tried.2.dropInactive p.versions.length = p3 at ok3 active3 ⊢
  split
  · exact ok3.halt v
  · split
    · next isEnd =>
      have fits : FitsLast text (p3.state v) (ofChildren Symbol.error (p3.top v).place []) 1 := by
        refine ⟨.ofChildren (ok3.place v) (by simp) (fun element => absurd element (by decide))
          (fun _ c last => by cases last) fun noError => absurd noError (by decide), fun _ => ?_,
          .of_eq_zero (by decide)⟩
        exact .ofChildren (by decide)
      exact ok3.acceptError active3 token isEnd rfl rfl fits
    · have better := Recounts.betterExists p3 v (p3.errorCost v + Cost.skippedNode +
        Cost.skippedByte * lookahead.totalBytes + Cost.skippedLine * lookahead.totalRows)
      split
      · exact (better.ok ok3).halt v
      · exact (better.ok ok3).skip (better.active active3) token

/-! ### Meeting an error -/

/-- A token that is added fits: an element never begins with one, as the state behind a `<` does not
begin with a reduction. -/
theorem missing_fits (ok : ProgressOk text p) {v : Nat} (symbol token : Symbol)
    (isToken : symbol < Symbol.tokenCount)
    (leads : goto (p.state v) symbol ≠ 0) (other : goto (p.state v) symbol ≠ p.state v)
    (reduces : reducesFirst (goto (p.state v) symbol) token = true) :
    Fits text (p.state v) (missing symbol (p.top v).place) (goto (p.state v) symbol) := by
  obtain ⟨repeats, shift⟩ := shift_of_goto isToken leads other
  have way : Way (p.state v) (missing symbol (p.top v).place).symbol (goto (p.state v) symbol) :=
    way_of_shift shift
  have proper : (missing symbol (p.top v).place).Proper := proper_of_token isToken
  refine ⟨⟨.of_leaf rfl rfl (ok.place v) (not_element_of_token (.inl isToken)), fun _ => proper,
    .of_way way rfl ?_ fun behind => ?_⟩, fun _ => ⟨ne_zero_of_mem_actions shift rfl, proper⟩⟩
  · have bound : Symbol.tokenCount ≤ Symbol.error := by decide
    exact Nat.ne_of_lt (Nat.lt_of_lt_of_le isToken bound)
  · rw [reducesFirst_behindTag token behind] at reduces
    cases reduces

/-- A version with a token that the text lacks, beside the one it was made of: it is the last one,
and all others are kept. -/
theorem add_missing (ok : ProgressOk text p) {v : Nat} (active : p.Active v) (symbol token : Symbol)
    (isToken : symbol < Symbol.tokenCount)
    (leads : goto (p.state v) symbol ≠ 0) (other : goto (p.state v) symbol ≠ p.state v)
    (reduces : reducesFirst (goto (p.state v) symbol) token = true) :
    let added := p.add { p.version v with retreats := none }
    let made := added.push p.versions.length
      (some (missing symbol (added.top p.versions.length).place)) (goto (p.state v) symbol)
    ProgressOk text made ∧ made.Active p.versions.length ∧
      Keeps (· < p.versions.length) p made ∧ p.versions.length + 1 = made.versions.length := by
  intro added made
  have version := ok.version v
  have addedOk : ProgressOk text added := ok.add ⟨version.inside, version.head, version.paused⟩
  have new : added.version p.versions.length = { p.version v with retreats := none } :=
    p.version_add_self _
  have addedActive : added.Active p.versions.length := by
    rw [Progress.Active, new]
    exact active
  have state : added.state p.versions.length = p.state v := by
    rw [Progress.state, Progress.top, new]
    rfl
  have fits := addedOk.missing_fits symbol token isToken (by rw [state]; exact leads)
    (by rw [state]; exact other) (by rw [state]; exact reduces)
  rw [show goto (added.state p.versions.length) symbol = goto (p.state v) symbol by rw [state]]
    at fits
  refine ⟨addedOk.push fits, added.active_push _ _ _ addedActive, ?_, ?_⟩
  · exact (p.keeps_add _).trans ((added.keeps_push _ _ _).mono fun w low => Nat.ne_of_lt low)
  · rw [added.length_push, p.length_add]

/-- **Trying to add a token** preserves the invariant, and leaves the versions there were.  The
induction is on the symbols that could be added; each that is tried has a version of its own, the
last one. -/
theorem tryMissing (ok : ProgressOk text p) (fuel : Nat) {v : Nat} (lookahead : SyntaxTree)
    {symbols : List Symbol} (active : p.Active v)
    (tokens : ∀ symbol ∈ symbols, symbol < Symbol.tokenCount) :
    ProgressOk text (Progress.tryMissing fuel v lookahead symbols p).2 ∧
      Keeps (· < p.versions.length) p (Progress.tryMissing fuel v lookahead symbols p).2 := by
  induction symbols generalizing p with
  | nil => exact ⟨ok, .refl _ _⟩
  | cons symbol symbols ih =>
    have later := fun s mem => tokens s (List.mem_cons_of_mem symbol mem)
    rw [Progress.tryMissing]
    dsimp only
    split
    · exact ih ok active later
    · next useful =>
      simp only [Bool.or_eq_true, decide_eq_true_eq, Bool.not_eq_true', not_or,
        Bool.not_eq_false] at useful
      obtain ⟨⟨leads, other⟩, reduces⟩ := useful
      obtain ⟨madeOk, madeActive, kept, last⟩ := ok.add_missing active symbol lookahead.symbol
        (tokens symbol List.mem_cons_self) leads other reduces
      obtain ⟨ok1, keeps1, -⟩ := madeOk.reduceAll_last fuel (Progress.awaited lookahead)
        madeActive last
      have inside := active.inside
      have keeps := kept.trans keeps1
      split
      · exact ⟨ok1, keeps⟩
      · -- the version that was tried need not be dropped, and later ones are only added behind it
        obtain ⟨ok2, keeps2⟩ := ih ok1 (keeps.active inside inside active) later
        exact ⟨ok2, keeps.trans ⟨keeps2.stack, fun w low inside => keeps2.inside w inside inside,
          fun w low inside => keeps2.heads w inside inside⟩⟩

/-- **Beginning an error** on some versions preserves the invariant, and they all go on.  The first
of them is the one that all are joined to, if they can be. -/
theorem beginErrors (ok : ProgressOk text p) (fuel : Nat) (lookahead : SyntaxTree)
    (vs : List Nat) (added : Bool) (active : ∀ v ∈ vs, p.Active v) :
    ProgressOk text (Progress.beginErrors fuel lookahead vs added p) ∧
      ∀ w, p.Active w → (Progress.beginErrors fuel lookahead vs added p).Active w := by
  induction vs generalizing p added with
  | nil => exact ⟨ok, fun _ => id⟩
  | cons v vs ih =>
    have tokens : ∀ symbol ∈ (List.range (Symbol.tokenCount - 1)).map (· + 1),
        symbol < Symbol.tokenCount := by
      intro symbol mem
      obtain ⟨n, inside, rfl⟩ := List.mem_map.mp mem
      have less := List.mem_range.mp inside
      exact Nat.add_lt_of_lt_sub less
    obtain ⟨ok1, keeps1⟩ := ok.tryMissing fuel lookahead
      (active v List.mem_cons_self) tokens
    have step {added' : Bool} {p1 : Progress} (ok1 : ProgressOk text p1)
        (stays : ∀ w, p.Active w → p1.Active w) :
        ProgressOk text
            (Progress.beginErrors fuel lookahead vs added' (p1.push v none 0)) ∧
          ∀ w, p.Active w →
            (Progress.beginErrors fuel lookahead vs added' (p1.push v none 0)).Active w := by
      obtain ⟨okay, still⟩ := ih
        (ok1.pushNone v) added'
        fun w mem => p1.active_push v none 0 (stays w (active w (List.mem_cons_of_mem _ mem)))
      exact ⟨okay, fun w goes => still w (p1.active_push v none 0 (stays w goes))⟩
    rw [Progress.beginErrors]
    cases added with
    | true => exact step ok fun _ => id
    | false => exact step ok1 fun w goes => keeps1.active goes.inside goes.inside goes

/-- Joining versions to an earlier one preserves the invariant, and it goes on if it did. -/
theorem mergeFollowing (ok : ProgressOk text p) {v start : Nat} (count : Nat) (order : v < start) :
    ProgressOk text (Progress.mergeFollowing v start count p) ∧
      (p.Active v → (Progress.mergeFollowing v start count p).Active v) := by
  induction count generalizing p with
  | zero => exact ⟨ok, id⟩
  | succ count ih =>
    rw [Progress.mergeFollowing]
    cases merged : p.merge v start with
    | none => exact ih ok
    | some q =>
      obtain ⟨ok1, merges⟩ := ok.merge merged
      obtain ⟨ok2, stays⟩ := ih ok1
      exact ⟨ok2, fun active => stays (merges.keeps.active order active.inside active)⟩

end ProgressOk

/-- A version with all that was completed before the error that it enters. -/
def Progress.entered (fuel : Nat) (p : Progress) (v : Nat) (lookahead : SyntaxTree) : Progress :=
  let first := p.versions.length
  let (_, p) := p.reduceAll fuel v none
  let last := p.versions.length
  let p := beginErrors fuel lookahead (v :: (List.range last).filter (first ≤ ·)) false p
  let p := mergeFollowing v first (last - first) p
  p.setVersion v { p.version v with retreats := some (p.stack.retreats (p.version v).node) }

/-- What a version completes before an error preserves the invariant, and it still goes on. -/
theorem ProgressOk.entered {p : Progress} (ok : ProgressOk text p) (fuel : Nat) {v : Nat}
    (lookahead : SyntaxTree) (active : p.Active v) :
    ProgressOk text (p.entered fuel v lookahead) ∧ (p.entered fuel v lookahead).Active v := by
  have inside := active.inside
  obtain ⟨ok1, -, long1, goes1⟩ := ok.reduceAll fuel active
  rw [Progress.entered]
  dsimp only
  generalize p.reduceAll fuel v none = reduced at ok1 long1 goes1 ⊢
  have active1 : reduced.2.Active v := goes1 v (.inl rfl) (Nat.lt_of_lt_of_le inside long1)
  obtain ⟨ok2, stays2⟩ := ok1.beginErrors fuel lookahead
    (v :: (List.range reduced.2.versions.length).filter (p.versions.length ≤ ·)) false
    (by
      intro w mem
      rcases List.mem_cons.mp mem with rfl | new
      · exact active1
      · obtain ⟨low, high⟩ := lt_of_mem_filter_range new
        exact goes1 w (.inr low) high)
  obtain ⟨ok3, stays3⟩ := ok2.mergeFollowing
    (reduced.2.versions.length - p.versions.length) inside
  have active3 := stays3 (stays2 v active1)
  generalize Progress.mergeFollowing v p.versions.length
    (reduced.2.versions.length - p.versions.length) _ = p3 at ok3 active3 ⊢
  have recounts : Recounts p3 (p3.setVersion v
      { p3.version v with retreats := some (p3.stack.retreats (p3.version v).node) }) :=
    .setVersion ⟨rfl, rfl⟩
  exact ⟨recounts.ok ok3, recounts.active active3⟩

/-- **Meeting an error** preserves the invariant, in all its parts: completing what can be
completed, trying tokens that may be missing, and entering the error. -/
theorem ProgressOk.handleError {p : Progress} (ok : ProgressOk text p) {fuel v : Nat}
    {lookahead : SyntaxTree} (active : p.Active v) (token : TokenOk text lookahead) :
    ProgressOk text (p.handleError fuel v lookahead) := by
  obtain ⟨okay, goes⟩ := ok.entered fuel lookahead active
  exact okay.recover goes token

end JsxDetect.Parse
