import JsxDetect.Proofs.Parse.ParserInvariant

/-!
# The tree of a whole text stays

Only a version at the end of the text gives a tree of the whole text.  One that comes there in an
error gives a tree with a cost, and this does not take the place of a tree without errors: such a
tree stays, whatever versions enter errors after it was found.

## Main Results

* `ProgressOk.finished_handleError`: a version that enters an error leaves a tree without errors

## Design Notes

**A tree that costs nothing wins.**  The parser keeps the better of two trees of the whole text, and
one without errors costs nothing.  Every tree that a version in an error could give has that error
at its root or below, so it costs something.  What remains is bookkeeping: of all steps only the end
of a version touches the tree that is kept, and the simp lemmas say so for each of the others.
-/

namespace JsxDetect.Parse

open Automaton Stack SyntaxTree

namespace Progress

/-! ### Steps that find no tree -/

section

variable (p : Progress) (v : Nat)

@[simp] theorem finished_push (tree : Option SyntaxTree) (state : StateId) :
    (p.push v tree state).finished = p.finished := rfl

@[simp] theorem finished_pushAll (trees : List SyntaxTree) (state : StateId) :
    (p.pushAll v trees state).finished = p.finished := by
  induction trees generalizing p with
  | nil => rfl
  | cons t trees ih => exact ih (p.push v (some t) state)

@[simp] theorem finished_replace (w : Nat) : (p.replace v w).finished = p.finished := by
  rw [replace]
  split <;> rfl

theorem finished_merge {p q : Progress} {v w : Nat} (merged : p.merge v w = some q) :
    q.finished = p.finished := by
  rw [merge] at merged
  split at merged
  · cases merged
    rfl
  · cases merged

/-- Joining a version to one of several does not change the tree that is kept. -/
theorem finished_mergeInto {p q : Progress} {w : Nat} {vs : List Nat}
    (merged : p.mergeInto w vs = some q) : q.finished = p.finished := by
  induction vs with
  | nil => cases merged
  | cons v vs ih =>
    rw [mergeInto] at merged
    split at merged
    · next here =>
      cases merged
      exact finished_merge here
    · exact ih merged

@[simp] theorem finished_complete (symbol : Symbol) (bonus : Int) (cursor : Cursor)
    (popped : List Popped) : (complete v symbol bonus cursor popped p).finished = p.finished := by
  induction popped generalizing p with
  | nil => rfl
  | cons k popped ih =>
    rw [complete]
    dsimp only
    split
    · exact ih p
    · rw [ih]
      split
      · next merged =>
        rw [finished_mergeInto merged, finished_pushAll]
        rfl
      · rw [finished_pushAll]
        rfl

@[simp] theorem finished_reduce (symbol : Symbol) (count : Nat) (bonus : Int) :
    (p.reduce v symbol count bonus).2.finished = p.finished :=
  finished_complete ..

@[simp] theorem finished_reduceEach (rs : List Reduction) (last : Option Nat) :
    (reduceEach v rs last p).2.finished = p.finished := by
  induction rs generalizing p last with
  | nil => rfl
  | cons r rs ih =>
    rw [reduceEach]
    dsimp only
    rw [ih, finished_reduce]

/-- Making all reductions finds no tree of the whole text.  The induction is on the fuel, as in the
loop itself. -/
theorem finished_reduceFrom (origin first : Nat) (token : Option Symbol) (fuel turn : Nat)
    (shifts : Bool) : (reduceFrom origin first token fuel turn v shifts p).2.finished = p.finished := by
  have dropped {q : Progress} : (if token.isSome then q.remove v else q).finished = q.finished := by
    split <;> rfl
  induction fuel generalizing p v turn shifts with
  | zero => rfl
  | succ fuel ih =>
    rw [reduceFrom]
    dsimp only
    split
    · rfl
    · split
      · next merged => rw [ih _ _ _ _ fun {q} => by split <;> rfl, finished_mergeInto merged]
      · split
        · rw [ih _ _ _ _ fun {q} => by split <;> rfl, finished_reduceEach]
        · split
          · split
            · rw [ih _ _ _ _ fun {q} => by split <;> rfl, finished_replace, finished_reduceEach]
            · rw [ih _ _ _ _ fun {q} => by split <;> rfl, dropped, finished_reduceEach]
          · rw [ih _ _ _ _ fun {q} => by split <;> rfl, dropped, finished_reduceEach]

@[simp] theorem finished_reduceAll (fuel : Nat) (token : Option Symbol) :
    (p.reduceAll fuel v token).2.finished = p.finished :=
  finished_reduceFrom ..

@[simp] theorem finished_tryMissing (fuel : Nat) (lookahead : SyntaxTree) (symbols : List Symbol) :
    (tryMissing fuel v lookahead symbols p).2.finished = p.finished := by
  induction symbols generalizing p with
  | nil => rfl
  | cons symbol symbols ih =>
    rw [tryMissing]
    dsimp only
    split
    · exact ih p
    · split
      · rw [finished_reduceAll]
        rfl
      · rw [ih, finished_reduceAll]
        rfl

@[simp] theorem finished_beginErrors (fuel : Nat) (lookahead : SyntaxTree) (vs : List Nat)
    (added : Bool) : (beginErrors fuel lookahead vs added p).finished = p.finished := by
  induction vs generalizing p added with
  | nil => rfl
  | cons v vs ih =>
    rw [beginErrors]
    generalize (List.range (Symbol.tokenCount - 1)).map (· + 1) = symbols
    cases added with
    | true => exact ih _ _
    | false => exact (ih _ _).trans (finished_tryMissing p v fuel lookahead symbols)

@[simp] theorem finished_mergeFollowing (first count : Nat) :
    (mergeFollowing v first count p).finished = p.finished := by
  induction count generalizing p with
  | zero => rfl
  | succ count ih =>
    rw [mergeFollowing, ih]
    cases merged : p.merge v first with
    | none => rfl
    | some q => exact finished_merge merged

@[simp] theorem finished_liftError : (p.liftError v).2.finished = p.finished := by
  rw [liftError]
  dsimp only
  split
  · rfl
  · split
    · rfl
    · split <;> rfl

@[simp] theorem finished_giveUp (goal : StateId) (popped : List Popped) (done : Bool) :
    (giveUp v goal popped done p).2.finished = p.finished := by
  induction popped generalizing p done with
  | nil => rfl
  | cons k popped ih =>
    rw [giveUp]
    dsimp only
    split
    · exact ih _ _
    · rw [ih, finished_pushAll]
      split
      · rw [finished_liftError]
        rfl
      · rw [finished_push, finished_liftError]
        rfl

theorem finished_returnTo (depth : Nat) (goal : StateId) :
    (p.returnTo v depth goal).2.finished = p.finished :=
  finished_giveUp ..

@[simp] theorem finished_tryRetreats (lookahead : SyntaxTree) (count known : Nat)
    (retreats : List Retreat) :
    (tryRetreats v lookahead count known retreats p).2.finished = p.finished := by
  induction retreats generalizing p with
  | nil => rfl
  | cons r retreats ih =>
    rw [tryRetreats]
    dsimp only
    split
    · exact ih p
    · generalize p.errorCost v + r.depth * Cost.skippedNode + Cost.skippedByte *
        r.place.bytesTo (p.top v).place + Cost.skippedLine * r.place.rowsTo (p.top v).place = cost
      have better := (Recounts.betterExists p v cost).finished
      generalize p.betterExists v cost = known at better ⊢
      split
      · exact better
      · split
        · generalize (if count > 0 then r.depth + 1 else r.depth) = depth
          have returned := (known.2.finished_returnTo v depth r.state).trans better
          split
          · exact returned
          · exact (ih _).trans returned
        · exact (ih _).trans better

@[simp] theorem finished_skip (lookahead : SyntaxTree) (count : Nat) :
    (p.skip v lookahead count).finished = p.finished := by
  rw [skip]
  dsimp only
  split
  · rfl
  · split <;> rfl

end

/-! ### The end of the text -/

/-- A tree that costs nothing stays when one that costs something is found. -/
theorem finished_finish {p : Progress} {t u : SyntaxTree} (finished : p.finished = some t)
    (free : t.cost = 0) (costs : 0 < u.cost) : (p.finish u).finished = some t := by
  have worse : t.replaces u = false := by
    rw [replaces, free, if_neg (Nat.not_lt_zero _), if_pos costs]
  rw [finish, finished]
  dsimp only
  rw [worse, if_neg Bool.false_ne_true]

/-- A tree that costs nothing stays whatever trees are found, if each of them costs something. -/
theorem finished_foldl_finish {p : Progress} {t : SyntaxTree} {us : List SyntaxTree}
    (finished : p.finished = some t) (free : t.cost = 0) (costs : ∀ u ∈ us, 0 < u.cost) :
    (us.foldl finish p).finished = some t := by
  induction us generalizing p with
  | nil => exact finished
  | cons u us ih =>
    obtain ⟨here, later⟩ := List.forall_mem_cons.mp costs
    exact ih (finished_finish finished free here) later

/-- An error costs something. -/
theorem cost_error (cursor : Cursor) (ts : List SyntaxTree) :
    0 < (SyntaxTree.ofChildren Symbol.error cursor ts).cost := by
  have recovery : 0 < Cost.recovery := by decide
  have counts : isErrorSymbol Symbol.error = true := by decide
  unfold SyntaxTree.ofChildren
  rw [SyntaxTree.cost, if_neg (by exact Bool.false_ne_true)]
  simp only [Rose.label, counts, if_true]
  omega

/-- A tree of the whole text over an error costs something: the error is its root. -/
theorem cost_wholeTree {trees : List SyntaxTree} {whole error last : SyntaxTree}
    (same : wholeTree trees = some whole) (ends : [error, last] <:+ trees)
    (isError : error.symbol = Symbol.error) (notExtra : error.extra = false)
    (extra : last.extra = true) : 0 < whole.cost := by
  obtain ⟨earlier, rfl⟩ := ends
  rw [wholeTree_eq earlier notExtra extra] at same
  cases same
  rw [isError]
  exact cost_error _ _

/-- **The end of the text in an error** leaves a tree without errors.  All ways down from the last
node go over the error, so each tree that they give has a cost. -/
theorem finished_acceptError {p : Progress} {v : Nat} (inside : v < p.versions.length)
    {error last t : SyntaxTree} (finished : p.finished = some t) (free : t.cost = 0)
    (isError : error.symbol = Symbol.error) (notExtra : error.extra = false)
    (extra : last.extra = true) : ((p.push v (some error) 1).accept v last).finished = some t := by
  rw [accept]
  refine finished_foldl_finish finished free fun u mem => ?_
  obtain ⟨trees, way, whole⟩ := List.mem_filterMap.mp mem
  obtain ⟨q, listed, way⟩ := List.mem_flatMap.mp way
  obtain ⟨path, reached, ends, rfl⟩ := recorded_popAll _ _ q listed trees way
  rw [((p.push v (some error) 1).version_push_self v (some last) 1
    (by rw [p.length_push]; exact inside)).1] at reached
  exact cost_wholeTree whole (suffix_of_error inside reached ends) isError notExtra extra

end Progress

/-! ### Errors -/

theorem Progress.finished_entered (p : Progress) (v fuel : Nat) (lookahead : SyntaxTree) :
    (p.entered fuel v lookahead).finished = p.finished :=
  (finished_mergeFollowing ..).trans ((finished_beginErrors ..).trans (finished_reduceAll ..))

namespace ProgressOk

variable {text : List Char} {p : Progress} (ok : ProgressOk text p)

include ok

/-- Dealing with a token while an error lasts leaves a tree without errors: only at the end of the
text is another one found, and that has an error. -/
theorem finished_recover {v : Nat} {lookahead t : SyntaxTree} (active : p.Active v)
    (token : TokenOk text lookahead) (finished : p.finished = some t) (free : t.cost = 0) :
    (p.recover v lookahead).finished = some t := by
  rw [Progress.recover]
  dsimp only
  have counted := Recounts.countSinceError p v
  generalize (p.countSinceError v) = count at counted ⊢
  generalize (if lookahead.symbol = Symbol.error then [] else
    (count.2.version v).retreats.getD []) = retreats
  obtain ⟨ok2, keeps2, long2⟩ := (counted.ok ok).tryRetreats lookahead count.1 p.versions.length
    retreats (counted.active active)
  have finished2 := (Progress.finished_tryRetreats count.2 v lookahead count.1 p.versions.length
    retreats).trans (counted.finished.trans finished)
  generalize Progress.tryRetreats v lookahead count.1 p.versions.length retreats count.2 = tried
    at ok2 keeps2 long2 finished2 ⊢
  rw [counted.length] at long2 keeps2
  obtain ⟨-, keeps3⟩ := ok2.dropInactive long2
  have inside := active.inside
  have inside3 := keeps3.inside v inside (Nat.lt_of_lt_of_le inside long2)
  have finished3 : (tried.2.dropInactive p.versions.length).finished = some t := finished2
  generalize tried.2.dropInactive p.versions.length = p3 at inside3 finished3 ⊢
  split
  · exact finished3
  · split
    · next isEnd => exact Progress.finished_acceptError inside3 finished3 free rfl rfl (token.ends isEnd)
    · have better := (Recounts.betterExists p3 v (p3.errorCost v + Cost.skippedNode +
        Cost.skippedByte * lookahead.totalBytes + Cost.skippedLine * lookahead.totalRows)).finished
      split
      · exact better.trans finished3
      · exact (Progress.finished_skip ..).trans (better.trans finished3)

/-- **A version that enters an error** leaves a tree without errors.  Whatever is put together
behind an error has a cost, and the tree that was kept has none. -/
theorem finished_handleError (fuel : Nat) {v : Nat} {lookahead t : SyntaxTree} (active : p.Active v)
    (token : TokenOk text lookahead) (finished : p.finished = some t) (free : t.cost = 0) :
    (p.handleError fuel v lookahead).finished = some t := by
  obtain ⟨okay, goes⟩ := ok.entered fuel lookahead active
  exact okay.finished_recover goes token ((p.finished_entered v fuel lookahead).trans finished) free

/-- **At the end of a round** a tree without errors stays, and an error that is entered costs
something. -/
theorem finished_resume (fuel count v : Nat) (going : Bool) (least : Option Nat) {t : SyntaxTree}
    (finished : p.finished = some t) (free : t.cost = 0) :
    (Progress.resume fuel count v going least p).2.finished = some t ∧
      ∀ c, (Progress.resume fuel count v going least p).1 = some c → least = some c ∨ 0 < c := by
  induction count generalizing p v going least with
  | zero => exact ⟨finished, fun c same => .inl same⟩
  | succ count ih =>
    rw [Progress.resume]
    split
    · next token paused =>
      split
      · have version := ok.version v
        have inside : v < p.versions.length := by
          refine Nat.lt_of_not_le fun outside => ?_
          rw [Progress.version_eq_default outside] at paused
          cases paused
        have again : ProgressOk text (p.setStatus v .active) :=
          ok.setVersion ⟨version.inside, fun _ => version.head (by rw [paused]; intro same; cases same),
            fun _ same => by cases same⟩
        have active : (p.setStatus v .active).Active v := by
          rw [Progress.Active, Progress.setStatus, Progress.version_setVersion, if_pos ⟨rfl, inside⟩]
          rfl
        have tokenOk := version.paused token paused
        obtain ⟨stays, cost⟩ := ih (again.handleError active tokenOk) (v + 1) true (some (p.errorCost v))
          (again.finished_handleError fuel active tokenOk finished free)
        refine ⟨stays, fun c same => .inr ((cost c same).elim (fun same => ?_) id)⟩
        have recovery : 0 < Cost.recovery := by decide
        have isPaused : (p.version v).status.isPaused = true := by rw [paused]; rfl
        rw [← Option.some.inj same, Progress.errorCost, isPaused, Bool.true_or, if_pos rfl]
        omega
      · exact ih (ok.remove v) _ _ _ finished
    · exact ih ok _ _ _ finished

end ProgressOk

end JsxDetect.Parse
