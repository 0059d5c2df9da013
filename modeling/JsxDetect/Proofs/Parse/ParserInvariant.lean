import JsxDetect.Proofs.Parse.LookaheadInvariant
import JsxDetect.Proofs.Parse.RecoveryInvariant
import JsxDetect.Parse.Parser

/-!
# The parser keeps the invariant

Every step of the parser preserves the invariant, and so does a whole run.  At the beginning it
holds, as there is nothing yet; at the end it gives the tree of the text.

## Main Results

* `ProgressOk.advance`: one token
* `ProgressOk.condense`: the comparison at the end of a round
* `ProgressOk.run`: a run of the parser
* `parse_grounded`: below each element of the tree of a text there is a `<` of the text
* `parse_hasError_iff`: what it means that the tree of a text has an error

## Design Notes

**One invariant for all of it.**  Each function of the parser has one lemma here, of the same name,
that it preserves `ProgressOk`; the lemma of a function cites those of the functions that it calls,
and unfolds nothing else.  A change to one of them is a change to one lemma, as long as its
statement still holds.

**Fuel does not occur in the statements.**  A part of a parse that runs out of fuel stops with the
state it has, and in each lemma this is the case of fuel zero, where there is nothing to prove.  So
the results hold of every text, also of one that were to exhaust a budget.

**What the results say.**  An invariant of the versions says little of the answer, as the versions
are gone when the parse ends.  It is `FinishedOk` that is left: the tree kept for the whole text is
grounded, and its errors are counted at the root.  The two theorems at the end are these two facts.
-/

namespace JsxDetect.Parse

open Automaton SyntaxTree

variable {text : List Char}

/-! ### One token -/

/-- A token that is shifted fits on a version.  If it is a `<`, then it was read, so the certificate
is met; a state that takes a token is never one of an error, unless it leads to one. -/
theorem TokenOk.fits {token : SyntaxTree} (ok : TokenOk text token) {state next : StateId}
    {repeats : Bool} (shift : .shift next repeats ∈ actions state token.symbol) :
    Fits text state (token.withExtra false) next := by
  have similar := similar_withExtra token false
  have isToken := isToken_of_mem_actions shift
  have way := way_of_shift shift
  have proper := similar.proper (proper_of_token isToken)
  rw [← similar.symbol] at way
  refine ⟨⟨similar.wellFormed ok.wellFormed, fun _ => proper,
    .of_way way (extra_withExtra _ _) ?_ fun behind => ?_⟩,
    fun _ => ⟨ne_zero_of_mem_actions shift rfl, proper⟩⟩
  · have bound : Symbol.tokenCount ≤ Symbol.error := by decide
    rw [similar.symbol]
    exact Nat.ne_of_lt (Nat.lt_of_lt_of_le isToken bound)
  · rcases way.first behind with less | tag
    · exact similar.tagged (ok.less (similar.symbol.symm.trans less))
    · have bound : Symbol.tokenCount ≤ openingTag := by decide
      rw [similar.symbol] at tag
      exact absurd isToken (Nat.not_lt.mpr (tag ▸ bound))

/-- A token that may stand anywhere fits on a version, and leaves it in its state. -/
theorem TokenOk.fits_extra {token : SyntaxTree} (ok : TokenOk text token)
    (isToken : token.symbol < Symbol.tokenCount) (state : StateId) :
    Fits text state (token.withExtra true) state := by
  have similar := similar_withExtra token true
  have proper := similar.proper (proper_of_token isToken)
  exact ⟨⟨similar.wellFormed ok.wellFormed, fun _ => proper,
    .of_same_extra (fun _ => rfl) (extra_withExtra _ _)⟩, fun some => ⟨some, proper⟩⟩

/-- What holds after the actions at a token: versions from `base` on are new. -/
def ActedOk (text : List Char) (base : Nat) (p : Progress) : Progress.Outcome → Prop
  | .done q => ProgressOk text q
  | .grouped last q =>
    ProgressOk text q ∧ Extends base p q ∧
      ∀ w, last = some w → base ≤ w ∧ w < q.versions.length

namespace ProgressOk

variable {p : Progress}

/-- **The actions at a token** preserve the invariant.  The induction is on the actions; each
reduction adds versions behind those there were, and an action that takes the token ends it. -/
theorem act (ok : ProgressOk text p) {v : Nat} (base : Nat) {token : SyntaxTree}
    {actions : List Action} (last : Option Nat) (active : p.Active v)
    (tokenOk : TokenOk text token)
    (all : ∀ a ∈ actions, a ∈ Automaton.actions (p.state v) token.symbol)
    (low : base ≤ p.versions.length) (fresh : ∀ w, base ≤ w → w < p.versions.length → p.Active w)
    (known : ∀ w, last = some w → base ≤ w ∧ w < p.versions.length) :
    ActedOk text base p (Progress.act v token actions last p) := by
  induction actions generalizing p last with
  | nil => exact ⟨ok, ⟨.refl _ _, low, fresh⟩, known⟩
  | cons action actions ih =>
    have here := all action List.mem_cons_self
    have later := fun a mem => all a (List.mem_cons_of_mem action mem)
    have isToken := isToken_of_mem_actions here
    cases action with
    | shift next repeats =>
      rw [Progress.act]
      cases repeats with
      | true => exact ih ok last active later low fresh known
      | false => exact ok.push (tokenOk.fits here)
    | shiftExtra => exact ok.push (tokenOk.fits_extra isToken _)
    | recover => exact ok.recover active tokenOk
    | accept => exact ok.accept active tokenOk isToken (ne_zero_of_mem_actions here rfl)
    | reduce symbol count bonus =>
      rw [Progress.act]
      obtain ⟨ok1, extends1, new1⟩ := ok.reduce bonus active (completes_of_mem here)
      have inside := active.inside
      have whole := extends1.length
      dsimp only
      generalize p.reduce v symbol count bonus = reduced at ok1 extends1 new1 whole ⊢
      have extends0 : Extends base p reduced.2 :=
        Extends.trans ⟨.refl _ _, low, fresh⟩ extends1 low (Nat.le_refl _)
      have acted (next : Option Nat)
          (known' : ∀ w, next = some w → base ≤ w ∧ w < reduced.2.versions.length) :
          ActedOk text base p (Progress.act v token actions next reduced.2) := by
        have acted := ih ok1 next (extends1.keeps.active inside inside active)
          (fun a mem => by rw [extends1.keeps.state ok inside inside]; exact later a mem)
          extends0.length extends0.active known'
        generalize Progress.act v token actions next reduced.2 = outcome at acted ⊢
        cases outcome with
        | done q => exact acted
        | grouped last q =>
          obtain ⟨ok2, extends2, known2⟩ := acted
          exact ⟨ok2, extends0.trans extends2 (Nat.le_refl _) extends0.length, known2⟩
      refine acted _ fun w same => ?_
      cases new : reduced.1 with
      | some u =>
        rw [new] at same
        cases same
        obtain ⟨rfl, less⟩ := new1 _ new
        exact ⟨low, less⟩
      | none =>
        rw [new] at same
        obtain ⟨above, less⟩ := known w same
        exact ⟨above, Nat.lt_of_lt_of_le less whole⟩

/-- Stopping a version before a token that it cannot take preserves the invariant: the token is
kept, and is as tokens have to be. -/
theorem pause (ok : ProgressOk text p) {v : Nat} {token : SyntaxTree} (active : p.Active v)
    (tokenOk : TokenOk text token) : ProgressOk text (p.pause v token) := by
  have version := ok.version v
  refine ok.setVersion ⟨version.inside, fun _ => ok.head active, ?_⟩
  intro lookahead same
  cases same
  exact tokenOk

/-- **Taking a version over a token** preserves the invariant.  The induction is on the fuel: a
version may go on as a new one, or read the token again as a name. -/
theorem consume (ok : ProgressOk text p) {v fuel : Nat} {token : SyntaxTree}
    (active : p.Active v) (tokenOk : TokenOk text token) :
    ProgressOk text (Progress.consume v fuel token p) := by
  induction fuel generalizing p token with
  | zero => exact ok.halt v
  | succ fuel ih =>
    have inside := active.inside
    have acted := ok.act p.versions.length none active tokenOk
      (fun _ mem => mem) (Nat.le_refl _) (fun _ low high => absurd high (Nat.not_lt.mpr low))
      (fun _ same => by cases same)
    rw [Progress.consume]
    split
    · next q outcome =>
      rw [outcome] at acted
      exact acted
    -- the version goes on as the last one that has completed a phrase
    · next w q outcome =>
      rw [outcome] at acted
      obtain ⟨ok1, extends1, known⟩ := acted
      obtain ⟨low, high⟩ := known w rfl
      refine ih (ok1.replace v w) ?_ tokenOk
      have same := version_replace (Nat.lt_of_lt_of_le inside low) high v
      rw [if_pos rfl] at same
      rw [Progress.Active, same.status]
      exact extends1.active w low high
    -- nothing is completed: a keyword may be a name, or the version stops
    · next q outcome =>
      rw [outcome] at acted
      obtain ⟨ok1, extends1, -⟩ := acted
      have active1 := extends1.keeps.active inside inside active
      dsimp only
      split
      · exact ih ok1 active1 tokenOk.withSymbol
      · split
        · exact ok1.recover active1 tokenOk
        · exact ok1.pause active1 tokenOk

/-- **Taking a version one token further** preserves the invariant.  The token is one of the text,
or the end of it, and this is all that consuming it needs. -/
theorem advance (ok : ProgressOk text p) {fuel v : Nat} (active : p.Active v) :
    ProgressOk text (p.advance fuel v) :=
  ok.consume active (lookahead_ok (ok.place v))

/-- Taking a version further until it has passed the foremost place preserves the invariant. -/
theorem advanceVersion (ok : ProgressOk text p) (budget v fuel last : Nat) :
    ProgressOk text (Progress.advanceVersion budget v fuel last p).2 := by
  induction fuel generalizing p last with
  | zero => exact ok
  | succ fuel ih =>
    rw [Progress.advanceVersion]
    split
    · next active =>
      dsimp only
      split
      · exact ok.advance active
      · exact ih (ok.advance active) last
    · exact ok

/-- Taking all versions further, one after the other, preserves the invariant. -/
theorem advanceAll (ok : ProgressOk text p) (budget fuel v last : Nat) :
    ProgressOk text (Progress.advanceAll budget fuel v last p).2 := by
  induction fuel generalizing p v last with
  | zero => exact ok
  | succ fuel ih =>
    rw [Progress.advanceAll]
    split
    · exact ih (ok.advanceVersion budget v budget last) _ _
    · exact ok

/-! ### The comparison of versions -/

theorem swap (ok : ProgressOk text p) (v w : Nat) : ProgressOk text (p.swap v w) :=
  (ok.setVersion (ok.version w)).setVersion (ok.version v)

/-- Comparing a version with those before it preserves the invariant: versions are dropped, joined
and reordered, and nothing else is done. -/
theorem settle (ok : ProgressOk text p) (own : Progress.Standing) (fuel v w : Nat) :
    ProgressOk text (Progress.settle own fuel v w p).2 := by
  induction fuel generalizing p v w with
  | zero => exact ok
  | succ fuel ih =>
    rw [Progress.settle]
    split
    · exact ok
    · have counted := (Recounts.standing p w).ok ok
      dsimp only
      split
      · exact counted.remove v
      · split
        · next merged => exact (counted.merge merged).1
        · exact ih counted v (w + 1)
      · split
        · next merged => exact (counted.merge merged).1
        · exact ih counted v (w + 1)
      · split
        · next merged => exact (counted.merge merged).1
        · exact ih (counted.swap v w) v (w + 1)
      · exact ih (counted.remove w) (v - 1) w

/-- Comparing all versions preserves the invariant. -/
theorem settleAll (ok : ProgressOk text p) (fuel v : Nat) (least : Option Nat) :
    ProgressOk text (Progress.settleAll fuel v least p).2 := by
  induction fuel generalizing p v least with
  | zero => exact ok
  | succ fuel ih =>
    rw [Progress.settleAll]
    split
    · exact ok
    · split
      · exact ih (ok.remove v) v least
      · exact ih (settle ((Recounts.standing p v).ok ok) _ v v 0) _ _

/-- A version that was paused goes on again, and enters its error. -/
theorem resume (ok : ProgressOk text p) (fuel count v : Nat) (going : Bool)
    (least : Option Nat) :
    ProgressOk text (Progress.resume fuel count v going least p).2 := by
  induction count generalizing p v going least with
  | zero => exact ok
  | succ count ih =>
    rw [Progress.resume]
    split
    · next token paused =>
      split
      · have version := ok.version v
        have head : SoundBelow p.stack (p.version v).node :=
          version.head (by rw [paused]; nofun)
        have inside : v < p.versions.length := by
          refine Nat.lt_of_not_le fun outside => ?_
          rw [Progress.version_eq_default outside] at paused
          cases paused
        refine ih (handleError ?_ ?_ (version.paused token paused)) _ _ _
        · exact ok.setVersion ⟨version.inside, fun _ => head, fun _ same => by cases same⟩
        · rw [Progress.Active, Progress.setStatus, Progress.version_setVersion,
            if_pos ⟨rfl, inside⟩]
          rfl
      · exact ih (ok.remove v) _ _ _
    · exact ih ok _ _ _

/-- **The comparison at the end of a round** preserves the invariant, also where it lets a version
enter an error. -/
theorem condense (ok : ProgressOk text p) (fuel : Nat) :
    ProgressOk text (p.condense fuel).2 := by
  have settled := ok.settleAll p.versions.length 0 none
  exact resume
    (settled.withVersions fun v mem => settled.versions v (List.mem_of_mem_take mem)) _ _ _ _ _

/-- **A run of the parser** preserves the invariant, however many rounds it takes.  By induction on
the rounds; one of them takes each version further and compares them. -/
theorem run (ok : ProgressOk text p) (budget fuel last : Nat) :
    ProgressOk text (Progress.run budget fuel last p) := by
  induction fuel generalizing p last with
  | zero => exact ok
  | succ fuel ih =>
    have round := (ok.advanceAll budget budget 0 last).condense budget
    rw [Progress.run]
    dsimp only
    split
    · exact round
    · exact ih round _

end ProgressOk

/-! ### The whole text -/

/-- **At the beginning** the invariant holds: there is one version on one node, and nothing lies
below. -/
theorem progressOk_start (text : List Char) : ProgressOk text (Progress.start text) := by
  have single : ∀ i, i < (Progress.start text).stack.size → i = 0 :=
    fun i inside => Nat.lt_one_iff.mp inside
  refine ⟨⟨Nat.one_pos, fun i inside => ?_, fun i inside => ?_⟩, fun v mem => ?_, nofun⟩
  · rw [single i inside]
    exact List.suffix_refl text
  · rw [single i inside]
    exact fun _ mem => by cases mem
  · rw [List.mem_singleton.mp mem]
    refine ⟨Nat.one_pos, fun _ => ⟨fun i => i = 0, rfl, ?_, ?_⟩, fun _ same => by cases same⟩
    · rintro i rfl
      exact Nat.one_pos
    · rintro i rfl link mem
      cases mem

/-- **The tree of a text** is as the invariant says, whether the run has finished one or the bare
error is taken for it. -/
theorem parse_finishedOk (text : List Char) : FinishedOk text (parse text) := by
  have ok : ∀ budget, ProgressOk text (Progress.run budget budget 0 (Progress.start text)) :=
    fun budget => (progressOk_start text).run budget budget 0
  unfold parse
  dsimp only
  generalize budgetFor text.length = budget
  replace ok := ok budget
  generalize Progress.run budget budget 0 (Progress.start text) = p at ok ⊢
  cases found : p.finished with
  | some tree => exact ok.finished tree found
  | none =>
    have noElement : Symbol.error ∉ elementSymbols := not_element_of_token (.inr rfl)
    exact ⟨Grounded.ofChildren (by simp)
      fun element => absurd element noElement,
      .node (Honest.ofChildren fun noError => absurd noError (by decide))
        (by simp [children_ofChildren]),
      Proper.ofChildren (by decide)⟩

/-- **The tree of a text** has a `<` of the text below each of its elements.  The text may be any,
and the tree may have errors. -/
theorem parse_grounded (text : List Char) : (parse text).Grounded text :=
  (parse_finishedOk text).grounded

/-- **The tree of a text** has an error exactly if there is an error or a missing token in it.  One
direction needs that no error escapes the counting, the other that nothing else is counted. -/
theorem parse_hasError_iff (text : List Char) :
    (parse text).hasError = true ↔ (parse text).Faulty :=
  hasError_iff (parse_finishedOk text).honest (parse_finishedOk text).proper

end JsxDetect.Parse
