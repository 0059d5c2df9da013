import JsxDetect.Proofs.Comparison.Chain
import JsxDetect.Proofs.Parse.Phrases

/-!
# The region of a chain

All versions of a parse of a chain of comparisons stay in one `Region`: at each station they are in
the states of its site, and behind an operand only in those that this operand leads to.

## Main Definitions

* `Chain.fits`, `Chain.region`: the states at the stations of a chain
* `Station.reads`: the tokens that a version may read at a station, `Chain.reach`: where they end
* `Station.after`: the station where a token ends

## Main Results

* `Chain.fits_lands`: a token leads to a state that fits the station where it ends
* `Chain.target`: a completed phrase leads to a state that fits the same station

## Design Notes

**From the chart to a region.**  The chart speaks of sites, without a text.  Here it is laid over
the stations of a chain: `fits` says that a state is a head of the site of a station, and the region
has `belowOf` for the states below.  What is to be shown is that both ways to change a state respect
this, taking a token (`fits_lands`) and completing a phrase (`target`).

**One fact beyond the chart.**  Which operand was read is not seen from the site of the station
behind it.  `admits` keeps it: a state that an operand leads to must be one of those for this
operand, whether it is a name or a numeral.  It is needed where a name behind `<` may begin type
arguments, and a numeral may not.
-/

namespace JsxDetect.Comparison

open Automaton Parse SyntaxTree

/-! ### States at stations -/

namespace Station

/-- The operands that may have been read at a station. -/
def admits : Station → StateId → Prop
  | behind prev x _, state => state ∈ operandStates → state ∈ (Site.before prev).lands 0 x.symbol
  | _, _ => True

/-- The tokens that may be read in a state at a station. -/
def reads (σ : Station) (state : StateId) (token : Symbol) : Prop :=
  token ∈ σ.site.tokens state ∧
    match σ with
    | before _ _ x _ => token = 168 ∨ token = x.symbol
    | _ => True

/-- The stations up to the one where a token ends. -/
def steps : Station → Symbol → Nat
  | behind _ _ (s :: _), token =>
    if token = 168 then 0 else if s.operator.long && token = s.operator.symbol then 2 else 1
  | _, token => if token = 168 then 0 else 1

end Station

namespace Chain

variable (c : Chain)

/-- The states at a station. -/
structure fits (state : StateId) (i : Nat) : Prop where
  inside : i ≤ c.last
  head : state ∈ (c.station i).site.heads
  admits : (c.station i).admits state

/-- The station where a token ends. -/
def reach (i : Nat) (token : Symbol) : Nat := i + (c.station i).steps token

/-- No head is the error state, by evaluation. -/
theorem heads_ne_zero : ∀ site ∈ Site.all, ∀ state ∈ site.heads, state ≠ 0 := by
  decide +kernel

/-- **The region** of a chain.  Its states are those of the chart; the ones behind an operator are
rising, as operators are tokens with some text. -/
def region : Region where
  place := c.place
  fits := c.fits
  under := belowOf
  rising state := state ∈ operatorStates
  noError fits := heads_ne_zero _ (Site.mem_all _) _ fits.head
  apart fitsI fitsJ same := place_injective fitsI.inside fitsJ.inside same

variable {c}

theorem region_base (state : StateId) (count : Nat) :
    c.region.base state count = basesOf state count := by
  induction count with
  | zero => rfl
  | succ count ih =>
    rw [Parse.Region.base, ih]
    rfl

/-! ### Tokens -/

/-- What the states of a site lead to are states of the next one. -/
theorem lands_heads :
    (∀ o : Option Operator, ∀ token ∈ [1, 119], ∀ state ∈ (Site.before o).lands 0 token,
      state ∈ operandStates) ∧
    (∀ o : Operator, o.entered ⊆ (Site.before (some o)).heads ∧ o.begun ⊆ (Site.within o).heads) ∧
    (∀ o : Option Operator, ∀ state ∈ (Site.before o).heads, 168 ∈ (Site.before o).tokens state →
      o = some .greater) := by
  refine ⟨?_, fun o => ?_, ?_⟩
  · rintro (_ | o)
    · decide
    · cases o <;> decide
  · cases o <;> exact ⟨by decide, by decide⟩
  · rintro (_ | o)
    · decide
    · cases o <;> decide

theorem operandStates_heads (o : Option Operator) : operandStates ⊆ (Site.behind o).heads := by
  cases o with
  | none => decide
  | some o =>
    change operandStates ⊆ wholeStates ++ [2732, 2767] ++ typeStates
    decide

end Chain

theorem Operator.symbols_ne (o : Operator) : o.symbol ≠ 168 ∧ o.first ≠ 168 ∧ o.second ≠ 168 := by
  cases o <;> decide

theorem Operator.symbol_of_short {o : Operator} (short : o.long = false) : o.symbol = o.first := by
  rwa [Operator.long, bne_eq_false_iff_eq] at short

namespace Station

/-- The station where a token ends, a number of stations further on. -/
def after (σ : Station) (token : Symbol) : Station := follow^[σ.steps token] σ

/-- A whole operator ends before the next operand. -/
theorem after_whole (prev : Option Operator) (x : Operand) (s : Step) (steps : List Step) :
    (behind prev x (s :: steps)).after s.operator.symbol =
        before (some s.operator) s.behind s.operand steps ∧
      (behind prev x (s :: steps)).steps s.operator.symbol ≤ (behind prev x (s :: steps)).left := by
  have other := s.operator.symbols_ne.1
  cases long : s.operator.long with
  | false =>
    have one : (behind prev x (s :: steps)).steps s.operator.symbol = 1 := by
      rw [Station.steps, if_neg other, long, Bool.false_and, if_neg Bool.false_ne_true]
    rw [after, one, Function.iterate_one, follow_short long]
    exact ⟨rfl, countOf_pos _⟩
  | true =>
    have two : (behind prev x (s :: steps)).steps s.operator.symbol = 2 := by
      rw [Station.steps, if_neg other, long, Bool.true_and, if_pos (decide_eq_true rfl)]
    rw [after, two]
    change (behind prev x (s :: steps)).follow.follow = _ ∧ _
    rw [follow_long long, left, countOf, long]
    exact ⟨rfl, by simp only [if_true]; omega⟩

/-- The first character of a longer operator ends within it. -/
theorem after_first {s : Step} (long : s.operator.long = true) (prev : Option Operator) (x : Operand)
    (steps : List Step) :
    (behind prev x (s :: steps)).after s.operator.first =
        within s.operator long s.behind s.operand steps ∧
      (behind prev x (s :: steps)).steps s.operator.first ≤ (behind prev x (s :: steps)).left := by
  have differs : s.operator.first ≠ s.operator.symbol := by
    have := long
    rw [Operator.long, bne_iff_ne] at this
    exact this.symm
  have one : (behind prev x (s :: steps)).steps s.operator.first = 1 := by
    rw [Station.steps, if_neg s.operator.symbols_ne.2.1, if_neg]
    rw [Bool.and_eq_true, decide_eq_true_eq]
    exact fun both => differs both.2
  rw [after, one, Function.iterate_one, follow_long long]
  exact ⟨rfl, countOf_pos _⟩

/-- **What a token leads to** at the station where it ends: it does not go beyond the end of the
chain, and its state is a head there, admitted, and one of those that tokens lead to. -/
theorem lands_after {σ : Station} {state next : StateId} {token : Symbol}
    (head : state ∈ σ.site.heads) (reads : σ.reads state token)
    (lands : next ∈ σ.site.lands state token) :
    σ.steps token ≤ σ.left ∧ next ∈ (σ.after token).site.heads ∧
      (σ.after token).admits next ∧ next ∈ (σ.after token).site.landed := by
  obtain ⟨operand, whole, late⟩ := Chain.lands_heads
  match σ with
  | begin c | named c | equals c =>
    obtain rfl := List.mem_singleton.mp lands
    obtain rfl := List.mem_singleton.mp reads.1
    exact ⟨Nat.le_trans (show _ ≤ 1 from Nat.le_refl 1) (by simp only [left]; omega),
      List.mem_singleton.mpr rfl, trivial, List.mem_singleton.mpr rfl⟩
  | before prev gap x steps =>
    -- a semicolon left out keeps the station; an operand leads behind itself
    by_cases omitted : token = 168
    · subst omitted
      obtain rfl := late prev state head reads.1
      have ends : next ∈ [772, 780] := lands
      have inside : ∀ next ∈ [772, 780], next ∈ (Site.before (some .greater)).heads ∧
          next ∈ (Site.before (some .greater)).landed := by decide
      exact ⟨Nat.zero_le _, (inside next ends).1, trivial, (inside next ends).2⟩
    · have isOperand := reads.2.resolve_left omitted
      have either : token ∈ [1, 119] := by
        rw [isOperand]
        cases x with
        | name => exact List.mem_cons_self
        | numeral => exact List.mem_cons_of_mem _ List.mem_cons_self
      have landed : next ∈ operandStates := operand prev token either next lands
      rw [after, show (before prev gap x steps).steps token = 1 from if_neg omitted]
      refine ⟨by simp only [left]; omega, Chain.operandStates_heads _ landed, fun _ => ?_, landed⟩
      rw [← isOperand]
      exact lands
  | behind prev x [] =>
    obtain rfl := List.mem_singleton.mp reads.1
    have ends : next ∈ [772, 780] := lands
    have inside : ∀ next ∈ [772, 780], next ∈ Site.ended.heads := by decide
    exact ⟨countOf_pos _, inside next ends, trivial, ends⟩
  | behind prev x (s :: steps) =>
    have read : token ∈ if state ∈ wholeStates then [s.operator.symbol] else [s.operator.first] := reads.1
    have leads : next ∈ if state ∈ wholeStates ∨ s.operator.long = false then s.operator.entered
      else s.operator.begun := lands
    clear lands reads
    obtain ⟨entered, begun⟩ := whole s.operator
    -- The lexicon of the state reads the whole operator, or only its first character.
    by_cases entire : state ∈ wholeStates ∨ s.operator.long = false
    · have isWhole : token = s.operator.symbol := by
        rcases entire with inside | short
        · rw [if_pos inside] at read
          exact List.mem_singleton.mp read
        · rw [Operator.symbol_of_short short, ite_self] at read
          rw [Operator.symbol_of_short short]
          exact List.mem_singleton.mp read
      rw [if_pos entire] at leads
      rw [isWhole, (after_whole prev x s steps).1]
      exact ⟨(after_whole prev x s steps).2, entered leads, trivial, leads⟩
    · rw [if_neg entire] at leads
      obtain ⟨outside, isLong⟩ := not_or.mp entire
      have long : s.operator.long = true := by simpa using isLong
      rw [if_neg outside] at read
      obtain rfl := List.mem_singleton.mp read
      rw [(after_first long prev x steps).1]
      exact ⟨(after_first long prev x steps).2, begun leads, trivial, leads⟩
  | within o long gap x steps =>
    obtain rfl := List.mem_singleton.mp reads.1
    rw [after, show (within o long gap x steps).steps o.second = 1 from if_neg o.symbols_ne.2.2]
    exact ⟨by simp only [left]; omega, (whole o).1 lands, trivial, lands⟩
  | ended => cases lands

end Station

namespace Chain

variable {c : Chain} {i : Nat} {state next : StateId} {token : Symbol}

theorem station_add (i k : Nat) : c.station (i + k) = Station.follow^[k] (c.station i) := by
  induction k with
  | zero => rfl
  | succ k ih => rw [Function.iterate_succ_apply', ← ih]; rfl

theorem station_reach (i : Nat) (token : Symbol) :
    c.station (c.reach i token) = (c.station i).after token := station_add i _

/-- **A token leads to a state that fits** the station where it ends.  It is one of those that
tokens lead to there, which are fewer than all heads, and so the versions can be counted. -/
theorem fits_lands (fits : c.fits state i) (reads : (c.station i).reads state token)
    (lands : next ∈ (c.station i).site.lands state token) :
    c.fits next (c.reach i token) ∧ next ∈ (c.station (c.reach i token)).site.landed := by
  obtain ⟨few, head, admits, landed⟩ := Station.lands_after fits.head reads lands
  rw [station_left] at few
  have inside := fits.inside
  rw [← station_reach] at head admits landed
  exact ⟨⟨by rw [reach]; omega, head, admits⟩, landed⟩

/-! ### Phrases -/

/-- **A completed phrase leads to a state that fits** the same station.  The state is not one behind
an operator, so it is not rising, as the new node may be at the place of the one below. -/
theorem target (fits : c.fits state i) {symbol : Symbol} {base : StateId}
    (leads : LeadsTo (c.station i).site state token base (goto base symbol)) :
    c.region.Target base symbol i where
  fits := by
    refine ⟨fits.inside, leads.head, ?_⟩
    have other : goto base symbol ∉ operandStates := fun mem =>
      leads.other (List.mem_append_left _ mem)
    cases c.station i with
    | behind prev x steps => exact fun mem => absurd mem other
    | _ => trivial
  below := leads.below
  steady mem := leads.other (List.mem_append_right _ mem)
  other := leads.notStart

end Chain

end JsxDetect.Comparison
