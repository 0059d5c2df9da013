import JsxDetect.Proofs.Comparison.Tokens
import JsxDetect.Proofs.Parse.Acceptance

/-!
# One token of a chain

What a version in one of the states of a chain does at the next token.  It is taken over the token,
or it stops; and it leaves others behind it, one for each other phrase that could be completed.  If
it was in a sound state and there was room for one more version, then there is a version in a sound
state again, or the whole text has been read.

## Main Definitions

* `Chain.HasWayOn`: a version in a sound state
* `Chain.AfterToken`: what a version has become by a token, and what it has left

## Main Results

* `Chain.consume`: a version at a token
* `Chain.advance`: a version that is taken one token further

## Design Notes

**Two statements at once.**  For safety it is enough that whatever becomes of a version is again at
a station, in a state that fits; `AfterToken` says so for every version.  That the parse succeeds
needs liveness: a version in a sound state must leave something with a way on, `Survives`.  The
second is proved beside the first in each step, because it needs to know where the version has gone.

**The induction.**  `consume` completes phrases one after the other, and each time the version is
replaced by one of the new ones.  Safety is by induction on fuel.  For liveness the fuel must not
run out: `height` combines the place below the version with the rank of its state, and it goes down
with each phrase.  Its bound, six for each byte, is far below the budget.

**How far a version can multiply.**  A version leaves one other for each phrase but the last.
`AfterToken.few` says that there are never more versions than one above the limit, and the next
modules count more closely.  The one token at which phrases compete with taking it is `<` behind a
name, `closing_fork`.
-/

namespace JsxDetect.Comparison

open Automaton Parse SyntaxTree Region

namespace Chain

variable {c : Chain} {i v : Nat} {state : StateId} {token : Symbol} {p q : Progress}

/-! ### Versions at stations -/

/-- A version that goes on at a station. -/
def headAt (c : Chain) (state : StateId) (i : Nat) : Head := ⟨state, c.place i, .active⟩

/-- A version in a sound state: it has a way on. -/
def HasWayOn (c : Chain) (h : Head) : Prop :=
  ∃ state i, c.fits state i ∧ state ∈ (c.station i).site.sound ∧ h = c.headAt state i

/-- The declaration begins with three tokens, and no phrase is completed in them. -/
theorem le_of_late (late : (c.station i).site.early = false) : 3 ≤ i := by
  by_contra few
  match i with
  | 0 | 1 | 2 => cases late
  | i + 3 => omega

/-- No token of a chain is an error or a part of JSX, by evaluation. -/
theorem tokens_ordinary : ∀ site ∈ Site.all, ∀ state ∈ site.heads, ∀ token ∈ site.tokens state,
    ordinary token = true := by
  decide +kernel

/-- A version stands at a station, and goes on. -/
structure Placed (c : Chain) (p : Progress) (v : Nat) (state : StateId) (i : Nat) : Prop where
  carries : Carries c.region p
  head : p.head v = c.headAt state i
  fits : c.fits state i
  /-- The declaration has begun with a tree for each of its tokens. -/
  size : min i 3 ≤ p.stack.size

namespace Placed

variable (placed : c.Placed p v state i)

include placed

theorem active : p.Active v := by
  rw [p.active_iff_head, placed.head]
  rfl

theorem inside : v < p.versions.length := placed.active.inside

theorem state_eq : p.state v = state := congrArg Head.state placed.head

theorem place_eq : (p.top v).place = c.place i := congrArg Head.place placed.head

end Placed

/-- A version may complete the phrases that its state tells, as each leads to a state that fits. -/
theorem passable (fits : c.fits state i) {as : List Action}
    (charted : Charted (c.station i).site state token as) {a : Action} (mem : a ∈ as)
    (pass : passes a = true) : Passable c.region state i a := by
  cases a with
  | shift next repeats => exact pass
  | shiftExtra => cases pass
  | recover => cases pass
  | accept => cases pass
  | reduce symbol count bonus =>
    have ok := charted.completes mem
    refine ⟨ok.bonus, ok.ordinary, ok.nonempty, fun m low => ?_, fun base below => ?_⟩
    · rw [region_base]
      exact ok.inner m low
    · rw [region_base] at below
      exact target fits (ok.leads base below)

/-- **The actions of a version** up to the one that ends them.  They add versions and leave the
version itself what it is. -/
theorem act (placed : c.Placed p v state i) {as : List Action}
    (charted : Charted (c.station i).site state token as) (lookahead : SyntaxTree) :
    ∃ added q last, Progress.act v lookahead as none p =
        Progress.act v lookahead (closing as) last q ∧
      Acted c.region v i (as.takeWhile passes) p q added ∧ (added = [] → last = none) ∧
      (added ≠ [] → ∃ j < added.length, last = some (p.versions.length + j)) := by
  have before {a : Action} (mem : a ∈ as.takeWhile passes) : a ∈ as ∧ passes a = true :=
    ⟨(List.takeWhile_sublist _).subset mem, List.all_eq_true.mp List.all_takeWhile a mem⟩
  have acted := placed.carries.act lookahead (as.takeWhile passes) (closing as) none placed.active
    placed.place_eq (fun symbol count bonus mem => ?_) (fun a mem => ?_)
  · rwa [closing, List.takeWhile_append_dropWhile] at acted
  · have ok := charted.completes (before mem).1
    have late := le_of_late ok.late
    have short := ok.short
    have size := placed.size
    omega
  · rw [placed.state_eq]
    exact passable placed.fits charted (before mem).1 (before mem).2

/-! ### The first phrase -/

/-- What the phrases of a version that are completed one over the other make smaller.  `bound` is
the offset of the place right below. -/
def height (state : StateId) (bound : Nat) : Nat := 6 * bound + rank state

/-- What a version in a sound state does first: the token is taken, the text is accepted, or a
phrase is completed that leads to sound states. -/
theorem persists_cases {site : Site} {as : List Action} (charted : Charted site state token as)
    (sound : state ∈ site.sound) : endsIn firmStates as = true ∨ as = [.accept] ∨
      ∃ first, as.head? = some first ∧ (as.takeWhile passes).head? = some first ∧
        lowers site state first = true := by
  have persists := charted.persists sound
  rw [Comparison.persists, Bool.or_eq_true, Bool.or_eq_true, beq_iff_eq, or_assoc] at persists
  refine persists.imp_right (Or.imp_right fun any => ?_)
  obtain ⟨first, isFirst, lowers⟩ := (Option.any_eq_true _ _).mp any
  refine ⟨first, isFirst, ?_, lowers⟩
  cases as with
  | nil => cases isFirst
  | cons a as =>
    obtain rfl : a = first := Option.some.inj isFirst
    rw [List.takeWhile_cons_of_pos (by cases a <;> first | rfl | cases lowers)]
    rfl

/-- A version that no action ends takes no token. -/
theorem endsIn_of_stuck {states : List StateId} {as : List Action} (stuck : closing as = []) :
    endsIn states as = false := by
  rw [endsIn, stuck]

/-- Then a version in a sound state completes a phrase. -/
theorem first_of_stuck {site : Site} {as : List Action} (charted : Charted site state token as)
    (sound : state ∈ site.sound) (stuck : closing as = []) :
    ∃ first, as.head? = some first ∧ (as.takeWhile passes).head? = some first ∧
      lowers site state first = true := by
  rcases persists_cases charted sound with gains | accepts | found
  · rw [endsIn_of_stuck stuck] at gains
    cases gains
  · rw [accepts] at stuck
    cases stuck
  · exact found

/-- **The first phrase of a version in a sound state** leads to a sound state, and it goes on to
make progress, if there is room for it. -/
theorem first_hasWayOn (placed : c.Placed p v state i) {as : List Action}
    (charted : Charted (c.station i).site state token as) {added : List Head} {pre : List Action}
    (acted : Acted c.region v i pre p q added)
    (room : p.versions.length ≤ maxVersions + versionOverflow) {first : Action}
    (isFirst : as.head? = some first) (isFirst' : pre.head? = some first)
    (lowers : lowers (c.station i).site state first = true) :
    (∃ u < p.versions.length, u ≠ v ∧ c.HasWayOn (p.head u)) ∨
    ∃ next others, added = c.headAt next i :: others ∧ c.fits next i ∧
      next ∈ (c.station i).site.sound ∧ token ∈ (c.station i).site.tokens next ∧
      next ∉ operandStates ++ operatorStates ∧
      ∀ bound, FirstLinkWithin p.stack (p.version v).node bound → ∃ lower,
        FirstLinkWithin q.stack (q.version p.versions.length).node lower ∧ height next lower < height state bound := by
  cases first with
  | reduce symbol count bonus =>
    have ok := charted.completes (List.mem_of_head? isFirst)
    obtain ⟨base, below, found⟩ := acted.first room symbol count bonus isFirst'
    rw [placed.state_eq, region_base] at below
    have leads := ok.leads base below
    have target := target placed.fits leads
    rw [Comparison.lowers, List.all_eq_true] at lowers
    have lowered := lowers base below
    rw [Bool.and_eq_true, List.contains_iff_mem] at lowered
    obtain ⟨sound, less⟩ := lowered
    have wayOn : c.HasWayOn (ofPhrase c.region i symbol base) := ⟨_, i, target.fits, sound, rfl⟩
    rcases found with ⟨u, insideU, other, there⟩ | ⟨others, here, low⟩
    · exact .inl ⟨u, insideU, other, there ▸ wayOn⟩
    · refine .inr ⟨goto base symbol, others, here, target.fits, sound, leads.token, leads.other,
        fun bound above => ?_⟩
      obtain ⟨lower, le, low, strict⟩ := low bound above
      refine ⟨lower, low, ?_⟩
      rw [Comparison.lower, Bool.or_eq_true, decide_eq_true_eq, Bool.and_eq_true, Bool.and_eq_true,
        decide_eq_true_eq, decide_eq_true_eq, List.all_eq_true] at less
      rw [height, height]
      -- The rank falls, or the phrase begins further down, which outweighs any rank.
      rcases less with less | ⟨⟨few, many⟩, rising⟩
      · omega
      · have := strict (fun base mem => ?_) many
        · omega
        · rw [placed.state_eq, region_base] at mem
          exact List.contains_iff_mem.mp (rising base mem)
  | _ => cases lowers

/-! ### Taking a token -/

/-- The token that is read at a station, and ends at another one. -/
def leafAt (c : Chain) (token : Symbol) (i : Nat) (start : Cursor) : SyntaxTree :=
  leaf token (c.place i) start (c.place (c.reach i token))

/-- A token that is no semicolon left out takes some text, and so leads to a later station. -/
theorem lt_reach (notOmitted : token ≠ 168) : i < c.reach i token := by
  have pos : 0 < (c.station i).steps token := by
    unfold Station.steps
    split
    · rw [if_neg notOmitted]
      split <;> decide
    · rw [if_neg notOmitted]
      decide
  rw [reach]
  omega

/-- At the end of the text a token takes nothing. -/
theorem place_reach_end (atEnd : (c.station i).site = .ended) :
    c.place (c.reach i token) = c.place i := by
  have ended : c.station i = .ended := by
    cases station : c.station i <;> rw [station] at atEnd <;> first | rfl | cases atEnd
  have stays (k : Nat) : c.station (i + k) = c.station i := by
    induction k with
    | zero => rfl
    | succ k ih => rw [← Nat.add_assoc, station, ih, ended]; rfl
  rw [place, place, reach, stays]

/-- A semicolon is left out only at the end of a line behind an operator, in a state behind a type.
-/
theorem site_of_omitted {site : Site} (read : 168 ∈ site.tokens state) :
    (∃ o, site = .before o) ∧ state ∈ breakStates := by
  have tokens : ∀ o : Operator, o.symbol ≠ 168 ∧ o.first ≠ 168 ∧ o.second ≠ 168 := Operator.symbols_ne
  cases site with
  | before o =>
    refine ⟨⟨o, rfl⟩, ?_⟩
    have read : 168 ∈ if state ∈ breakStates then [1, 119, 168] else [1, 119] := read
    by_contra outside
    rw [if_neg outside] at read
    exact absurd read (by decide)
  | behind o =>
    cases o with
    | none => exact absurd (show 168 ∈ [26] from read) (by decide)
    | some o =>
      have read : 168 ∈ if state ∈ wholeStates then [o.symbol] else [o.first] := read
      split at read
      · exact absurd (List.mem_singleton.mp read).symm (tokens o).1
      · exact absurd (List.mem_singleton.mp read).symm (tokens o).2.1
  | within o => exact absurd (List.mem_singleton.mp read).symm (tokens o).2.2
  | begin => exact absurd (show 168 ∈ [19] from read) (by decide)
  | named => exact absurd (show 168 ∈ [1] from read) (by decide)
  | equals => exact absurd (show 168 ∈ [8] from read) (by decide)
  | ended => exact absurd (show 168 ∈ [0] from read) (by decide)

/-- A semicolon that is left out ends a statement. -/
theorem lands_omitted {site : Site} {next : StateId} (lands : next ∈ site.lands state 168)
    (read : 168 ∈ site.tokens state) : next ∈ [772, 780] := by
  obtain ⟨⟨o, rfl⟩, -⟩ := site_of_omitted read
  exact lands

/-- **A version takes a token**: it is then at the station where the token ends, in a state that
fits. -/
theorem shift (placed : c.Placed p v state i) (reads : (c.station i).reads state token)
    (start : Cursor) {next : StateId}
    (shifts : Shifts (c.station i).site state token next) :
    Carries c.region (p.push v (some ((c.leafAt token i start).withExtra false)) next) ∧
      (p.push v (some ((c.leafAt token i start).withExtra false)) next).heads =
        p.heads.set v (c.headAt next (c.reach i token)) ∧
      Continues p.stack (p.push v (some ((c.leafAt token i start).withExtra false)) next).stack ∧
      p.stack.size < (p.push v (some ((c.leafAt token i start).withExtra false)) next).stack.size ∧
      c.fits next (c.reach i token) ∧
      next ∈ (c.station (c.reach i token)).site.landed ∧ (token = 168 → next ∈ [772, 780]) := by
  have fits := placed.fits
  obtain ⟨fitsNext, landed⟩ := fits_lands fits reads shifts.lands
  have isOrdinary := tokens_ordinary _ (Site.mem_all _) state fits.head token reads.1
  have neutral : ((c.leafAt token i start).withExtra false).Neutral := ⟨.leaf isOrdinary false, rfl, rfl⟩
  have le : i ≤ c.reach i token := Nat.le_add_right _ _
  obtain ⟨carries', heads, continues⟩ := placed.carries.push placed.active fitsNext
    (t := (c.leafAt token i start).withExtra false)
    rfl neutral shifts.notStart (by rw [placed.state_eq]; exact shifts.below)
    (by rw [placed.place_eq]; exact (place_offset_le_iff fits.inside fitsNext.inside).mpr le)
    (fun rising => by
      rw [placed.place_eq]
      refine place_offset_lt (lt_reach ?_) fitsNext.inside
      rintro rfl
      have other : ∀ next ∈ [772, 780], next ∉ operatorStates := by decide
      exact other next (lands_omitted shifts.lands reads.1) rising)
  refine ⟨carries', heads, continues, ?_, fitsNext, landed, ?_⟩
  · rw [Progress.push_stack, Array.size_push]
    exact Nat.lt_succ_self _
  · rintro rfl
    exact (lands_omitted shifts.lands reads.1)

/-! ### A version at a token -/

/-- A version in a state at the station `i` becomes one in the state `next` by the phrases that it
completes before a token. -/
structure Completed (c : Chain) (i : Nat) (state : StateId) (token : Symbol) (next : StateId) :
    Prop where
  fits : c.fits next i
  other : next ∉ operandStates ++ operatorStates
  token : token ∈ (c.station i).site.tokens next
  settled : state ∈ settledStates → next ∈ settledStates

theorem Completed.trans {next last : StateId} (one : c.Completed i state token next)
    (two : c.Completed i next token last) : c.Completed i state token last :=
  ⟨two.fits, two.other, two.token, fun mem => two.settled (one.settled mem)⟩

/-- What version `v`, in a state at the station `i`, has become by a token: `h` is where it is now,
and `extras` are the versions that it has left where it was.  Each of these has its turn later in
the same round. -/
structure AfterToken (c : Chain) (i v : Nat) (state : StateId) (token : Symbol) (p q : Progress)
    (h : Head)
    (extras : List Head) : Prop where
  carries : Carries c.region q
  heads : q.heads = p.heads.set v h ++ extras
  continues : Continues p.stack q.stack
  finished : p.finished.isSome → q.finished.isSome
  /-- The versions that were left have completed a phrase. -/
  left : ∀ e ∈ extras, ∃ next, c.Completed i state token next ∧ e = c.headAt next i
  /-- If the version goes on, then it has come to where the token ends. -/
  goes : h.isActive = true → p.stack.size < q.stack.size ∧ ∃ next, c.fits next (c.reach i token) ∧
    next ∈ (c.station (c.reach i token)).site.landed ∧ (token = 168 → next ∈ [772, 780]) ∧
    h = c.headAt next (c.reach i token)
  stays : h.isActive = false → h.place = c.place i
  few : q.versions.length ≤ max p.versions.length (maxVersions + versionOverflow + 1)
  /-- There is still room for one more version, but where type arguments may begin, or where the
  version has come to an operator. -/
  room : p.versions.length ≤ maxVersions + versionOverflow →
    q.versions.length ≤ maxVersions + versionOverflow ∨ (h.isActive = true ∧ h.state ∈ operatorStates) ∨
      state = 1201 ∧ token = 96
  alone : (actions state token).all (fun a => !passes a) = true → extras = []
  fork : state = 1201 → token = 96 → extras.length ≤ 1

/-- Something has a way on besides version `v`, or the text has been read. -/
def Survives (c : Chain) (v : Nat) (q : Progress) (h : Head) : Prop :=
  q.finished.isSome ∨ c.HasWayOn h ∨ ∃ u ≠ v, ∃ f, q.heads[u]? = some f ∧ c.HasWayOn f

/-- A version that has a way on is not touched by what another one does, as the other versions are
kept. -/
theorem AfterToken.survives_of_head {h : Head} {extras : List Head}
    (took : AfterToken c i v state token p q h extras)
    {u : Nat} (inside : u < p.versions.length) (other : u ≠ v) (wayOn : c.HasWayOn (p.head u)) :
    c.Survives v q h := by
  refine .inr (.inr ⟨u, other, p.head u, ?_, wayOn⟩)
  rw [Progress.heads_of_ne took.heads inside other, p.heads_getElem? inside]

/-- The first version that was left may have a way on. -/
theorem AfterToken.survives_of_left {h e : Head} {extras : List Head}
    (took : AfterToken c i v state token p q h (e :: extras)) (inside : v < p.versions.length)
    (wayOn : c.HasWayOn e) : c.Survives v q h := by
  refine .inr (.inr ⟨p.versions.length, Nat.ne_of_gt inside, e, ?_, wayOn⟩)
  rw [Progress.heads_of_le took.heads (Nat.le_refl _), Nat.sub_self]
  rfl

/-- A version comes to a state that has a way on. -/
theorem hasWayOn_of_landed {next : StateId} (fits : c.fits next i)
    (landed : next ∈ (c.station i).site.landed)
    (mem : next ∈ firmStates) : c.HasWayOn (c.headAt next i) :=
  ⟨next, i, fits, sound_of_landed _ (Site.mem_all _) next landed mem, rfl⟩

/-- The one state in which a phrase can be completed and the token taken: a name behind `<`, before
another `<`. -/
theorem closing_fork : closing (actions 1201 96) = [.shift 1085 false] ∧
    (actions 1201 96).takeWhile passes = [.reduce 219 1 0] ∧ basesOf 1201 1 = [155] := by
  decide +kernel

/-- Where a `<` may begin type arguments, one phrase can be completed. -/
theorem fork_few {added : List Head} (isState : p.state v = 1201)
    (acted : Acted c.region v i ((actions 1201 96).takeWhile passes) p q added) : added.length ≤ 1 := by
  obtain ⟨-, pre, base⟩ := closing_fork
  rw [pre] at acted
  have one : ∀ h ∈ added, h = ofPhrase c.region i 219 155 := by
    intro h mem
    obtain ⟨symbol, count, bottom, listed, below, same⟩ := acted.phrases h mem
    obtain ⟨rfl, rfl⟩ : symbol = 219 ∧ count = 1 := by
      simpa using listed
    rw [isState, region_base, base] at below
    rw [same, List.mem_singleton.mp below]
  match added, acted.nodup, one with
  | [], _, _ => exact Nat.zero_le 1
  | [_], _, _ => exact Nat.le_refl 1
  | a :: b :: more, nodup, one =>
    have same := (one a List.mem_cons_self).trans (one b (List.mem_cons_of_mem _ List.mem_cons_self)).symm
    exact absurd (same ▸ List.mem_cons_self) (List.nodup_cons.mp nodup).1

/-- Where the parser has come to at the end of the text. -/
theorem end_floors : belowOf 5357 = [1] ∧ belowOf 1 = [] ∧ 5357 ∉ operatorStates ∧
    actions 5357 Symbol.endOfText = [.accept] ∧
    ∀ site ∈ Site.all, 5357 ∈ site.heads → ∀ token ∈ site.tokens 5357, token = Symbol.endOfText := by
  decide +kernel

section

variable {added : List Head} {h : Head} {start : Cursor} (placed : c.Placed p v state i)
  (reads : (c.station i).reads state token)
  (acted : Acted c.region v i ((actions state token).takeWhile passes) p q added)

include acted

/-- Where no phrase can be completed first, none is, and so nothing is left behind. -/
theorem alone_of_acted (alone : (actions state token).all (fun a => !passes a) = true) :
    added = [] := by
  refine List.eq_nil_iff_forall_not_mem.mpr fun h mem => ?_
  obtain ⟨symbol, count, base, listed, -⟩ := acted.phrases h mem
  have outside := List.all_eq_true.mp alone _ ((List.takeWhile_sublist _).subset listed)
  rw [show passes (.reduce symbol count 0) = true from rfl] at outside
  cases outside

include placed

theorem placed_of_acted : c.Placed q v state i := by
  have grows := acted.grows
  exact ⟨grows.carries, (grows.head placed.inside).trans placed.head, placed.fits,
    Nat.le_trans placed.size grows.continues.size⟩

include reads

/-- The versions that some phrases give are at the same station, in states that fit. -/
theorem left_of_acted : ∀ e ∈ added, ∃ next, c.Completed i state token next ∧ e = c.headAt next i := by
  intro e mem
  obtain ⟨symbol, count, base, listed, below, rfl⟩ := acted.phrases e mem
  have charted := charted_of_head placed.fits.head reads.1
  have ok := charted.completes ((List.takeWhile_sublist _).subset listed)
  rw [placed.state_eq, region_base] at below
  have leads := ok.leads base below
  exact ⟨_, ⟨(target placed.fits leads).fits, leads.other, leads.token, leads.settled⟩, rfl⟩

/-- **The token is dealt with** behind some phrases.  What each of the three ends, taking the token,
accepting and stopping, has to show is collected in the hypotheses. -/
theorem afterToken_of_done {r : Progress} (carries : Carries c.region r)
    (heads : r.heads = q.heads.set v h)
    (continues : Continues q.stack r.stack) (finished : q.finished.isSome → r.finished.isSome)
    (goes : h.isActive = true → q.stack.size < r.stack.size ∧ ∃ next, c.fits next (c.reach i token) ∧
      next ∈ (c.station (c.reach i token)).site.landed ∧ (token = 168 → next ∈ [772, 780]) ∧
      h = c.headAt next (c.reach i token))
    (stays : h.isActive = false → h.place = c.place i)
    (room : added = [] ∨ (h.isActive = true ∧ h.state ∈ operatorStates) ∨ state = 1201 ∧ token = 96) :
    AfterToken c i v state token p r h added := by
  have grows := acted.grows
  have length : r.versions.length = q.versions.length := by
    rw [← r.length_heads, heads, List.length_set, q.length_heads]
  refine ⟨carries, ?_, grows.continues.trans continues,
    fun isSome => finished (by rw [grows.finished]; exact isSome), left_of_acted placed reads acted,
    fun active => ?_, stays, by rw [length]; exact acted.few, fun few => ?_, alone_of_acted acted, ?_⟩
  · rw [heads, grows.heads, List.set_append_left _ _ (by rw [p.length_heads]; exact placed.inside)]
  · obtain ⟨more, known⟩ := goes active
    exact ⟨Nat.lt_of_le_of_lt grows.continues.size more, known⟩
  · rcases room with rfl | other
    · refine .inl ?_
      rw [length, grows.length]
      exact few
    · exact .inr other
  · rintro rfl rfl
    exact fork_few placed.state_eq acted

/-- Where a version in a sound state completes a phrase, another one has a way on. -/
theorem survives_of_first {r : Progress} (took : AfterToken c i v state token p r h added)
    (room : p.versions.length ≤ maxVersions + versionOverflow) {first : Action}
    (isFirst : (actions state token).head? = some first)
    (isFirst' : ((actions state token).takeWhile passes).head? = some first)
    (lowers : lowers (c.station i).site state first = true) : c.Survives v r h := by
  have charted := charted_of_head placed.fits.head reads.1
  rcases first_hasWayOn placed charted acted room isFirst isFirst' lowers with
    ⟨u, insideU, other, wayOn⟩ | ⟨next, others, rfl, fits, sound, -⟩
  · exact took.survives_of_head insideU other wayOn
  · exact took.survives_of_left placed.inside ⟨next, i, fits, sound, rfl⟩

/-- **A version is taken over a token.**  If it was in an operator state it now has a way on; if it
was in a sound state then it has one, or one of those it left does. -/
theorem afterToken_shift {next : StateId} {others : List Action}
    (closes : closing (actions state token) = .shift next false :: others) (start : Cursor) :
    ∃ h, AfterToken c i v state token p (q.push v (some ((c.leafAt token i start).withExtra false)) next) h added ∧
      (state ∈ operatorStates → c.HasWayOn h) ∧
      (state ∈ (c.station i).site.sound → p.versions.length ≤ maxVersions + versionOverflow →
        c.Survives v (q.push v (some ((c.leafAt token i start).withExtra false)) next) h) := by
  have charted := charted_of_head placed.fits.head reads.1
  have listed : .shift next false ∈ actions state token :=
    (List.dropWhile_sublist passes).subset (show _ ∈ closing _ from closes ▸ List.mem_cons_self)
  have placedQ := placed_of_acted placed acted
  obtain ⟨carries, heads, continues, more, fits, landed, omitted⟩ :=
    shift placedQ reads start (charted.shifts listed)
  have ends {states : List StateId} (ends : endsIn states (actions state token) = true) : next ∈ states := by
    rw [endsIn, closes] at ends
    cases others with
    | nil => exact List.contains_iff_mem.mp ends
    | cons => cases ends
  have wayOn (gains : endsIn firmStates (actions state token) = true) :
      c.HasWayOn (c.headAt next (c.reach i token)) := hasWayOn_of_landed fits landed (ends gains)
  have took := afterToken_of_done placed reads acted carries heads continues id
    (fun _ => ⟨more, next, fits, landed, omitted, rfl⟩) (fun inactive => by cases inactive) (by
      have plain := charted.isPlain
      rw [isPlain, closes, Bool.or_eq_true, Bool.or_eq_true, Bool.and_eq_true, Bool.or_eq_true,
        beq_iff_eq, beq_iff_eq] at plain
      -- what the check of the table lets such a token leave behind
      rcases plain with (none | alone) | ⟨less, fork | operator⟩
      · cases none
      · exact .inl (alone_of_acted acted alone)
      · exact .inr (.inr ⟨fork, less⟩)
      · exact .inr (.inl ⟨rfl, ends operator⟩))
  refine ⟨_, took, fun operator => wayOn (charted.goesOn (.inr operator)), fun sound room => ?_⟩
  -- A sound state has a way on behind the token, or in the first phrase it has completed.
  rcases persists_cases charted sound with gains | accepts | ⟨first, isFirst, isFirst', lowers⟩
  · exact .inr (.inl (wayOn gains))
  · rw [accepts] at closes
    cases closes
  · exact survives_of_first placed reads acted took room isFirst isFirst' lowers

/-- **A version ends at the end of the text.**  It leaves a tree of the whole text, so from then on
the parse has succeeded whatever becomes of the others. -/
theorem afterToken_accept {others : List Action}
    (closes : closing (actions state token) = .accept :: others)
    (start : Cursor) : ∃ h, AfterToken c i v state token p (q.accept v (c.leafAt token i start)) h added ∧
      (state ∈ operatorStates → c.HasWayOn h) ∧ (q.accept v (c.leafAt token i start)).finished.isSome := by
  have charted := charted_of_head placed.fits.head reads.1
  have listed : .accept ∈ actions state token :=
    (List.dropWhile_sublist passes).subset (show _ ∈ closing _ from closes ▸ List.mem_cons_self)
  have placedQ := placed_of_acted placed acted
  have fits := charted.fits _ listed
  rw [Comparison.fits, Bool.and_eq_true, beq_iff_eq, beq_iff_eq] at fits
  obtain ⟨atEnd, rfl⟩ := fits
  obtain ⟨one, notPaired, other, single, tokens⟩ := end_floors
  have isEnd := tokens _ (Site.mem_all _) placed.fits.head token reads.1
  have isOrdinary := tokens_ordinary _ (Site.mem_all _) _ placed.fits.head token reads.1
  have extra : (c.leafAt token i start).extra = true := decide_eq_true isEnd
  have clean : (c.leafAt token i start).Clean false := by
    have clean : ((leaf token (c.place i) start (c.place (c.reach i token))).withExtra true).Clean false :=
      .leaf isOrdinary true
    have same : (leaf token (c.place i) start (c.place (c.reach i token))).withExtra true =
        c.leafAt token i start := by
      rw [leafAt, leaf, withExtra, decide_eq_true isEnd]
    rwa [same] at clean
  obtain ⟨carries, finished, continues, h, inactive, place, heads⟩ :=
    placedQ.carries.accept placedQ.active clean extra (by rw [placedQ.state_eq]; decide) (by
      -- only the beginning lies below a whole program
      rw [placedQ.state_eq]
      change ∀ state ∈ belowOf 5357, state = 1
      rw [one]
      exact fun state mem => List.mem_singleton.mp mem) notPaired
  refine ⟨h, afterToken_of_done placed reads acted carries heads continues (fun _ => finished)
    (fun active => ?_) (fun _ => place.trans ?_) ?_, fun operator => absurd operator other, finished⟩
  · rw [inactive] at active
    cases active
  · exact place_reach_end atEnd
  · refine .inl (alone_of_acted acted ?_)
    rw [isEnd, single]
    rfl

/-- **A version stops.**  No action takes the token, so if the version was in a sound state then a
phrase was completed, against the hypothesis that none was. -/
theorem afterToken_pause (closes : closing (actions state token) = []) (noNew : added = [])
    (start : Cursor) :
    ∃ h, AfterToken c i v state token p (q.pause v (c.leafAt token i start)) h added ∧
      (state ∈ operatorStates → c.HasWayOn h) ∧
      (state ∈ (c.station i).site.sound → p.versions.length ≤ maxVersions + versionOverflow →
        c.Survives v (q.pause v (c.leafAt token i start)) h) := by
  have charted := charted_of_head placed.fits.head reads.1
  have placedQ := placed_of_acted placed acted
  obtain ⟨carries, heads⟩ := placedQ.carries.setVersion
    { q.version v with status := .paused (c.leafAt token i start), countAtError := (q.top v).nodeCount }
    placedQ.active rfl
  have took := afterToken_of_done (r := q.pause v (c.leafAt token i start)) placed reads acted carries heads
    (.refl _) id nofun (fun _ => congrArg Head.place placedQ.head) (.inl noNew)
  refine ⟨_, took, fun operator => ?_, fun sound room => ?_⟩
  · have gains := charted.goesOn (.inr operator)
    rw [endsIn_of_stuck closes] at gains
    cases gains
  · obtain ⟨first, isFirst, isFirst', lowers⟩ := first_of_stuck charted sound closes
    exact survives_of_first placed reads acted took room isFirst isFirst' lowers

/-- **A version goes on as one that has completed a phrase**, the last one that was added.  The
others stay behind. -/
theorem placed_of_replace {j : Nat} (low : j < added.length) :
    ∃ next, c.Placed (q.replace v (p.versions.length + j)) v next i ∧
      (c.station i).reads next token ∧ c.Completed i state token next ∧ added[j] = c.headAt next i ∧
      (q.replace v (p.versions.length + j)).heads =
        p.heads.set v (c.headAt next i) ++ added.eraseIdx j := by
  have grows := acted.grows
  have inside := placed.inside
  have length := grows.length
  obtain ⟨next, completed, same⟩ := left_of_acted placed reads acted _ (List.getElem_mem low)
  have head := grows.head_new low
  obtain ⟨carries, heads, stack, -, -⟩ := grows.carries.replace (v := v) (w := p.versions.length + j)
    (by omega) (by omega)
  have heads' : (q.replace v (p.versions.length + j)).heads =
      p.heads.set v (c.headAt next i) ++ added.eraseIdx j := by
    rw [heads, head, same, grows.heads, List.set_append_left _ _ (by rw [p.length_heads]; exact inside),
      List.eraseIdx_append_of_length_le (by rw [List.length_set, p.length_heads]; omega),
      List.length_set, p.length_heads, Nat.add_sub_cancel_left]
  refine ⟨next, ⟨carries, (Progress.head_of_getElem? ?_).2, completed.fits, ?_⟩,
    ⟨completed.token, reads.2⟩, completed, same, heads'⟩
  · exact Progress.heads_self heads' inside
  · rw [stack]
    exact Nat.le_trans placed.size grows.continues.size

/-- What the version that goes on becomes.  What it leaves comes behind what was left before. -/
theorem afterToken_of_replace (closes : closing (actions state token) = []) {j : Nat}
    (low : j < added.length)
    {next : StateId} (completed : c.Completed i state token next)
    (heads : (q.replace v (p.versions.length + j)).heads =
      p.heads.set v (c.headAt next i) ++ added.eraseIdx j)
    {r : Progress} {extras : List Head}
    (took : AfterToken c i v next token (q.replace v (p.versions.length + j)) r h extras) :
    AfterToken c i v state token p r h (added.eraseIdx j ++ extras) := by
  have grows := acted.grows
  have inside := placed.inside
  have length := grows.length
  have few := acted.few
  have length' : (q.replace v (p.versions.length + j)).versions.length + 1 = q.versions.length := by
    rw [Progress.length_of_heads heads, List.length_eraseIdx_of_lt low]
    omega
  obtain ⟨-, -, stack, finished, -⟩ := grows.carries.replace (v := v) (w := p.versions.length + j)
    (by omega) (by omega)
  refine ⟨took.carries, ?_, ?_, fun isSome => took.finished ?_, fun e mem => ?_, fun active => ?_,
    took.stays, ?_, fun room => ?_, fun alone => ?_, ?_⟩
  · exact Progress.heads_trans heads inside took.heads
  · have later := took.continues
    rw [stack] at later
    exact grows.continues.trans later
  · rw [finished, grows.finished]
    exact isSome
  · rcases List.mem_append.mp mem with old | new
    · exact left_of_acted placed reads acted e (List.mem_of_mem_eraseIdx old)
    · obtain ⟨last, more, same⟩ := took.left e new
      exact ⟨last, completed.trans more, same⟩
  · obtain ⟨more, known⟩ := took.goes active
    rw [stack] at more
    exact ⟨Nat.lt_of_le_of_lt grows.continues.size more, known⟩
  · have := took.few
    omega
  · have limit : maxVersions + versionOverflow = 10 := rfl
    -- A phrase is complete, so type arguments cannot begin in this state.
    refine (took.room (by omega)).imp_right fun rest => .inl (rest.resolve_right fun fork =>
      completed.other ?_)
    rw [fork.1]
    decide
  · rw [alone_of_acted acted alone] at low
    cases low
  · rintro rfl rfl
    rw [closing_fork.1] at closes
    cases closes

/-- If the version was in a sound state, then something still has a way on: the version itself, when
it goes on as the first one that has completed a phrase, or that one, which was left. -/
theorem survives_of_replace (closes : closing (actions state token) = []) {j : Nat}
    (low : j < added.length) {next : StateId} (isAdded : added[j] = c.headAt next i)
    (heads : (q.replace v (p.versions.length + j)).heads =
      p.heads.set v (c.headAt next i) ++ added.eraseIdx j)
    {r : Progress} {extras : List Head} (took : AfterToken c i v state token p r h (added.eraseIdx j ++ extras))
    (sound : state ∈ (c.station i).site.sound)
    (room : p.versions.length ≤ maxVersions + versionOverflow)
    {bound : Nat} (above : FirstLinkWithin p.stack (p.version v).node bound)
    (survives : next ∈ (c.station i).site.sound →
      (q.replace v (p.versions.length + j)).versions.length ≤ maxVersions + versionOverflow →
      ∀ lower, FirstLinkWithin (q.replace v (p.versions.length + j)).stack
          ((q.replace v (p.versions.length + j)).version v).node lower →
        height next lower < height state bound → c.Survives v r h) : c.Survives v r h := by
  have charted := charted_of_head placed.fits.head reads.1
  obtain ⟨first, isFirst, isFirst', lowers⟩ := first_of_stuck charted sound closes
  rcases first_hasWayOn placed charted acted room isFirst isFirst' lowers with
    ⟨u, insideU, other, wayOn⟩ | ⟨next', others, rfl, fits, sound', -, -, height⟩
  · exact took.survives_of_head insideU other wayOn
  -- The first version added has completed the first phrase; if the version goes on as
  -- another one, then that one is left.
  · cases j with
    | zero =>
      obtain rfl : next' = next := congrArg Head.state isAdded
      obtain ⟨lower, low', less⟩ := height bound above
      have length := acted.grows.length
      have few := acted.few
      have limit : maxVersions + versionOverflow = 10 := rfl
      obtain ⟨-, -, stack, -, node⟩ := acted.grows.carries.replace (v := v)
        (w := p.versions.length + 0) (Nat.lt_of_lt_of_eq placed.inside rfl) (by omega)
      refine survives sound' ?_ lower (by rw [stack, node]; exact low') less
      rw [Progress.length_of_heads heads, List.length_eraseIdx_of_lt low]
      omega
    | succ j => exact took.survives_of_left placed.inside ⟨next', i, fits, sound', rfl⟩

end

/-- **A version at a token.**  By induction on fuel, along the cases of how its actions end: with
the token, with the end of the text, by stopping, or by going on as another version. -/
theorem consume (start : Cursor) (fuel : Nat) (placed : c.Placed p v state i)
    (reads : (c.station i).reads state token) :
    ∃ h extras, AfterToken c i v state token p (Progress.consume v fuel (c.leafAt token i start) p) h extras ∧
      (0 < fuel → state ∈ operatorStates → c.HasWayOn h) ∧
      (state ∈ (c.station i).site.sound → p.versions.length ≤ maxVersions + versionOverflow →
        ∀ bound, FirstLinkWithin p.stack (p.version v).node bound → height state bound < fuel →
          c.Survives v (Progress.consume v fuel (c.leafAt token i start) p) h) := by
  -- The fuel is at least the height, which falls with each phrase that is completed.
  induction fuel generalizing p state with
  | zero =>
    obtain ⟨carries, heads⟩ := placed.carries.setVersion { p.version v with status := .halted }
      placed.active rfl
    have length : (p.halt v).versions.length = p.versions.length := p.length_setVersion ..
    exact ⟨⟨(p.head v).state, (p.head v).place, .halted⟩, [],
      ⟨carries, by rw [List.append_nil]; exact heads, .refl _, id, List.forall_mem_nil _,
      fun active => (by cases active), fun _ => congrArg Head.place placed.head,
      by rw [Progress.consume, length]; exact Nat.le_max_left _ _,
      fun few => .inl (by rw [Progress.consume, length]; exact few), fun _ => rfl,
      fun _ _ => Nat.zero_le _⟩, fun none => by omega, fun _ _ _ _ none => by omega⟩
  | succ fuel ih =>
    have charted := charted_of_head placed.fits.head reads.1
    obtain ⟨added, q, last, acting, acted, keepsLast, isNew⟩ := act placed charted (c.leafAt token i start)
    rw [Progress.consume, placed.state_eq,
      show Progress.act v (c.leafAt token i start) (actions state (c.leafAt token i start).symbol) none p =
        Progress.act v (c.leafAt token i start) (closing (actions state token)) last q from acting]
    cases closes : closing (actions state token) with
    -- no action takes the token: the version stops, or goes on as one that has completed a phrase
    | nil =>
      rw [Progress.act]
      have placedQ := placed_of_acted placed acted
      have noGain : ¬endsIn firmStates (actions state token) = true := by
        rw [endsIn_of_stuck closes]
        exact Bool.false_ne_true
      by_cases none : added = []
      · have noKeyword : Grammar.isKeyword (c.leafAt token i start).symbol = false :=
          Bool.eq_false_iff.mpr fun is => noGain (charted.goesOn (.inl is))
        obtain ⟨h, took, operators, survives⟩ := afterToken_pause placed reads acted closes none start
        rw [keepsLast none]
        dsimp only
        rw [noKeyword, Bool.false_and, if_neg Bool.false_ne_true, placedQ.state_eq, if_neg charted.inside]
        exact ⟨h, added, took, fun _ => operators, fun sound room _ _ _ => survives sound room⟩
      · obtain ⟨j, low, same⟩ := isNew none
        obtain ⟨next, placedR, readsR, completed, isAdded, heads⟩ := placed_of_replace placed reads acted low
        obtain ⟨h, extras, took, -, survives⟩ := ih placedR readsR
        have took' := afterToken_of_replace placed reads acted closes low completed heads took
        rw [same]
        exact ⟨h, _, took', fun _ operator => absurd (charted.goesOn (.inr operator)) noGain,
          fun sound room bound above enough => survives_of_replace placed reads acted closes low isAdded
            heads took' sound room above fun sound few lower low less =>
              survives sound few lower low (by omega)⟩
    | cons a others =>
      have listed : a ∈ actions state token :=
        (List.dropWhile_sublist passes).subset (show _ ∈ closing _ from closes ▸ List.mem_cons_self)
      have fits := charted.fits a listed
      have stops : passes a = false := by
        have head := List.head?_dropWhile_not passes (actions state token)
        rw [show (actions state token).dropWhile passes = a :: others from closes] at head
        exact head
      cases a with
      | reduce => cases stops
      | shiftExtra => cases fits
      | recover => cases fits
      | accept =>
        obtain ⟨h, took, operators, finished⟩ := afterToken_accept placed reads acted closes start
        rw [Progress.act]
        exact ⟨h, added, took, fun _ => operators, fun _ _ _ _ _ => .inl finished⟩
      | shift next repeats =>
        obtain rfl : repeats = false := stops
        obtain ⟨h, took, operators, survives⟩ := afterToken_shift placed reads acted closes start
        rw [Progress.act, if_neg Bool.false_ne_true]
        exact ⟨h, added, took, fun _ => operators, fun sound room _ _ _ => survives sound room⟩

/-- The budget is larger than the height of any version. -/
theorem height_lt (c : Chain) (state : StateId) (i : Nat) :
    height state (c.place i).offset < budgetFor c.text.length := by
  have offset := place_offset_le (c := c) (i := i)
  have few : rank state ≤ 5 := by
    unfold rank
    split
    · exact Nat.le_refl 5
    · repeat' split
      all_goals omega
  rw [height, budgetFor]
  omega

/-- **A version is taken one token further.**  The token is the one that the version's state reads,
and the budget is large enough for all phrases that are completed before it. -/
theorem advance (placed : c.Placed p v state i) :
    ∃ token h extras, (c.station i).reads state token ∧
      AfterToken c i v state token p (p.advance (budgetFor c.text.length) v) h extras ∧
      (state ∈ operatorStates → c.HasWayOn h) ∧
      (state ∈ (c.station i).site.sound → p.versions.length ≤ maxVersions + versionOverflow →
        c.Survives v (p.advance (budgetFor c.text.length) v) h) := by
  have node := placed.carries.nodeOk placed.active
  have enough := c.height_lt state i
  obtain ⟨more, budget⟩ : ∃ more, budgetFor c.text.length = more + 2 :=
    ⟨budgetFor c.text.length - 2, by rw [budgetFor]; omega⟩
  obtain ⟨token, start, reads, looks⟩ := lookahead_eq placed.fits
  have hasAdvanced : p.hasAdvanced v = true := if_pos node.cost
  have advanced : p.advance (budgetFor c.text.length) v =
      Progress.consume v (budgetFor c.text.length) (c.leafAt token i start) p := by
    rw [Progress.advance, hasAdvanced]
    rw [show (p.top v).state = state from placed.state_eq, placed.place_eq, budget, looks]
    rfl
  obtain ⟨h, extras, took, operators, survives⟩ :=
    consume start (budgetFor c.text.length) placed reads
  rw [advanced]
  refine ⟨token, h, extras, reads, took, operators (by omega), fun sound room =>
    survives sound room (c.place i).offset (fun link others links => ?_) enough⟩
  have order := (node.links link (links ▸ List.mem_cons_self)).order
  rw [← placed.place_eq]
  exact order

end Chain

end JsxDetect.Comparison
