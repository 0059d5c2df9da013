import Mathlib.Data.List.Perm.Subperm
import JsxDetect.Proofs.Comparison.Advance

/-!
# How far a round goes

No token goes across the beginning of an operator or of an operand, so in a round of the parser no
version goes further than to the next such station, its *wall*.  Between two walls there are few
places where a version may be: the versions without a way on are fewer than the parser keeps, and
where a `<` may begin type arguments there are so few versions that each of them can be doubled.

## Main Definitions

* `Chain.wall`: the station that no token goes across
* `Station.mayFork`: a `<` that may begin type arguments
* `Chain.Landed`: a version that has come to a station by a token
* `Chain.Forks`: the window of a round in which a `<` may begin type arguments

## Main Results

* `Chain.reach_le_wall`: no token goes across a wall
* `Chain.strays_few`: the versions without a way on are few
* `Chain.Forks.few`, `Chain.Forks.spare`: there are few versions where type arguments may begin

## Design Notes

**Why windows.**  A parse keeps six versions at most, so that a reading with a way on is not lost
needs a count.  Versions at the same place in the same state are joined, hence it is enough to count
places and states.  In a round all versions come to between one wall and the next, which are two
stations apart at most, and each of these has a short list of states.

**Two counts.**  `strays_few` bounds the versions without a way on by four: so if there is one with
a way on, then the first six contain one.  `Forks.few` bounds all versions by four where type
arguments may begin, so that each may double itself and there is still room.  Both count a list
without repetitions inside a list of candidates.
-/

namespace JsxDetect.Comparison

open Automaton Parse

namespace Station

/-- Is the station within an operator? -/
def isInner : Station → Bool
  | within .. => true
  | _ => false

/-- Does a name stand between two `<`, so that the second one may begin type arguments?  Nowhere
else does a version both take a token and complete a phrase before it. -/
def mayFork : Station → Bool
  | behind (some .less) (.name ..) (s :: _) => s.operator == .less
  | _ => false

theorem follow_of_isInner {σ : Station} (inner : σ.isInner = true) :
    ∃ o gap x steps, σ.follow = before o gap x steps := by
  cases σ with
  | within o long gap x steps => exact ⟨some o, gap, x, steps, rfl⟩
  | _ => cases inner

theorem follow_of_long {prev : Option Operator} {x : Operand} {s : Step} {steps : List Step}
    (long : s.operator.long = true) : (behind prev x (s :: steps)).follow.isInner = true := by
  rw [follow_long long]
  rfl

end Station

namespace Chain

variable {c : Chain} {i j k : Nat} {state : StateId} {token : Symbol}

/-! ### Walls -/

/-- The station that no token goes across from another one.  It is the next station that is not
within an operator. -/
def wall (c : Chain) (i : Nat) : Nat := if (c.station (i + 1)).isInner then i + 2 else i + 1

theorem lt_wall (c : Chain) (i : Nat) : i < c.wall i := by
  rw [wall]
  split <;> omega

theorem wall_le (c : Chain) (i : Nat) : c.wall i ≤ i + 2 := by
  rw [wall]
  split <;> omega

/-- **No token goes across a wall.**  A token of two characters begins right before the operator.
So all versions of a round come together between two walls. -/
theorem reach_le_wall (c : Chain) (i : Nat) (token : Symbol) : c.reach i token ≤ c.wall i := by
  have le := c.lt_wall i
  rw [reach]
  unfold Station.steps
  split
  · next prev x s steps station =>
    split
    · omega
    · split
      · next whole =>
        rw [Bool.and_eq_true] at whole
        have inner : (c.station (i + 1)).isInner = true := by
          rw [Chain.station, station]
          exact Station.follow_of_long whole.1
        rw [wall, if_pos inner]
      · omega
  · split <;> omega

/-- Up to a wall it is the same. -/
theorem wall_eq (later : i ≤ j) (before : j < c.wall i) : c.wall j = c.wall i := by
  rcases Nat.lt_or_eq_of_le later with more | rfl
  · rw [wall] at before
    split at before
    · next inner =>
      obtain rfl : j = i + 1 := by omega
      obtain ⟨o, gap, x, steps, follow⟩ := Station.follow_of_isInner inner
      have outside : (c.station (i + 1 + 1)).isInner = false := by
        rw [Chain.station, follow]
        rfl
      rw [wall, outside, wall, if_pos inner]
      rfl
    · omega
  · rfl

/-- A station that is not within an operator is a wall, or lies behind one. -/
theorem wall_le_of_outer (later : i < k) (outer : (c.station k).isInner = false) : c.wall i ≤ k := by
  rw [wall]
  split
  · next inner =>
    have other : k ≠ i + 1 := by
      rintro rfl
      rw [inner] at outer
      cases outer
    omega
  · exact later

theorem wall_mono (later : i ≤ j) : c.wall i ≤ c.wall j := by
  by_cases before : j < c.wall i
  · rw [wall_eq later before]
  · exact Nat.le_trans (Nat.le_of_not_lt before) (Nat.le_of_lt (c.lt_wall j))

/-! ### Versions that have come to a station -/

/-- A version has come to a station by a token. -/
structure Landed (c : Chain) (state : StateId) (i : Nat) : Prop where
  fits : c.fits state i
  landed : state ∈ (c.station i).site.landed

/-- A version is behind an operator only in front of an operand. -/
theorem site_of_operator : ∀ site ∈ Site.all, ∀ state ∈ site.heads, state ∈ operatorStates →
    site ∈ (none :: Operator.all.map some).map Site.before := by
  decide +kernel

theorem before_of_operator (fits : c.fits state i) (operator : state ∈ operatorStates) :
    ∃ o, (c.station i).site = .before o := by
  obtain ⟨o, -, same⟩ := List.mem_map.mp (site_of_operator _ (Site.mem_all _) state fits.head operator)
  exact ⟨o, same.symm⟩

/-- A name in front of a `<`, if it does not follow another one, is an operand of an expression. -/
theorem forks_read :
    (∀ site ∈ Site.all, 1201 ∈ site.heads → 96 ∈ site.tokens 1201 → site = .behind (some .less)) ∧
    ∀ prev ∈ none :: Operator.all.map some, ∀ symbol ∈ [1, 119],
      1201 ∈ (Site.before prev).lands 0 symbol → prev = some .less ∧ symbol = 1 := by
  decide +kernel

/-- Type arguments may begin only behind a name that follows a `<`: the state and the token tell
what stands there. -/
theorem mayFork_of_reads (fits : c.fits 1201 i) (reads : (c.station i).reads 1201 96) :
    (c.station i).mayFork = true := by
  obtain ⟨-, head, admits⟩ := fits
  have site := forks_read.1 _ (Site.mem_all _) head reads.1
  cases station : c.station i with
  | behind prev x steps =>
    rw [station] at admits site
    have known : prev ∈ none :: Operator.all.map some := by
      cases prev with
      | none => exact List.mem_cons_self
      | some o => exact List.mem_cons_of_mem _ (List.mem_map_of_mem o.mem_all)
    cases steps with
    | nil => cases site
    | cons s steps =>
      have less : s.operator = .less := Option.some.inj (Site.behind.inj site)
      cases x with
      | name word isWord free =>
        obtain ⟨rfl, -⟩ := forks_read.2 prev known 1 (by decide) (admits (by decide))
        rw [Station.mayFork, less]
        rfl
      | numeral digits isNumeral =>
        exact absurd (forks_read.2 prev known 119 (by decide) (admits (by decide))).2 (by decide)
  | _ =>
    rw [station] at site
    cases site

/-! ### Where type arguments may begin -/

/-- What stands where type arguments may begin. -/
theorem station_of_mayFork {σ : Station} (fork : σ.mayFork = true) :
    ∃ word isWord free s steps, σ = .behind (some .less) (.name word isWord free) (s :: steps) ∧
      s.operator = .less := by
  unfold Station.mayFork at fork
  split at fork
  · exact ⟨_, _, _, _, _, rfl, eq_of_beq fork⟩
  · cases fork

/-- The stations around one where type arguments may begin. -/
theorem around_fork {b : Nat} (fork : (c.station b).mayFork = true) :
    (∃ j, b = j + 1 ∧ (c.station j).site = .before (some .less)) ∧
      (c.station (b + 1)).site = .before (some .less) := by
  obtain ⟨word, isWord, free, s, steps, station, less⟩ := station_of_mayFork fork
  constructor
  · cases b with
    | zero => cases station
    | succ j =>
      refine ⟨j, rfl, ?_⟩
      rw [Chain.station] at station
      cases here : c.station j with
      | before prev gap x more =>
        rw [here, Station.follow] at station
        cases station
        rfl
      | behind prev x more =>
        rw [here] at station
        cases more with
        | nil => cases station
        | cons t more =>
          rw [Station.follow] at station
          split at station <;> cases station
      | _ =>
        rw [here, Station.follow] at station
        cases station
  · have short : s.operator.long = false := by
      rw [less]
      rfl
    rw [Chain.station, station, Station.follow_short short, Station.site, less]

theorem isInner_of_site {o : Option Operator} (before : (c.station i).site = .before o) :
    (c.station i).isInner = false := by
  cases station : c.station i with
  | within => rw [station] at before; cases before
  | _ => rfl

theorem outer_behind_before {o : Option Operator} (before : (c.station i).site = .before o) :
    (c.station (i + 1)).isInner = false := by
  rw [Chain.station]
  cases station : c.station i with
  | before => rfl
  | behind prev x steps => rw [station] at before; cases before
  | _ => rw [station] at before; cases before

/-- What can be done with a token around a name where type arguments may begin: only taking it, but
for the one state.  By evaluation. -/
theorem spare_actions :
    (∀ state ∈ (Site.before (some .less)).landed, ∀ token ∈ (Site.before (some .less)).tokens state,
      token ≠ 168 ∧ (actions state token).all (fun a => !passes a) = true) ∧
    (∀ state ∈ (Site.before (some .less)).lands 0 1, state = 1201 ∨ state = 2732) ∧
    ((Site.behind (some .less)).tokens 1201 = [96] ∧ (Site.behind (some .less)).tokens 2732 = [96]) ∧
    (actions 2732 96).all (fun a => !passes a) = true := by
  decide +kernel

/-- The window of a round in which a `<` may begin type arguments, behind a name. -/
structure Forks (c : Chain) (m n b : Nat) : Prop where
  low : m ≤ b
  high : b ≤ n
  near : n ≤ c.wall m
  fork : (c.station b).mayFork = true

namespace Forks

variable {m n b : Nat} (forks : c.Forks m n b)

include forks

theorem outer : (c.station b).isInner = false := by
  obtain ⟨_, _, _, _, _, station, -⟩ := station_of_mayFork forks.fork
  rw [station]
  rfl

/-- The stations in the window: one in front of the name at most, and one behind the `<`. -/
theorem stations (later : m ≤ k) (before : k < c.wall n) : k + 1 = b ∨ k = b ∨ k = b + 1 := by
  obtain ⟨⟨j, rfl, site⟩, site'⟩ := around_fork forks.fork
  have low := forks.low
  have high := forks.high
  have near := forks.near
  have first : j ≤ m := by
    by_contra less
    have := wall_le_of_outer (Nat.lt_of_not_le less) (isInner_of_site site)
    omega
  have behind : c.wall (j + 1) ≤ j + 2 := wall_le_of_outer (by omega) (isInner_of_site site')
  have last : n ≤ j + 2 := Nat.le_trans near (Nat.le_trans (wall_mono low) behind)
  rcases Nat.lt_or_eq_of_le last with less | rfl
  · obtain rfl : n = j + 1 := by omega
    omega
  · have := wall_le_of_outer (i := j + 2) (k := j + 3) (by omega) (outer_behind_before site')
    omega

/-- **What the versions in the window do**: each may double itself once, behind the name.  No
semicolon is left out in the window, as no `>` comes before. -/
theorem spare (later : m ≤ k) (before : k < c.wall n) (landed : c.Landed state k)
    (reads : (c.station k).reads state token) :
    token ≠ 168 ∧ ((actions state token).all (fun a => !passes a) = true ∨
      state = 1201 ∧ token = 96 ∧ k = b) := by
  obtain ⟨less, name, ⟨tokens, tokens'⟩, arguments⟩ := spare_actions
  obtain ⟨⟨j, next, site⟩, site'⟩ := around_fork forks.fork
  have plain (site : (c.station k).site = .before (some .less)) : token ≠ 168 ∧
      ((actions state token).all (fun a => !passes a) = true ∨ state = 1201 ∧ token = 96 ∧ k = b) := by
    have mem := landed.landed
    have read := reads.1
    rw [site] at mem read
    obtain ⟨noBreak, alone⟩ := less state mem token read
    exact ⟨noBreak, .inl alone⟩
  -- In front of the name and behind the `<` no token allows two readings; behind the name one does.
  rcases forks.stations later before with front | rfl | behind
  · obtain rfl : k = j := by omega
    exact plain site
  · obtain ⟨_, _, _, s, _, station, isLess⟩ := station_of_mayFork forks.fork
    have fits := landed.fits.admits
    have mem := landed.landed
    have read := reads.1
    rw [station] at fits mem read
    rw [Station.site, List.head?_cons, Option.map_some, isLess] at mem read
    rcases name state (fits mem) with rfl | rfl
    · rw [tokens] at read
      obtain rfl := List.mem_singleton.mp read
      exact ⟨by decide, .inr ⟨rfl, rfl, rfl⟩⟩
    · rw [tokens'] at read
      obtain rfl := List.mem_singleton.mp read
      exact ⟨by decide, .inl arguments⟩
  · subst behind
    exact plain site'

/-- **There are few versions in the window.**  They are counted among the states at its three
stations. -/
theorem few {heads : List Head} (nodup : heads.Nodup)
    (landed : ∀ h ∈ heads, ∃ state k, c.Landed state k ∧ m ≤ k ∧ k ≤ n ∧ h = c.headAt state k) :
    heads.length ≤ 4 := by
  obtain ⟨-, name, -, -⟩ := spare_actions
  have low := forks.low
  have high := forks.high
  have near := forks.near
  obtain ⟨⟨j, next, site⟩, site'⟩ := around_fork forks.fork
  -- the states at the stations in front of the name and behind it
  have before {k : Nat} {state : StateId} (landed : c.Landed state k)
      (site : (c.station k).site = .before (some .less)) :
      c.headAt state k ∈ [c.headAt 155 k, c.headAt 1085 k] := by
    have mem := landed.landed
    rw [site] at mem
    rcases List.mem_cons.mp mem with rfl | mem
    · exact List.mem_cons_self
    · rw [List.mem_singleton.mp mem]
      exact List.mem_cons_of_mem _ List.mem_cons_self
  have behind {state : StateId} (landed : c.Landed state b) :
      c.headAt state b ∈ [c.headAt 1201 b, c.headAt 2732 b] := by
    have fits := landed.fits.admits
    have mem := landed.landed
    obtain ⟨_, _, _, s, _, station, -⟩ := station_of_mayFork forks.fork
    rw [station] at fits mem
    rcases name state (fits mem) with rfl | rfl
    · exact List.mem_cons_self
    · exact List.mem_cons_of_mem _ List.mem_cons_self
  have all : ∃ k, (c.station k).site = .before (some .less) ∧
      ∀ i, m ≤ i → i ≤ n → i = b ∨ i = k := by
    have walls : c.wall j ≤ b := wall_le_of_outer (by omega) forks.outer
    by_cases first : m = b
    · refine ⟨b + 1, site', fun i later before => ?_⟩
      have := forks.stations later (Nat.lt_of_le_of_lt before (c.lt_wall n))
      omega
    · refine ⟨j, site, fun i later before => ?_⟩
      have stations := forks.stations later (Nat.lt_of_le_of_lt before (c.lt_wall n))
      have := forks.stations (Nat.le_refl m) (Nat.lt_of_le_of_lt (Nat.le_trans low high) (c.lt_wall n))
      obtain rfl : m = j := by omega
      omega
  obtain ⟨k, site, all⟩ := all
  -- Two heads behind the name, and two at the other station: no head occurs twice.
  have sub : heads ⊆ [c.headAt 1201 b, c.headAt 2732 b, c.headAt 155 k, c.headAt 1085 k] := by
    intro h mem
    obtain ⟨state, i, landed, later, earlier, rfl⟩ := landed h mem
    rcases all i later earlier with rfl | rfl
    · exact List.mem_append_left [c.headAt 155 k, c.headAt 1085 k] (behind landed)
    · exact List.mem_append_right [c.headAt 1201 b, c.headAt 2732 b] (before landed site)
  exact (List.subperm_of_subset nodup sub).length_le

end Forks

/-! ### Versions without a way on -/

/-- A version that has come to a sound state has a way on. -/
theorem Landed.wayOn (landed : c.Landed state i) (sound : state ∈ (c.station i).site.sound) :
    c.HasWayOn (c.headAt state i) :=
  ⟨state, i, landed.fits, sound, rfl⟩

/-- The states that tokens lead to and that have no way on. -/
def straysOf (site : Site) : List StateId := site.landed.filter fun state => !site.sound.contains state

/-- At most two of them belong to a site, and to both stations around the middle of an operator, by
evaluation. -/
theorem straysOf_few : (∀ site ∈ Site.all, (straysOf site).length ≤ 2) ∧
    ∀ o ∈ Operator.all, (straysOf (.within o)).length + (straysOf (.before (some o))).length ≤ 2 := by
  decide +kernel

/-- The versions without a way on that may come to a station. -/
def strays (c : Chain) (i : Nat) : List Head := (straysOf (c.station i).site).map (c.headAt · i)

/-- **The versions without a way on are few**, from a station up to its wall.  Two of them at most
are at either of the two stations there, or around the middle of an operator. -/
theorem strays_few {n : Nat} {heads : List Head} (nodup : heads.Nodup)
    (landed : ∀ h ∈ heads, ¬c.HasWayOn h ∧
      ∃ state k, c.Landed state k ∧ n ≤ k ∧ k ≤ c.wall n ∧ h = c.headAt state k) :
    heads.length ≤ 4 := by
  have here {h : Head} (mem : h ∈ heads) : ∃ k, n ≤ k ∧ k ≤ c.wall n ∧ h ∈ c.strays k := by
    obtain ⟨loose, state, k, ok, later, before, rfl⟩ := landed h mem
    refine ⟨k, later, before, List.mem_map_of_mem (List.mem_filter.mpr ⟨ok.landed, ?_⟩)⟩
    rw [Bool.not_eq_true']
    exact Bool.eq_false_iff.mpr fun sound => loose (ok.wayOn (List.contains_iff_mem.mp sound))
  have two (k : Nat) : (c.strays k).length ≤ 2 := by
    rw [strays, List.length_map]
    exact straysOf_few.1 _ (Site.mem_all _)
  -- Within an operator the wall is one station further, but the two stations have few together.
  by_cases inner : (c.station (n + 1)).isInner = true
  · have wall : c.wall n = n + 2 := if_pos inner
    have sub : heads ⊆ c.strays n ++ (c.strays (n + 1) ++ c.strays (n + 2)) := by
      intro h mem
      obtain ⟨k, later, before, stray⟩ := here mem
      obtain rfl | rfl | rfl : k = n ∨ k = n + 1 ∨ k = n + 2 := by omega
      · exact List.mem_append_left _ stray
      · exact List.mem_append_right _ (List.mem_append_left _ stray)
      · exact List.mem_append_right _ (List.mem_append_right _ stray)
    have few : (c.strays (n + 1)).length + (c.strays (n + 2)).length ≤ 2 := by
      rw [strays, strays, List.length_map, List.length_map, Chain.station.eq_def c (n + 2)]
      dsimp only
      cases station : c.station (n + 1) with
      | within o long gap x steps => exact straysOf_few.2 o o.mem_all
      | _ => rw [station] at inner; cases inner
    have length := (List.subperm_of_subset nodup sub).length_le
    have first := two n
    rw [List.length_append, List.length_append] at length
    omega
  · have wall : c.wall n = n + 1 := if_neg inner
    have sub : heads ⊆ c.strays n ++ c.strays (n + 1) := by
      intro h mem
      obtain ⟨k, later, before, stray⟩ := here mem
      obtain rfl | rfl : k = n ∨ k = n + 1 := by omega
      · exact List.mem_append_left _ stray
      · exact List.mem_append_right _ stray
    have length := (List.subperm_of_subset nodup sub).length_le
    have first := two n
    have second := two (n + 1)
    rw [List.length_append] at length
    omega

/-- **The versions that the parser keeps** of some, each in another place, are enough for one with a
way on, if there is one.  The first six cannot all be without. -/
theorem hasWayOn_of_take {n : Nat} {heads : List Head} (nodup : heads.Nodup)
    (landed : ∀ h ∈ heads, ∃ state k, c.Landed state k ∧ n ≤ k ∧ k ≤ c.wall n ∧ h = c.headAt state k)
    (wayOn : ∃ h ∈ heads, c.HasWayOn h) : ∃ h ∈ heads.take maxVersions, c.HasWayOn h := by
  by_contra none
  have loose : ∀ h ∈ heads.take maxVersions, ¬c.HasWayOn h := fun h mem wayOn => none ⟨h, mem, wayOn⟩
  have few := strays_few (nodup.sublist (List.take_sublist maxVersions heads))
    fun h mem => ⟨loose h mem, landed h (List.mem_of_mem_take mem)⟩
  have limit : maxVersions = 6 := rfl
  rw [List.length_take] at few
  obtain ⟨h, mem, wayOn⟩ := wayOn
  refine loose h ?_ wayOn
  rwa [List.take_of_length_le (by omega)]

end Chain

end JsxDetect.Comparison
