import JsxDetect.Proofs.Comparison.Windows

/-!
# The turn of a version

In a round each version is taken over one token after the other, until it has come as far as those
before it.  A version that has a way on comes to a wall, if there is room for what it leaves behind;
and it leaves few.

## Main Definitions

* `Chain.ForkFree`: no type arguments may begin before a version, up to the wall
* `Chain.Turned`: what a version has become in its turn, and what it has left

## Main Results

* `Chain.advanceVersion`: the turn of a version

## Design Notes

**What a turn is.**  A version is advanced token by token until it is at least as far as the
foremost one before it; the first version makes one step.  `l` is the station of the foremost one,
which the turn may move to `l'`.

**Room.**  A version may leave others at each token, and each of these counts against the limit of
versions.  There are two modes.  Before a `ForkFree` version nothing can be left once it has taken a
token, apart from where it has become one with a way on.  Otherwise the window is one of `Forks`, in
which each version may leave one other, once; `spareAt` is the number it may still leave.  Both are
kept through a turn, and `Leaves` says that what was left is in the first mode.

**Termination.**  `remaining` goes down with each token: by two for a station further on, and by one
where a semicolon was left out, which takes no text.  The latter is possible only once at a station,
from a state of `breakStates` to one that is settled.
-/

namespace JsxDetect.Comparison

open Automaton Parse

namespace Chain

variable {c : Chain} {i j k m n v : Nat} {state : StateId} {token : Symbol} {p q : Progress}

/-! ### One token in a window -/

/-- No type arguments may begin before a version, up to a wall.  At its own station they may, if it
is not in the state in which they do. -/
def ForkFree (c : Chain) (wall : Nat) (state : StateId) (i : Nat) : Prop :=
  ∀ b, i ≤ b → b < wall → (c.station b).mayFork = true → b = i ∧ state ≠ 1201

/-- Behind the `<` no further type arguments may begin. -/
theorem Forks.last {b : Nat} (forks : c.Forks m n b) (later : b < k) (before : k < c.wall n) :
    (c.station k).mayFork = false := by
  have low := forks.low
  have stations := forks.stations (Nat.le_of_lt (Nat.lt_of_le_of_lt low later)) before
  obtain rfl : k = b + 1 := by omega
  obtain ⟨-, site⟩ := around_fork forks.fork
  refine Bool.eq_false_iff.mpr fun fork => ?_
  obtain ⟨_, _, _, _, _, station, -⟩ := station_of_mayFork fork
  rw [station] at site
  cases site

/-- What a version may still leave where type arguments may begin. -/
def spareAt (b i : Nat) : Nat := if i ≤ b then 1 else 0

/-- The window of a round: all versions are in it, and some have come to its end. -/
structure Window (c : Chain) (m n : Nat) : Prop where
  order : m ≤ n
  near : n ≤ c.wall m

/-- A version in a window, in front of the wall. -/
structure Stays (c : Chain) (m n i : Nat) : Prop where
  later : m ≤ i
  before : i < c.wall n

section

variable {h : Head} {extras : List Head} (took : AfterToken c i v state token p q h extras)
  (fits : c.fits state i) (reads : (c.station i).reads state token) (stays : c.Stays m n i)

include took fits reads stays

/-- What a token leaves where no type arguments may begin: nothing that takes room, or the version
itself has come to an operator and has a way on. -/
theorem AfterToken.room_of_forkFree (forkFree : c.ForkFree (c.wall n) state i)
    (room : p.versions.length ≤ maxVersions + versionOverflow) :
    q.versions.length ≤ maxVersions + versionOverflow ∨ (h.isActive = true ∧ h.state ∈ operatorStates) := by
  refine (took.room room).imp_right fun rest => rest.resolve_right ?_
  rintro ⟨rfl, rfl⟩
  exact (forkFree i (Nat.le_refl i) stays.before (mayFork_of_reads fits reads)).2 rfl

omit fits in
/-- What a token leaves where type arguments may begin: one version at most, and only behind the
name. -/
theorem AfterToken.spare {b : Nat} (forks : c.Forks m n b) (landed : c.Landed state i) :
    token ≠ 168 ∧ (extras ≠ [] → i = b) ∧ extras.length ≤ 1 := by
  obtain ⟨notOmitted, alone | ⟨rfl, rfl, rfl⟩⟩ := forks.spare stays.later stays.before landed reads
  · rw [took.alone alone]
    exact ⟨notOmitted, fun none => absurd rfl none, Nat.zero_le 1⟩
  · exact ⟨notOmitted, fun _ => rfl, took.fork rfl rfl⟩

omit fits in
/-- A token takes what it leaves from what may be left. -/
theorem AfterToken.spareAt_reach {b : Nat} (forks : c.Forks m n b) (landed : c.Landed state i) :
    extras.length + spareAt b (c.reach i token) ≤ spareAt b i := by
  obtain ⟨notOmitted, atFork, one⟩ := took.spare reads stays forks landed
  have more := lt_reach (c := c) (i := i) notOmitted
  by_cases none : extras = []
  · rw [none, List.length_nil, spareAt, spareAt]
    split <;> split <;> omega
  · have here := atFork none
    rw [spareAt, spareAt, if_neg (by omega), if_pos (by omega)]
    exact one

omit fits in
/-- No type arguments may begin before what is left. -/
theorem AfterToken.left_forkFree (mode : c.ForkFree (c.wall n) state i ∨ (∃ b, c.Forks m n b) ∧ c.Landed state i)
    (nonempty : extras ≠ []) {next : StateId} (other : next ∉ operandStates) :
    c.ForkFree (c.wall n) next i := by
  have apart : next ≠ 1201 := by
    rintro rfl
    exact other (by decide)
  rcases mode with forkFree | ⟨⟨b, forks⟩, landed⟩
  · exact fun b le lt fork => ⟨(forkFree b le lt fork).1, apart⟩
  · obtain rfl := (took.spare reads stays forks landed).2.1 nonempty
    refine fun k le lt fork => ⟨?_, apart⟩
    by_contra more
    rw [forks.last (by omega) lt] at fork
    cases fork

end

/-! ### The next token of a version -/

/-- If no type arguments may begin before a version, then this is so behind its next token. -/
theorem ForkFree.reach {wall : Nat} (forkFree : c.ForkFree wall state i) {next : StateId}
    (omitted : token = 168 → next ∈ [772, 780]) : c.ForkFree wall next (c.reach i token) := by
  intro b le lt fork
  have later : i ≤ c.reach i token := Nat.le_add_right _ _
  obtain ⟨rfl, -⟩ := forkFree b (Nat.le_trans later le) lt fork
  refine ⟨by omega, ?_⟩
  rintro rfl
  by_cases none : token = 168
  · exact absurd (omitted none) (by decide)
  · have := lt_reach (c := c) (i := b) none
    omega

/-- An operator ends at a wall. -/
theorem le_reach_operator (window : c.Window m n) (later : m ≤ i) {next : StateId}
    (fits : c.fits next (c.reach i token)) (operator : next ∈ operatorStates)
    (omitted : token = 168 → next ∈ [772, 780]) : n ≤ c.reach i token := by
  have notOmitted : token ≠ 168 := fun none => by
    have other : ∀ next ∈ [772, 780], next ∉ operatorStates := by decide
    exact other next (omitted none) operator
  obtain ⟨o, site⟩ := before_of_operator fits operator
  exact Nat.le_trans window.near (Nat.le_trans (wall_mono later)
    (wall_le_of_outer (lt_reach notOmitted) (isInner_of_site site)))

/-- In front of a wall, the token behind an operator leads to it. -/
theorem wall_le_reach (fits : c.fits state i) (reads : (c.station i).reads state token)
    (operator : state ∈ operatorStates) (far : n ≤ i) : c.wall n ≤ c.reach i token := by
  obtain ⟨o, site⟩ := before_of_operator fits operator
  have wall := wall_le_of_outer (Nat.lt_succ_self i) (outer_behind_before site)
  have notOmitted : token ≠ 168 := by
    rintro rfl
    have other : ∀ state ∈ operatorStates, state ∉ breakStates := by decide
    exact other state operator (site_of_omitted reads.1).2
  exact Nat.le_trans (wall_mono far) (Nat.le_trans wall (lt_reach notOmitted))

/-- A token leads no further than to the wall. -/
theorem Stays.reach_le_wall (stays : c.Stays m n i) (token : Symbol) :
    c.reach i token ≤ c.wall n := by
  refine Nat.le_trans (c.reach_le_wall i token) ?_
  by_cases far : i ≤ n
  · exact wall_mono far
  · exact Nat.le_of_eq (wall_eq (Nat.le_of_not_le far) stays.before)

/-- The stack has room for what a token adds, while the declaration begins. -/
theorem size_reach {a b : Nat} (size : min i 3 ≤ a) (more : a < b) : min (c.reach i token) 3 ≤ b := by
  have le := c.reach_le_wall i token
  by_cases late : 3 ≤ i
  · omega
  · have outer : (c.station (i + 1)).isInner = false := by
      match i with
      | 0 | 1 | 2 => rfl
      | i + 3 => omega
    rw [wall, outer] at le
    simp only [Bool.false_eq_true, if_false] at le
    omega

/-- A version with a way on is in a sound state of its station; it is told by state and place. -/
theorem HasWayOn.sound (wayOn : c.HasWayOn (c.headAt state i)) (inside : i ≤ c.last) :
    state ∈ (c.station i).site.sound := by
  obtain ⟨other, k, fits, sound, same⟩ := wayOn
  obtain rfl : state = other := congrArg Head.state same
  have place : c.place i = c.place k := congrArg Head.place same
  obtain rfl : i = k := place_injective inside fits.inside (congrArg Cursor.offset place)
  exact sound

/-- A version that reads a token stays where it is only if that is a semicolon left out, and this is
so once. -/
theorem settled_of_omitted (reads : (c.station i).reads state token) {next : StateId}
    (omitted : token = 168 → next ∈ [772, 780]) (stays : c.reach i token = i) :
    state ∉ settledStates ∧ next ∈ settledStates := by
  have none : token = 168 := by
    by_contra notOmitted
    exact Nat.ne_of_gt (lt_reach (c := c) (i := i) notOmitted) stays
  subst none
  have apart : ∀ state ∈ breakStates, state ∉ settledStates := by decide
  have statements : ∀ state ∈ [772, 780], state ∈ settledStates := by decide
  exact ⟨apart state (site_of_omitted reads.1).2, statements next (omitted rfl)⟩

/-! ### The turn of a version -/

/-- A version that another one has left, in a turn that began in a state at the station `i`: it is
in the window, in front of the wall. -/
structure Leaves (c : Chain) (m n l i : Nat) (state : StateId) (size : Nat) (e : Head) (next : StateId)
    (k : Nat) : Prop where
  fits : c.fits next k
  stays : c.Stays m n k
  later : i ≤ k
  low : k ≤ l
  size : min k 3 ≤ size
  same : e = c.headAt next k
  forkFree : c.ForkFree (c.wall n) state i ∨ (∃ b, c.Forks m n b) ∧ c.Landed state i → c.ForkFree (c.wall n) next k
  settled : k = i → state ∈ settledStates → next ∈ settledStates

/-- What version `v`, in a state at the station `i`, has become in its turn: `h` is where it is now,
and `extras` are the versions that it has left.  The foremost version was at the station `l`, and is
at `l'` now. -/
structure Turned (c : Chain) (m n l v i : Nat) (state : StateId) (p q : Progress) (l' : Nat) (h : Head)
    (extras : List Head) : Prop where
  carries : Region.Carries c.region q
  heads : q.heads = p.heads.set v h ++ extras
  size : p.stack.size ≤ q.stack.size
  finished : p.finished.isSome → q.finished.isSome
  few : q.versions.length ≤ max p.versions.length (maxVersions + versionOverflow + 1)
  left : ∀ e ∈ extras, ∃ next k, c.Leaves m n l i state q.stack.size e next k
  /-- If the version goes on, then it has come as far as the others; and where it was, a semicolon
  has been left out, if it is still there. -/
  goes : h.isActive = true → ∃ next, c.Landed next l' ∧ l ≤ l' ∧ l' ≤ c.wall n ∧
    min l' 3 ≤ q.stack.size ∧ h = c.headAt next l' ∧
    (l' = i → state ∉ settledStates ∧ next ∈ settledStates)
  stays : h.isActive = false → l' = l
  forkFree : c.ForkFree (c.wall n) state i →
    (p.versions.length ≤ maxVersions + versionOverflow ∨ state ∈ operatorStates ∧ n ≤ i) →
      (q.versions.length ≤ maxVersions + versionOverflow ∨ c.HasWayOn h) ∧
      (state ∈ (c.station i).site.sound → c.Survives v q h)
  fork : ∀ b, c.Forks m n b → c.Landed state i → extras.length ≤ spareAt b i ∧
    (state ∈ (c.station i).site.sound →
      p.versions.length + spareAt b i ≤ maxVersions + versionOverflow → c.Survives v q h)

/-- Something still has a way on after the turn of a version, if the version has one whenever it
had one before. -/
theorem Turned.survives {l l' : Nat} {h h' : Head} {extras : List Head}
    (turned : Turned c m n l v i state p q l' h' extras) (survives : c.Survives v p h)
    (more : c.HasWayOn h → c.Survives v q h') : c.Survives v q h' := by
  rcases survives with finished | isFirm | ⟨u, other, f, isHead, isFirm⟩
  · exact .inl (turned.finished finished)
  · exact more isFirm
  · refine .inr (.inr ⟨u, other, f, ?_, isFirm⟩)
    have inside := (Progress.head_of_getElem? isHead).1
    rw [Progress.heads_of_ne turned.heads inside other, isHead]

section

variable {l : Nat} {h : Head} {extras : List Head}
  (placed : c.Placed p v state i) (reads : (c.station i).reads state token)
  (took : AfterToken c i v state token p q h extras) (operators : state ∈ operatorStates → c.HasWayOn h)
  (survives : state ∈ (c.station i).site.sound → p.versions.length ≤ maxVersions + versionOverflow →
    c.Survives v q h) (stays : c.Stays m n i) (low : i ≤ l)

include placed reads took operators survives stays low

/-- The turn of a version ends behind a token, if it has come as far as the others or does not go
on. -/
theorem turned_of_took {l' : Nat} (goes : h.isActive = true → l' = c.reach i token ∧ l ≤ l' ∧ l' ≤ c.wall n)
    (halts : h.isActive = false → l' = l) : Turned c m n l v i state p q l' h extras := by
  have size := placed.size
  have grows := took.continues.size
  refine ⟨took.carries, took.heads, grows, took.finished, took.few, fun e mem => ?_, fun active => ?_,
    halts, fun forkFree fine => ⟨?_, fun sound => ?_⟩, fun b forks landed => ⟨?_, fun sound room => ?_⟩⟩
  · obtain ⟨next, completed, same⟩ := took.left e mem
    exact ⟨next, i, completed.fits, stays, Nat.le_refl i, low, Nat.le_trans size grows, same, fun mode =>
      took.left_forkFree reads stays mode (List.ne_nil_of_mem mem) fun operand =>
        completed.other (List.mem_append_left _ operand), fun _ => completed.settled⟩
  · obtain ⟨rfl, far, near⟩ := goes active
    obtain ⟨more, next, fits, landed, omitted, same⟩ := took.goes active
    exact ⟨next, ⟨fits, landed⟩, far, near, size_reach size more, same, settled_of_omitted reads omitted⟩
  · rcases fine with room | ⟨operator, -⟩
    · refine (took.room_of_forkFree placed.fits reads stays forkFree room).imp_right ?_
      rintro ⟨active, operator⟩
      obtain ⟨-, next, fits, landed, -, same⟩ := took.goes active
      rw [same] at operator ⊢
      exact hasWayOn_of_landed fits landed (List.mem_append_left _ (List.mem_append_right _ operator))
    · exact .inr (operators operator)
  · rcases fine with room | ⟨operator, -⟩
    · exact survives sound room
    · exact .inr (.inl (operators operator))
  · obtain ⟨-, atFork, one⟩ := took.spare reads stays forks landed
    rw [spareAt]
    split
    · exact one
    · next past =>
      by_contra notOmitted
      have := atFork fun none => notOmitted (by rw [none]; exact Nat.zero_le 0)
      omega
  · exact survives sound (Nat.le_trans (Nat.le_add_right _ _) room)

omit operators in
/-- The turn of a version goes on behind a token.  What the rest of the turn leaves is behind what
this token has left. -/
theorem turned_of_turned (window : c.Window m n) {next : StateId} {r : Progress} {l' : Nat} {h' : Head}
    {extras' : List Head} (fits : c.fits next (c.reach i token))
    (landed : next ∈ (c.station (c.reach i token)).site.landed)
    (omitted : token = 168 → next ∈ [772, 780]) (same : h = c.headAt next (c.reach i token))
    (before : c.reach i token < c.wall n) (low' : c.reach i token ≤ l)
    (turned : Turned c m n l v (c.reach i token) next q r l' h' extras') :
    Turned c m n l v i state p r l' h' (extras ++ extras') := by
  have inside := placed.inside
  have length := Progress.length_of_heads took.heads
  have size := Nat.le_trans took.continues.size turned.size
  have later : i ≤ c.reach i token := Nat.le_add_right _ _
  have others (survives : c.Survives v q h)
      (more : next ∈ (c.station (c.reach i token)).site.sound → c.Survives v r h') :
      c.Survives v r h' :=
    turned.survives survives fun wayOn => more (HasWayOn.sound (same ▸ wayOn) fits.inside)
  refine ⟨turned.carries, ?_, size, fun isSome => turned.finished (took.finished isSome), ?_,
    fun e mem => ?_, fun active => ?_, turned.stays, fun forkFree fine => ?_, fun b forks isLanded => ?_⟩
  · exact Progress.heads_trans took.heads inside turned.heads
  · have one := took.few
    have two := turned.few
    omega
  · rcases List.mem_append.mp mem with old | new
    · obtain ⟨state', completed, same'⟩ := took.left e old
      exact ⟨state', i, completed.fits, stays, Nat.le_refl i, low, Nat.le_trans placed.size size, same',
        fun mode => took.left_forkFree reads stays mode (List.ne_nil_of_mem old) fun operand =>
          completed.other (List.mem_append_left _ operand), fun _ => completed.settled⟩
    · obtain ⟨state', k, fits', stays', later', low', size', same', forkFree, -⟩ := turned.left e new
      refine ⟨state', k, fits', stays', Nat.le_trans later later', low', size', same', fun mode => forkFree ?_,
        fun here settled => ?_⟩
      · exact mode.imp (fun forkFree => forkFree.reach omitted) fun forks => ⟨forks.1, fits, landed⟩
      · exact absurd settled (settled_of_omitted reads omitted (by omega)).1
  · obtain ⟨last, landed', far, near, size', same', settled⟩ := turned.goes active
    exact ⟨last, landed', far, near, size', same', fun here =>
      ⟨(settled_of_omitted reads omitted (by omega)).1, (settled (by omega)).2⟩⟩
  · have forkFree' := forkFree.reach omitted
    -- either the others leave room, or the version has just come behind an operator
    rcases fine with room | ⟨operator, far⟩
    · have fine' := (took.room_of_forkFree placed.fits reads stays forkFree room).imp_right fun found => by
        have operator : next ∈ operatorStates := by
          rw [same] at found
          exact found.2
        exact (⟨operator, le_reach_operator window stays.later fits operator omitted⟩ :
          next ∈ operatorStates ∧ n ≤ c.reach i token)
      obtain ⟨room', survives'⟩ := turned.forkFree forkFree' fine'
      exact ⟨room', fun sound => others (survives sound room) survives'⟩
    · exact absurd before (Nat.not_lt.mpr (wall_le_reach placed.fits reads operator far))
  · obtain ⟨few, survives'⟩ := turned.fork b forks ⟨fits, landed⟩
    have total := took.spareAt_reach reads stays forks isLanded
    refine ⟨?_, fun sound room => others (survives sound (Nat.le_trans (Nat.le_add_right _ _) room))
      fun sound' => survives' sound' ?_⟩
    · rw [List.length_append]
      omega
    · omega

end

/-- A number that each token of a turn makes smaller. -/
def remaining (c : Chain) (n i : Nat) (state : StateId) : Nat :=
  2 * (c.wall n - i) + if state ∈ breakStates then 1 else 0

/-- Each token of a turn makes it smaller. -/
theorem remaining_reach {next : StateId} (reads : (c.station i).reads state token)
    (omitted : token = 168 → next ∈ [772, 780]) (before : c.reach i token < c.wall n) :
    c.remaining n (c.reach i token) next < c.remaining n i state := by
  have later : i ≤ c.reach i token := Nat.le_add_right _ _
  rw [remaining, remaining]
  by_cases none : token = 168
  · subst none
    have other : ∀ state ∈ [772, 780], state ∉ breakStates := by decide
    rw [if_pos (site_of_omitted reads.1).2, if_neg (other next (omitted rfl))]
    omega
  · have more := lt_reach (c := c) (i := i) none
    split <;> split <;> omega

/-- **The turn of a version.**  By induction on fuel, and one token in each step; the cases are
whether the version has come as far as the foremost one. -/
theorem advanceVersion (window : c.Window m n) {fuel l : Nat} {p : Progress}
    (placed : c.Placed p v state i) (stays : c.Stays m n i) (low : i ≤ l) (first : v = 0 → l = n)
    (near : l ≤ c.wall n) (inside : l ≤ c.last) (enough : c.remaining n i state < fuel) :
    ∃ l' q h extras, Progress.advanceVersion (budgetFor c.text.length) v fuel (c.place l).offset p =
        ((c.place l').offset, q) ∧ Turned c m n l v i state p q l' h extras ∧ l' ≤ c.last := by
  -- on the fuel, which exceeds the number of tokens up to the wall
  induction fuel generalizing p state i with
  | zero => omega
  | succ fuel ih =>
    obtain ⟨token, h, extras, reads, took, operators, survives⟩ := advance placed
    have head := (Progress.head_of_getElem? (Progress.heads_self took.heads placed.inside)).2
    generalize advanced : p.advance (budgetFor c.text.length) v = q at took survives head
    have place : (q.top v).place = h.place := congrArg Head.place head
    cases goes : h.isActive with
    | false =>
      have stopped : h.place = c.place i := took.stays goes
      have before := (place_offset_le_iff placed.fits.inside inside).mpr low
      have inactive : ¬q.Active v := by
        have here : (q.head v).isActive = false := head ▸ goes
        exact Bool.eq_false_iff.mp here
      refine ⟨l, q, h, extras, ?_, turned_of_took placed reads took operators survives stays low
        (fun active => by rw [goes] at active; cases active) (fun _ => rfl), inside⟩
      by_cases far : (c.place l).offset < h.place.offset ∨ 0 < v ∧ (c.place l).offset = h.place.offset
      · have equal : h.place.offset = (c.place l).offset := by
          rw [stopped] at far ⊢
          omega
        rw [Progress.advanceVersion_of_place _ placed.active advanced place far (Nat.succ_pos fuel),
          equal]
      · exact Progress.advanceVersion_of_stop _ placed.active advanced inactive place far
          (Nat.succ_pos fuel)
    | true =>
      obtain ⟨more, next, fits, landed, omitted, same⟩ := took.goes goes
      have offset : h.place.offset = (c.place (c.reach i token)).offset := by rw [same]; rfl
      by_cases far : (c.place l).offset < h.place.offset ∨ 0 < v ∧ (c.place l).offset = h.place.offset
      · have reached : l ≤ c.reach i token := (place_offset_le_iff inside fits.inside).mp (by omega)
        refine ⟨c.reach i token, q, h, extras, ?_, turned_of_took placed reads took operators survives
          stays low (fun _ => ⟨rfl, reached, stays.reach_le_wall token⟩)
          (fun none => by rw [goes] at none; cases none), fits.inside⟩
        rw [Progress.advanceVersion_of_place _ placed.active advanced place far (Nat.succ_pos fuel),
          offset]
      · have low' : c.reach i token ≤ l := (place_offset_le_iff fits.inside inside).mp (by omega)
        have before : c.reach i token < c.wall n := by
          rcases Nat.eq_zero_or_pos v with zero | pos
          · have := c.lt_wall n
            have := first zero
            omega
          · refine Nat.lt_of_lt_of_le (Nat.lt_of_le_of_ne low' fun equal => far (.inr ⟨pos, ?_⟩)) near
            rw [offset, equal]
        have placed' : c.Placed q v next (c.reach i token) :=
          ⟨took.carries, head.trans same, fits, size_reach placed.size more⟩
        obtain ⟨l', r, h', extras', going, turned, inside'⟩ := ih placed'
          ⟨Nat.le_trans stays.later (Nat.le_add_right _ _), before⟩ low'
          (by have := remaining_reach (n := n) reads omitted before; omega)
        rw [Progress.advanceVersion_of_behind _ placed.active advanced place far fuel, going]
        exact ⟨l', r, h', _, rfl, turned_of_turned placed reads took survives stays low window
          fits landed omitted same before low' turned, inside'⟩

end Chain

end JsxDetect.Comparison
