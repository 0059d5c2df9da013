import JsxDetect.Proofs.Comparison.Turns
import JsxDetect.Proofs.Parse.Settling

/-!
# Rounds over a chain

In a round all versions have their turn, one after the other, and those that they leave behind have
theirs after them.  A version that has a way on is never lost: at the beginning of a round there are
few versions, and while one of them has a way on there is room for what each turn leaves, or one has
come to the end of its turn with a way on.  So at the end of a round either some version with a way
on goes on, or the whole text has been read.  And the rounds come to an end: in each one the window
goes on, or all versions stay where they are and leave out a semicolon, which none of them does
again.

## Main Definitions

* `Chain.Midway`: a parse in the middle of a round
* `Chain.Round`: a parse at the end of a round
* `Chain.Open`: a parse between two rounds

## Main Results

* `Chain.Midway.turn`: the turn of the next version
* `Chain.Open.advanceAll`, `Chain.Round.condense`: a whole round
* `Chain.Open.run`: the rounds find a tree
* `Chain.parse_clean`: the tree of a chain

## Design Notes

**Four states of a parse.**  `Open` is between two rounds, `Midway` is in a round before version `v`
has its turn, `Round` is at its end before versions are compared.  `Alive` is the liveness part of
`Midway`: either success is certain already, or a version with a way on waits and there is room for
what it may leave.  `s` is how many of the next versions may still double themselves, and is zero
but in a window of `Forks`.

**Why rounds end.**  The sum of what is left before the first and the last version goes down in each
round, unless all versions stay where they are.  They can do so only by leaving out a semicolon,
behind which all are at the end of a statement; `Settled` then excludes it for the next round.  This
is the parameter `still` of `Open.run`.

**What is concluded.**  No version ever enters recovery while one has a way on, so the tree that is
found has no errors; that it has no JSX is in `Clean`.  Together with termination within the budget
this is `parse_clean`.
-/

namespace JsxDetect.Comparison

open Automaton Parse

namespace Chain

variable {c : Chain} {m n l s v : Nat} {p : Progress}

/-! ### In the middle of a round -/

/-- Something has a way on: the whole text has been read, or a version before `v` has a way on, or
one from `v` on does, and there is room for what it may leave, and for one more version for each of
the next `s`. -/
def Alive (c : Chain) (v s : Nat) (p : Progress) : Prop :=
  p.finished.isSome ∨ (∃ u < v, ∃ h, p.heads[u]? = some h ∧ c.HasWayOn h) ∨
    (∃ u, v ≤ u ∧ ∃ h, p.heads[u]? = some h ∧ c.HasWayOn h) ∧
      p.versions.length + s ≤ maxVersions + versionOverflow

/-- A version that has had its turn, and goes on: it has come to one of some stations by a token. -/
structure Arrived (c : Chain) (low high size : Nat) (h : Head) (state : StateId) (k : Nat) : Prop where
  landed : c.Landed state k
  low : low ≤ k
  high : k ≤ high
  size : min k 3 ≤ size
  same : h = c.headAt state k

/-- All versions have come to the end of a statement. -/
def Settled (p : Progress) : Prop := ∀ h ∈ p.heads, h.state ∈ settledStates

/-- A version that has not had its turn.  One that may still double itself has come to its station
by a token; before the others no type arguments may begin.  If the round began with `settled`
versions, then a version where they were is settled as well. -/
structure Waiting (c : Chain) (m n l size : Nat) (doubles settled : Prop) (h : Head) (state : StateId)
    (k : Nat) : Prop where
  fits : c.fits state k
  stays : c.Stays m n k
  low : k ≤ l
  size : min k 3 ≤ size
  same : h = c.headAt state k
  landed : doubles → c.Landed state k
  forkFree : ¬doubles → c.ForkFree (c.wall n) state k
  statement : settled → k = m → state ∈ settledStates

/-- In the middle of a round the versions before `v` have had their turn.  The round began with the
versions at the stations from `m` to `n`, and they have come to `l`; each of the next `s` may still
double itself.  One that is still at `m` has come to the end of a statement in this round. -/
structure Midway (c : Chain) (m n l v s : Nat) (settled : Prop) (p : Progress) : Prop where
  window : c.Window m n
  carries : Region.Carries c.region p
  order : n ≤ l
  near : l ≤ c.wall n
  inside : l ≤ c.last
  begins : v = 0 → l = n
  few : p.versions.length ≤ maxVersions + versionOverflow + 1
  spare : v + s ≤ p.versions.length ∨ s = 0
  forks : s ≠ 0 → ∃ b, c.Forks m n b
  before : ∀ u < v, ∀ h, p.heads[u]? = some h → h.isActive = true →
    ∃ state k, c.Arrived n l p.stack.size h state k ∧ (k = m → ¬settled ∧ state ∈ settledStates)
  behind : ∀ u h, p.heads[v + u]? = some h →
    ∃ state k, c.Waiting m n l p.stack.size (u < s) settled h state k
  alive : c.Alive v s p

/-- The number of tokens of a turn is bounded, and is less than the budget. -/
theorem remaining_lt (window : c.Window m n) {i : Nat} {state : StateId} (stays : c.Stays m n i) :
    c.remaining n i state < budgetFor c.text.length := by
  have near := window.near
  have later := stays.later
  have one := c.wall_le m
  have two := c.wall_le n
  have budget : budgetFor c.text.length = 64 * (c.text.length + 64) := rfl
  rw [remaining]
  split <;> omega

namespace Midway

variable {settled : Prop} (midway : c.Midway m n l v s settled p)

include midway

/-- After the turn of a version something still has a way on.  If the version itself was the one,
then its turn tells; if another, then this has not been touched. -/
theorem alive_turn {h : Head} {state : StateId} {i : Nat} (here : p.heads[v]? = some h)
    (waiting : c.Waiting m n l p.stack.size (0 < s) settled h state i) {q : Progress} {l' : Nat}
    {f : Head} {extras : List Head} (turned : c.Turned m n l v i state p q l' f extras) :
    c.Alive (v + 1) (s - 1) q := by
  obtain ⟨more, head⟩ := Progress.head_of_getElem? here
  have length := Progress.length_of_heads turned.heads
  have self := Progress.heads_self turned.heads more
  rcases midway.alive with finished | ⟨u, low, g, isHead, wayOn⟩ | ⟨⟨u, high, g, isHead, wayOn⟩, room⟩
  · exact .inl (turned.finished finished)
  · refine .inr (.inl ⟨u, Nat.lt_succ_of_lt low, g, ?_, wayOn⟩)
    rw [Progress.heads_of_ne turned.heads (Nat.lt_trans low more) (Nat.ne_of_lt low), isHead]
  · -- there is room for what the turn leaves, or the version itself has a way on
    have turns : (q.versions.length + (s - 1) ≤ maxVersions + versionOverflow ∨ c.HasWayOn f) ∧
        (state ∈ (c.station i).site.sound → c.Survives v q f) := by
      by_cases doubles : 0 < s
      · obtain ⟨b, forks⟩ := midway.forks (Nat.ne_of_gt doubles)
        obtain ⟨few, survives⟩ := turned.fork b forks (waiting.landed doubles)
        have one : spareAt b i ≤ 1 := by
          rw [spareAt]
          split <;> omega
        exact ⟨.inl (by omega), fun sound => survives sound (by omega)⟩
      · obtain ⟨fine, survives⟩ := turned.forkFree (waiting.forkFree doubles) (.inl (by omega))
        exact ⟨fine.imp_left (by omega), survives⟩
    -- If there is room then the one with a way on is another version, or what became of this one.
    obtain ⟨room' | wayOn', survives⟩ := turns
    · have found {u : Nat} {g : Head} (other : u ≠ v) (isHead : q.heads[u]? = some g)
          (wayOn : c.HasWayOn g) : c.Alive (v + 1) (s - 1) q := by
        rcases Nat.lt_or_gt_of_ne other with low | high
        · exact .inr (.inl ⟨u, Nat.lt_succ_of_lt low, g, isHead, wayOn⟩)
        · exact .inr (.inr ⟨⟨u, high, g, isHead, wayOn⟩, room'⟩)
      by_cases same : u = v
      · subst same
        rw [here] at isHead
        obtain rfl := Option.some.inj isHead
        rcases survives (HasWayOn.sound (waiting.same ▸ wayOn) waiting.fits.inside) with
          finished | wayOn | ⟨w, other, g, isHead, wayOn⟩
        · exact .inl finished
        · exact .inr (.inl ⟨u, Nat.lt_succ_self u, f, self, wayOn⟩)
        · exact found other isHead wayOn
      · have low := (Progress.head_of_getElem? isHead).1
        exact found same ((Progress.heads_of_ne turned.heads low same).trans isHead) wayOn
    · exact .inr (.inl ⟨v, Nat.lt_succ_self v, f, self, wayOn'⟩)

/-- **The turn of the next version.**  The window and the counts are kept, and the versions that
were left wait behind the others. -/
theorem turn (more : v < p.versions.length) :
    ∃ l' q, Progress.advanceVersion (budgetFor c.text.length) v (budgetFor c.text.length)
        (c.place l).offset p = ((c.place l').offset, q) ∧ c.Midway m n l' (v + 1) (s - 1) settled q := by
  have here := p.heads_getElem? more
  obtain ⟨state, i, waiting⟩ := midway.behind 0 _ here
  have placed : c.Placed p v state i := ⟨midway.carries, waiting.same, waiting.fits, waiting.size⟩
  obtain ⟨l', q, h, extras, advanced, turned, inside⟩ := advanceVersion midway.window placed waiting.stays
    waiting.low midway.begins midway.near midway.inside (remaining_lt midway.window waiting.stays)
  -- the foremost place
  have further : l ≤ l' ∧ l' ≤ c.wall n := by
    cases goes : h.isActive with
    | true =>
      obtain ⟨next, -, later, near, -⟩ := turned.goes goes
      exact ⟨later, near⟩
    | false =>
      rw [turned.stays goes]
      exact ⟨Nat.le_refl l, midway.near⟩
  -- what the list of versions has become
  have length := Progress.length_of_heads turned.heads
  have self := Progress.heads_self turned.heads more
  have old {u : Nat} (low : u < p.versions.length) (other : u ≠ v) : q.heads[u]? = p.heads[u]? :=
    Progress.heads_of_ne turned.heads low other
  have size := turned.size
  have mode : c.ForkFree (c.wall n) state i ∨ (∃ b, c.Forks m n b) ∧ c.Landed state i := by
    by_cases doubles : 0 < s
    · exact .inr ⟨midway.forks (Nat.ne_of_gt doubles), waiting.landed doubles⟩
    · exact .inl (waiting.forkFree doubles)
  refine ⟨l', q, advanced, midway.window, turned.carries, Nat.le_trans midway.order further.1, further.2,
    inside, nofun, ?_, ?_, fun differs => midway.forks (by omega), fun u low f isHead active => ?_,
    fun u f isHead => ?_, ?_⟩
  · have few := turned.few
    have := midway.few
    omega
  · rcases midway.spare with spare | none
    · omega
    · exact .inr (by omega)
  · rcases Nat.lt_succ_iff_lt_or_eq.mp low with less | rfl
    · rw [old (Nat.lt_trans less more) (Nat.ne_of_lt less)] at isHead
      obtain ⟨state, k, ⟨landed, low, high, few, same⟩, still⟩ := midway.before u less f isHead active
      exact ⟨state, k, ⟨landed, low, Nat.le_trans high further.1, Nat.le_trans few size, same⟩, still⟩
    · rw [self] at isHead
      obtain rfl := Option.some.inj isHead
      obtain ⟨next, landed, later, -, few, same, stays⟩ := turned.goes active
      refine ⟨next, l', ⟨landed, Nat.le_trans midway.order later, Nat.le_refl l', few, same⟩, fun still => ?_⟩
      have later := waiting.stays.later
      have low := waiting.low
      obtain ⟨before, after⟩ := stays (by omega)
      exact ⟨fun settled => before (waiting.statement settled (by omega)), after⟩
  -- the versions that wait are the later ones from before, and those that this one has left
  · rcases Nat.lt_or_ge (v + 1 + u) p.versions.length with low | high
    · rw [old low (by omega), show v + 1 + u = v + (u + 1) by omega] at isHead
      obtain ⟨state, k, fits, stays, low, few, same, landed, forkFree, statement⟩ := midway.behind (u + 1) f isHead
      exact ⟨state, k, fits, stays, Nat.le_trans low further.1, Nat.le_trans few size, same,
        fun doubles => landed (by omega), fun single => forkFree (by omega), statement⟩
    · rw [Progress.heads_of_le turned.heads high] at isHead
      obtain ⟨next, k, fits, stays, later, low, few, same, forkFree, statement⟩ :=
        turned.left f (List.mem_of_getElem? isHead)
      have single : ¬u < s - 1 := by
        rcases midway.spare with spare | none <;> omega
      have first := waiting.stays.later
      exact ⟨next, k, fits, stays, Nat.le_trans low further.1, few, same,
        fun doubles => absurd doubles single, fun _ => forkFree mode,
        fun settled still => statement (by omega) (waiting.statement settled (by omega))⟩
  · exact midway.alive_turn here waiting turned

/-- **The rest of a round.**  By induction on the number of turns, which is limited as the number of
versions is. -/
theorem advanceAll (fuel : Nat) (enough : maxVersions + versionOverflow + 1 ≤ v + fuel) :
    ∃ l' v' s' q, Progress.advanceAll (budgetFor c.text.length) fuel v (c.place l).offset p =
        ((c.place l').offset, q) ∧ c.Midway m n l' v' s' settled q ∧ q.versions.length ≤ v' := by
  induction fuel generalizing p v l s with
  | zero => exact ⟨l, v, s, p, rfl, midway, Nat.le_trans midway.few enough⟩
  | succ fuel ih =>
    rw [Progress.advanceAll]
    split
    · next more =>
      obtain ⟨l', q, advanced, midway'⟩ := midway.turn more
      rw [advanced]
      exact ih midway' (by omega)
    · next none => exact ⟨l, v, s, p, rfl, midway, Nat.le_of_not_lt none⟩

end Midway

/-! ### Between two rounds -/

/-- Between two rounds the versions are at the stations from `m` to `n`, each in another state or at
another place, and one of them has a way on, or the whole text has been read. -/
structure Open (c : Chain) (m n : Nat) (p : Progress) : Prop where
  window : c.Window m n
  inside : n ≤ c.last
  carries : Region.Carries c.region p
  few : p.versions.length ≤ maxVersions
  nodup : p.heads.Nodup
  arrived : ∀ h ∈ p.heads, ∃ state k, c.Arrived m n p.stack.size h state k
  alive : p.finished.isSome ∨ ∃ h ∈ p.heads, c.HasWayOn h

/-- After a round that began with the versions at the stations from `m` to `n`: those that go on
have come to the end of their turns, and one of them has a way on, or the whole text has been read.
One that is still at `m` has come to the end of a statement; this is so once. -/
structure Round (c : Chain) (m n l : Nat) (settled : Prop) (q : Progress) : Prop where
  order : m ≤ n
  window : c.Window n l
  inside : l ≤ c.last
  carries : Region.Carries c.region q
  arrived : ∀ h ∈ q.heads, h.isActive = true → ∃ state k, c.Arrived n l q.stack.size h state k ∧
    (k = m → ¬settled ∧ state ∈ settledStates)
  alive : q.finished.isSome ∨ ∃ h ∈ q.heads, c.HasWayOn h

namespace Round

variable {settled : Prop} {q : Progress} (round : c.Round m n l settled q)

include round

/-- **The end of a round in which a version goes on.**  If all versions are where they were, then
they have come to the end of a statement. -/
theorem condense (goes : ∃ h ∈ q.heads, h.isActive = true) : ∃ least r,
    q.condense (budgetFor c.text.length) = (least, r) ∧ c.Open n l r ∧
      (l = m → ¬settled ∧ Settled r) := by
  obtain ⟨least, kept, r, condensed, follows, taken, nodup, active, all⟩ :=
    round.carries.condense (budgetFor c.text.length) goes
  have order := round.order
  have arrived : ∀ h ∈ kept, ∃ state k, c.Arrived n l q.stack.size h state k ∧
      (k = m → ¬settled ∧ state ∈ settledStates) := fun h mem =>
    round.arrived h (active h mem).2 (active h mem).1
  refine ⟨least, r, condensed, ⟨round.window, round.inside, follows.carries, ?_, ?_, fun h mem => ?_, ?_⟩,
    fun here => ⟨?_, fun h mem => ?_⟩⟩
  · rw [← r.length_heads, taken, List.length_take]
    exact Nat.min_le_left _ _
  · rw [taken]
    exact nodup.sublist (List.take_sublist _ _)
  · rw [taken] at mem
    obtain ⟨state, k, ⟨landed, low, high, size, same⟩, -⟩ := arrived h (List.mem_of_mem_take mem)
    exact ⟨state, k, landed, low, high, Nat.le_trans size follows.continues.size, same⟩
  · rw [follows.finished, taken]
    refine round.alive.imp_right fun firmOne => ?_
    obtain ⟨h, mem, wayOn⟩ := firmOne
    have active : h.isActive = true := by
      obtain ⟨_, _, _, _, rfl⟩ := wayOn
      rfl
    -- At most four versions have no way on, and six are kept.
    refine hasWayOn_of_take (n := n) nodup (fun h mem => ?_) ⟨h, all h mem active, wayOn⟩
    obtain ⟨state, k, ⟨landed, low, high, -, same⟩, -⟩ := arrived h mem
    exact ⟨state, k, landed, low, Nat.le_trans high round.window.near, same⟩
  · obtain ⟨h, mem, active⟩ := goes
    obtain ⟨state, k, ⟨-, low, high, -, -⟩, stays⟩ := round.arrived h mem active
    exact (stays (by omega)).1
  · rw [taken] at mem
    obtain ⟨state, k, ⟨-, low, high, -, rfl⟩, stays⟩ := arrived h (List.mem_of_mem_take mem)
    exact (stays (by omega)).2

/-- **The end of a round in which no version goes on**: the whole text has been read.  What is left
has a cost, and the tree has none, so the parse ends with it. -/
theorem condense_stopped {text : List Char} (ok : ProgressOk text q)
    (stopped : ∀ h ∈ q.heads, h.isActive = false) : ∃ t,
    (q.condense (budgetFor c.text.length)).2.finished = some t ∧
      (∀ cost, (q.condense (budgetFor c.text.length)).1 = some cost → 0 < cost) ∧ t.Clean false := by
  have finished : q.finished.isSome := round.alive.resolve_right fun firmOne => by
    obtain ⟨_, mem, _, _, _, _, rfl⟩ := firmOne
    cases stopped _ mem
  obtain ⟨t, finished⟩ := Option.isSome_iff_exists.mp finished
  obtain ⟨stays, cost⟩ :=
    round.carries.finished_condense ok (budgetFor c.text.length) finished stopped
  exact ⟨t, stays, cost, round.carries.finished t finished⟩

end Round

/-- Where no type arguments may begin in the window of a round, none may begin before its wall. -/
theorem forkFree_of_not_forks (window : c.Window m n) (none : ¬∃ b, c.Forks m n b) {k : Nat}
    (later : m ≤ k) (state : StateId) : c.ForkFree (c.wall n) state k := by
  intro b le lt fork
  refine absurd ⟨b, Nat.le_trans later le, ?_, window.near, fork⟩ none
  obtain ⟨_, _, _, _, _, station, -⟩ := station_of_mayFork fork
  have outer : (c.station b).isInner = false := by
    rw [station]
    rfl
  by_contra more
  have := wall_le_of_outer (Nat.lt_of_not_le more) outer
  omega

namespace Open

variable (opened : c.Open m n p)

include opened

/-- **The beginning of a round.**  If type arguments may begin in its window, then each version may
double itself, and otherwise none may. -/
theorem midway : ∃ s, c.Midway m n n 0 s (Settled p) p := by
  have few := opened.few
  have six : maxVersions = 6 := rfl
  have four : versionOverflow = 4 := rfl
  have waiting {s u : Nat} {h : Head} (isHead : p.heads[0 + u]? = some h)
      (forkFree : ¬u < s → ∀ k, m ≤ k → ∀ state, c.ForkFree (c.wall n) state k) :
      ∃ state k, c.Waiting m n n p.stack.size (u < s) (Settled p) h state k := by
    have mem := List.mem_of_getElem? isHead
    obtain ⟨state, k, landed, low, high, size, rfl⟩ := opened.arrived h mem
    exact ⟨state, k, landed.fits, ⟨low, Nat.lt_of_le_of_lt high (c.lt_wall n)⟩, high, size, rfl,
      fun _ => landed, fun single => forkFree single k low state, fun settled _ => settled _ mem⟩
  have alive {s : Nat} (room : p.versions.length + s ≤ maxVersions + versionOverflow) : c.Alive 0 s p := by
    rcases opened.alive with finished | ⟨h, mem, wayOn⟩
    · exact .inl finished
    · obtain ⟨u, isHead⟩ := List.mem_iff_getElem?.mp mem
      exact .inr (.inr ⟨⟨u, Nat.zero_le u, h, isHead, wayOn⟩, room⟩)
  have rest := opened.inside
  by_cases forks : ∃ b, c.Forks m n b
  · -- each of the few versions may double itself
    obtain ⟨b, forks⟩ := forks
    have length := forks.few opened.nodup fun h mem => by
      obtain ⟨state, k, landed, low, high, -, same⟩ := opened.arrived h mem
      exact ⟨state, k, landed, low, high, same⟩
    rw [p.length_heads] at length
    refine ⟨p.versions.length, opened.window, opened.carries, Nat.le_refl n, Nat.le_of_lt (c.lt_wall n), rest,
      fun _ => rfl, by omega, .inl (by omega), fun _ => ⟨b, forks⟩, nofun, fun u h isHead => ?_,
      alive (by omega)⟩
    have low := (Progress.head_of_getElem? isHead).1
    exact waiting isHead fun high => absurd (by omega) high
  · exact ⟨0, opened.window, opened.carries, Nat.le_refl n, Nat.le_of_lt (c.lt_wall n), rest,
      fun _ => rfl, by omega, .inr rfl, fun differs => absurd rfl differs, nofun,
      fun u h isHead => waiting isHead fun _ k later state => forkFree_of_not_forks opened.window forks later state,
      alive (by omega)⟩

/-- **A whole round**, from one comparison of versions to the next.  All versions have had their
turn at the end of it, also those that were added in between. -/
theorem advanceAll : ∃ l q, Progress.advanceAll (budgetFor c.text.length) (budgetFor c.text.length) 0
      (c.place n).offset p = ((c.place l).offset, q) ∧ c.Round m n l (Settled p) q := by
  obtain ⟨s, midway⟩ := opened.midway
  have budget : budgetFor c.text.length = 64 * (c.text.length + 64) := rfl
  have eleven : maxVersions + versionOverflow + 1 = 11 := rfl
  obtain ⟨l, v, s', q, advanced, midway', all⟩ := midway.advanceAll (budgetFor c.text.length)
    (by omega)
  refine ⟨l, q, advanced, opened.window.order, ⟨midway'.order, midway'.near⟩, midway'.inside,
    midway'.carries, fun h mem active => ?_, ?_⟩
  · obtain ⟨u, isHead⟩ := List.mem_iff_getElem?.mp mem
    have low := (Progress.head_of_getElem? isHead).1
    exact midway'.before u (by omega) h isHead active
  · rcases midway'.alive with finished | ⟨u, -, h, isHead, wayOn⟩ | ⟨⟨u, -, h, isHead, wayOn⟩, -⟩
    · exact .inl finished
    · exact .inr ⟨h, List.mem_of_getElem? isHead, wayOn⟩
    · exact .inr ⟨h, List.mem_of_getElem? isHead, wayOn⟩

/-- **The rounds find a tree**, and it is without errors and JSX.  In each round the window goes on,
or the versions, all at the same place, come to the end of a statement, and this only once. -/
theorem run {text : List Char} (ok : ProgressOk text p) (fuel still : Nat)
    (settled : still = 0 → Settled p)
    (enough : 2 * ((c.last - m) + (c.last - n)) + still < fuel) :
    ∃ t, (Progress.run (budgetFor c.text.length) fuel (c.place n).offset p).finished = some t ∧
      t.Clean false := by
  -- on the fuel: a round moves the window on, unless `still` falls
  induction fuel generalizing m n p still with
  | zero => omega
  | succ fuel ih =>
    obtain ⟨l, q, advanced, round⟩ := opened.advanceAll
    have okQ := ok.advanceAll (budgetFor c.text.length) (budgetFor c.text.length) 0 (c.place n).offset
    rw [Progress.run, advanced]
    rw [advanced] at okQ
    dsimp only at okQ ⊢
    by_cases goes : ∃ h ∈ q.heads, h.isActive = true
    · obtain ⟨least, r, condensed, open', stays⟩ := round.condense goes
      have okR := okQ.condense (budgetFor c.text.length)
      rw [condensed] at okR ⊢
      dsimp only at okR ⊢
      split
      · next stops =>
        obtain ⟨h, mem, -⟩ := goes
        rw [Progress.isEmpty_of_heads mem, Bool.false_or, Option.any_eq_true] at stops
        obtain ⟨t, found, -⟩ := stops
        exact ⟨t, found, open'.carries.finished t found⟩
      · have order := opened.window.order
        have order' := open'.window.order
        have inside := open'.inside
        -- If nothing has moved, then a statement has ended, and this cannot happen once more.
        by_cases here : l = m
        · obtain ⟨before, after⟩ := stays here
          have notYet : still ≠ 0 := fun none => before (settled none)
          exact ih open' okR 0 (fun _ => after) (by omega)
        · exact ih open' okR 1 (fun none => absurd none Nat.one_ne_zero) (by omega)
    · -- no version goes on: the whole text has been read
      obtain ⟨t, finished, cost, clean⟩ := round.condense_stopped okQ fun h mem =>
        Bool.eq_false_iff.mpr fun active => goes ⟨h, mem, active⟩
      have ends : ((q.condense (budgetFor c.text.length)).2.finished.any fun t =>
          (q.condense (budgetFor c.text.length)).1.all fun c => t.cost < c) = true := by
        rw [finished, Option.any_some, clean.cost, Option.all_eq_true]
        exact fun c same => decide_eq_true (cost c same)
      rw [if_pos (by rw [ends, Bool.or_true])]
      exact ⟨t, finished, clean⟩

end Open

/-- **The beginning of the parse**: one version, before the first word.  It has a way on, as it is
in the one sound state there. -/
theorem open_start (c : Chain) : c.Open 0 0 (Progress.start c.text) := by
  have place := c.place_zero
  have fits : c.fits 1 0 := ⟨Nat.zero_le _, List.mem_singleton.mpr rfl, trivial⟩
  have single : ∀ {i : Nat}, LiveNode (Progress.start c.text).stack i → i = 0 :=
    fun live => Nat.lt_one_iff.mp live.inside
  have heads : (Progress.start c.text).heads = [c.headAt 1 0] := by
    rw [Chain.headAt, place]
    rfl
  have landed : c.Landed 1 0 := ⟨fits, List.mem_singleton.mpr rfl⟩
  refine ⟨⟨Nat.le_refl 0, Nat.zero_le _⟩, Nat.zero_le _, ⟨fun i live => ?_, fun v mem => ?_, nofun⟩, ?_, ?_,
    fun h mem => ?_, .inr ⟨c.headAt 1 0, ?_, landed.wayOn (List.mem_singleton.mpr rfl)⟩⟩
  · rw [single live]
    exact ⟨⟨0, fits, place.symm⟩, rfl, rfl, nofun, fun other => absurd rfl other⟩
  · rw [List.mem_singleton.mp mem]
    exact ⟨Nat.one_pos, fun _ => ⟨Nat.one_pos, fun _ => rfl⟩⟩
  · have one : 1 ≤ maxVersions := by decide
    exact one
  · rw [heads]
    exact List.nodup_singleton _
  · rw [heads] at mem
    exact ⟨1, 0, landed, Nat.le_refl 0, Nat.le_refl 0, Nat.zero_le _, List.mem_singleton.mp mem⟩
  · rw [heads]
    exact List.mem_singleton.mpr rfl

/-- **The tree of a chain** is without errors and JSX, for all operands, operators and blanks.  The
budget of a parse is shown to be enough for these texts. -/
theorem parse_clean (c : Chain) : (parse c.text).Clean false := by
  have budget : budgetFor c.text.length = 64 * (c.text.length + 64) := rfl
  have few := c.last_le
  have start : (c.place 0).offset = 0 := by
    rw [place_zero]
    rfl
  have enough : 2 * ((c.last - 0) + (c.last - 0)) + 1 < budgetFor c.text.length := by omega
  obtain ⟨t, found, clean⟩ := c.open_start.run (progressOk_start c.text) (budgetFor c.text.length) 1
    (fun none => absurd none Nat.one_ne_zero) enough
  have same : parse c.text = t := by
    unfold parse
    dsimp only
    rw [← start, found]
  exact same ▸ clean

end Chain

end JsxDetect.Comparison
