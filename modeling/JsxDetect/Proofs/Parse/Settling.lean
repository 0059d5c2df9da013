import Mathlib.Data.List.Nodup
import JsxDetect.Proofs.Parse.FinishedTree
import JsxDetect.Proofs.Parse.Heads

/-!
# The end of a round in a region

At the end of a round the versions are compared.  In a `Region` nothing speaks for one of those that
go on or against it.  So those that go on are all kept, but for the ones that are where another one
is; and if there is one, then none that was stopped stays.

## Main Results

* `Region.Carries.settleAll`: which versions stay
* `Region.Carries.condense`: the end of a round in which a version goes on
* `ProgressOk.finished_condense`: the end of a round behind which nothing is left but errors

## Design Notes

**What is left of costs.**  Versions are compared by cost, by how many nodes they have gone since an
error, and by what speaks for them.  In a region the cost of a version is zero, or that of having
been stopped, and nothing speaks for any.  `standing` says so once; behind it every comparison has
one of three outcomes, by which of the two versions goes on.

**The list that has been compared.**  The loop compares version `v` with all before it.  `Compared`
is the invariant of what lies before `v`: all of these go on and are at different places, or all of
them were stopped.  There is one lemma for each status of the next version, `settlesOne_halted`,
`settlesOne_active`, `settlesOne_paused`, and the loop is an induction over the rest.

**What a later module needs.**  `condense` is used in rounds in which some reading goes on,
`finished_condense` in the last one.  Recovery is never entered between them, as no version that was
stopped is left beside one that goes on.
-/

namespace JsxDetect.Parse

open Automaton Stack SyntaxTree Progress

namespace Region.Carries

variable {R : Region} {p q : Progress} (carries : Carries R p)

include carries

/-! ### Changing the list of versions -/

/-- Counting nodes anew, as a comparison does, changes no head. -/
theorem recounts (recounts : Recounts p q) : Carries R q ∧ q.heads = p.heads := by
  have version (u : Nat) : q.stack.head (q.version u) = p.stack.head (p.version u) := by
    rw [Stack.head, (recounts.heads u).node, (recounts.heads u).status, recounts.stack]
    rfl
  refine ⟨⟨by rw [recounts.stack]; exact carries.stack, fun u mem => ?_,
    by rw [recounts.finished]; exact carries.finished⟩, List.ext_getElem? fun u => ?_⟩
  · obtain ⟨u, inside, rfl⟩ := List.mem_iff_getElem.mp mem
    rw [← version_eq_getElem inside, recounts.stack]
    have rests := carries.rest _ (version_mem (recounts.length ▸ inside))
    have same := recounts.heads u
    exact ⟨by rw [same.node]; exact rests.inside, by rw [same.node, same.status]; exact rests.live⟩
  · by_cases inside : u < p.versions.length
    · rw [p.heads_getElem? inside, q.heads_getElem? (by rw [recounts.length]; exact inside)]
      exact congrArg some (version u)
    · rw [List.getElem?_eq_none (by rw [q.length_heads, recounts.length]; omega),
        List.getElem?_eq_none (by rw [p.length_heads]; omega)]

/-- Some of the versions are carried as well.  Nothing in `Carries` asks for a version to be there.
-/
theorem withVersions {versions : List Version} (sub : ∀ u ∈ versions, u ∈ p.versions) :
    Carries R { p with versions } :=
  ⟨carries.stack, fun u mem => carries.rest u (sub u mem), carries.finished⟩

theorem remove (v : Nat) : Carries R (p.remove v) ∧ (p.remove v).heads = p.heads.eraseIdx v :=
  ⟨carries.withVersions fun _ mem => List.mem_of_mem_eraseIdx mem, (List.eraseIdx_map ..).symm⟩

/-! ### Comparing two versions -/

/-- What versions that go on, or that were stopped, are compared by: a cost only if it was stopped,
and nothing in its favour. -/
theorem standing {v : Nat} (inside : v < p.versions.length) (going : (p.head v).status ≠ .halted) :
    ∃ count q, p.standing v = (⟨if (p.head v).status.isPaused then Cost.recovery + Cost.skippedNode
      else 0, count, 0, (p.head v).status.isPaused⟩, q) ∧ Recounts p q := by
  have live := (carries.rest _ (version_mem inside)).live going
  have node := carries.stack _ live
  obtain ⟨n, fits, -⟩ := node.stands
  have sound : p.state v ≠ 0 := R.noError fits
  have cost : (p.top v).cost = 0 := node.cost
  have bonus : (p.top v).bonus = 0 := node.bonus
  have status : (p.version v).status = (p.head v).status := rfl
  refine ⟨(p.countSinceError v).1, (p.countSinceError v).2, ?_, .countSinceError p v⟩
  have same : (p.countSinceError v).2.top v = p.top v := by
    have recounts := Recounts.countSinceError p v
    rw [Progress.top, (recounts.heads v).node, recounts.stack]
    rfl
  have topState : (p.top v).state ≠ 0 := sound
  rw [Progress.standing]
  dsimp only
  rw [same, bonus, errorCost, Progress.state, same]
  rw [cost, status, decide_eq_false topState, Bool.false_and, Bool.or_false]
  cases (p.head v).status.isPaused <;> simp

end Region.Carries

/-- The versions of a parse have been compared: it is still carried, and the stack goes on. -/
structure Region.Follows (R : Region) (p q : Progress) : Prop where
  carries : Carries R q
  continues : Continues p.stack q.stack
  finished : q.finished = p.finished

namespace Region.Follows

variable {R : Region} {p q r : Progress}

theorem refl (carries : Carries R p) : Follows R p p := ⟨carries, .refl _, rfl⟩

theorem trans (one : Follows R p q) (two : Follows R q r) : Follows R p r :=
  ⟨two.carries, one.continues.trans two.continues, two.finished.trans one.finished⟩

theorem recounts (carries : Carries R p) (recounts : Recounts p q) : Follows R p q :=
  ⟨(carries.recounts recounts).1, by rw [recounts.stack]; exact .refl _, recounts.finished⟩

theorem remove (carries : Carries R p) (v : Nat) : Follows R p (p.remove v) :=
  ⟨(carries.remove v).1, .refl _, rfl⟩

end Region.Follows

/-- Was the version stopped? -/
def Head.isPaused (h : Head) : Bool := h.status.isPaused

theorem Head.status_of_isActive {h : Head} (active : h.isActive = true) :
    h.status.isPaused = false ∧ h.status ≠ .halted := by
  obtain ⟨_, _, status⟩ := h
  cases status with
  | active => exact ⟨rfl, nofun⟩
  | _ => cases active

theorem Head.status_of_isPaused {h : Head} (paused : h.isPaused = true) :
    h.isActive = false ∧ h.status ≠ .halted := by
  obtain ⟨_, _, status⟩ := h
  cases status with
  | paused => exact ⟨rfl, nofun⟩
  | _ => cases paused

namespace Region.Carries

variable {R : Region} {p : Progress} {acc rest : List Head} {a : Head} {v : Nat}

/-- The head behind some others, by its number. -/
theorem head_behind (heads : p.heads = acc ++ a :: rest) (length : acc.length = v) :
    v < p.versions.length ∧ p.head v = a := by
  refine Progress.head_of_getElem? ?_
  rw [heads, ← length, List.getElem?_append_right (Nat.le_refl _), Nat.sub_self]
  rfl

theorem head_before {w : Nat} (heads : p.heads = acc ++ rest) (low : w < acc.length) :
    w < p.versions.length ∧ p.head w = acc[w] := by
  refine Progress.head_of_getElem? ?_
  rw [heads, List.getElem?_append_left low, List.getElem?_eq_getElem low]

theorem eraseIdx_behind (length : acc.length = v) : (acc ++ a :: rest).eraseIdx v = acc ++ rest := by
  rw [← length, List.eraseIdx_append_of_length_le (Nat.le_refl _), Nat.sub_self]
  rfl

/-- **A version that goes on is compared with others that do**: it is joined to the one that is
where it is, if there is one.  By induction on how many are left, `w` being the next one; those
passed are known to be elsewhere. -/
theorem settle_going (count fuel w : Nat) {p : Progress} (carries : Carries R p)
    (heads : p.heads = acc ++ a :: rest) (length : acc.length = v) (active : a.isActive = true)
    (going : ∀ h ∈ acc, h.isActive = true) (enough : v - w ≤ fuel) (apart : a ∉ acc.take w) :
    ∃ v' q acc', settle ⟨0, count, 0, false⟩ fuel v w p = (v', q) ∧ Follows R p q ∧
      q.heads = acc' ++ rest ∧ acc'.length = v' ∧
      (acc' = acc ∧ a ∈ acc ∨ acc' = acc ++ [a] ∧ a ∉ acc) := by
  have kept {p : Progress} (carries : Carries R p) (heads : p.heads = acc ++ a :: rest) {w : Nat}
      (outside : v ≤ w) (apart : a ∉ acc.take w) : ∃ v' q acc', (v + 1, p) = (v', q) ∧
      Follows R p q ∧ q.heads = acc' ++ rest ∧ acc'.length = v' ∧
      (acc' = acc ∧ a ∈ acc ∨ acc' = acc ++ [a] ∧ a ∉ acc) := by
    rw [List.take_of_length_le (by omega)] at apart
    refine ⟨_, _, acc ++ [a], rfl, .refl carries, by rw [heads, List.append_assoc]; rfl, ?_,
      .inr ⟨rfl, apart⟩⟩
    rw [List.length_append, length]
    rfl
  -- on the versions before it, one comparison for each
  induction fuel generalizing w p with
  | zero => exact kept carries heads (by omega) apart
  | succ fuel ih =>
    rw [settle]
    split
    · next outside => exact kept carries heads outside apart
    · next low =>
      have low : w < acc.length := by omega
      obtain ⟨-, headV⟩ := head_behind heads length
      obtain ⟨insideW, headW⟩ := head_before heads low
      have activeW := going _ (List.getElem_mem low)
      have status := Head.status_of_isActive (headW ▸ activeW)
      obtain ⟨countW, q, standing, recounts⟩ := carries.standing insideW status.2
      obtain ⟨carriesQ, headsQ⟩ := carries.recounts recounts
      have follows := Follows.recounts carries recounts
      rw [heads] at headsQ
      obtain ⟨-, headV⟩ := head_behind headsQ length
      obtain ⟨-, headW⟩ := head_before headsQ low
      have neither : Standing.compare ⟨0, countW, 0, false⟩ ⟨0, count, 0, false⟩ = .neither := rfl
      rw [standing, status.1, if_neg Bool.false_ne_true]
      dsimp only
      rw [neither]
      dsimp only
      cases merged : q.merge w v with
      | some r =>
        obtain ⟨carriesR, headsR, continues, finished, -, -, state, place, -⟩ := carriesQ.merge merged
        rw [headV, headW] at state place
        have same : acc[w] = a := (Head.eq_of_active activeW state place).trans
          (Head.eq_of_active active rfl rfl).symm
        refine ⟨_, _, acc, rfl, follows.trans ⟨carriesR, continues, finished⟩, ?_, length,
          .inl ⟨rfl, same ▸ List.getElem_mem low⟩⟩
        rw [headsR, headsQ, eraseIdx_behind length]
      -- not joined, so the two are apart
      | none =>
        have other : acc[w] ≠ a := by
          intro same
          have activeW : q.Active w := by
            rw [q.active_iff_head, headW]
            exact activeW
          have activeV : q.Active v := by
            rw [q.active_iff_head, headV]
            exact active
          have apart := carriesQ.not_merge merged activeW activeV
          rw [headW, headV, same] at apart
          exact apart rfl rfl
        obtain ⟨v', r, acc', settled, more, known⟩ := ih (w + 1) carriesQ headsQ (by omega) (by
          rw [List.take_succ_eq_append_getElem low, List.mem_append, List.mem_singleton, not_or]
          exact ⟨apart, other.symm⟩)
        exact ⟨v', r, acc', settled, follows.trans more, known⟩

/-- **A version that goes on is compared with some that were stopped**: none of these stays.  Each
is dropped as it is met, so the version moves to the front. -/
theorem settle_clears (count fuel : Nat) {p : Progress} (carries : Carries R p)
    (heads : p.heads = acc ++ a :: rest) (length : acc.length = v)
    (paused : ∀ h ∈ acc, h.isPaused = true) (enough : v ≤ fuel) :
    ∃ q, settle ⟨0, count, 0, false⟩ fuel v 0 p = (1, q) ∧ Follows R p q ∧ q.heads = a :: rest := by
  -- each comparison drops the first version, so the next one takes its number
  induction acc generalizing fuel v p with
  | nil =>
    obtain rfl : v = 0 := length.symm
    cases fuel with
    | zero => exact ⟨p, rfl, .refl carries, heads⟩
    | succ fuel =>
      rw [settle, if_pos (Nat.le_refl 0)]
      exact ⟨p, rfl, .refl carries, heads⟩
  | cons b acc ih =>
    obtain ⟨pausedB, pausedRest⟩ := List.forall_mem_cons.mp paused
    cases fuel with
    | zero =>
      rw [List.length_cons] at length
      omega
    | succ fuel =>
      obtain ⟨insideB, headB⟩ := head_before (w := 0) heads (Nat.succ_pos _)
      have headB : p.head 0 = b := headB
      have isPaused : (p.head 0).status.isPaused = true := headB ▸ pausedB
      obtain ⟨countB, q, standing, recounts⟩ :=
        carries.standing insideB (headB ▸ (Head.status_of_isPaused pausedB).2)
      obtain ⟨carriesQ, headsQ⟩ := carries.recounts recounts
      have takeRight : Standing.compare ⟨Cost.recovery + Cost.skippedNode, countB, 0, true⟩
          ⟨0, count, 0, false⟩ = .takeRight := rfl
      rw [settle, if_neg (by rw [← length, List.length_cons]; omega), standing, isPaused, if_pos rfl]
      dsimp only
      rw [takeRight]
      dsimp only
      obtain ⟨carriesR, headsR⟩ := carriesQ.remove 0
      rw [headsQ, heads] at headsR
      obtain ⟨r, settled, follows, known⟩ := ih fuel (v := v - 1) carriesR headsR
        (by rw [← length, List.length_cons]; rfl) pausedRest (by omega)
      exact ⟨r, settled,
        (Follows.recounts carries recounts).trans ((Follows.remove carriesQ 0).trans follows), known⟩

/-- **A version that was stopped is compared with others that were**: all of them stay.  Both have
the same cost, and versions that were stopped are never joined. -/
theorem settle_paused (count fuel w : Nat) {p : Progress} (carries : Carries R p)
    (heads : p.heads = acc ++ a :: rest) (length : acc.length = v) (low : w ≤ v)
    (enough : v - w ≤ fuel) (all : ∀ h ∈ acc, h.isPaused = true) :
    ∃ q, settle ⟨Cost.recovery + Cost.skippedNode, count, 0, true⟩ fuel v w p = (v + 1, q) ∧
      Follows R p q ∧ q.heads = p.heads := by
  induction fuel generalizing w p with
  | zero => exact ⟨p, rfl, .refl carries, rfl⟩
  | succ fuel ih =>
    rw [settle]
    split
    · next outside => exact ⟨p, rfl, .refl carries, rfl⟩
    · next inside =>
      have inside : w < acc.length := by omega
      obtain ⟨insideW, headW⟩ := head_before heads inside
      have pausedW := all _ (List.getElem_mem inside)
      have isPaused : (p.head w).status.isPaused = true := headW ▸ pausedW
      obtain ⟨countW, q, standing, recounts⟩ :=
        carries.standing insideW (headW ▸ (Head.status_of_isPaused pausedW).2)
      obtain ⟨carriesQ, headsQ⟩ := carries.recounts recounts
      -- both have the cost of an error, and versions that were stopped are not joined
      have neither : Standing.compare ⟨Cost.recovery + Cost.skippedNode, countW, 0, true⟩
          ⟨Cost.recovery + Cost.skippedNode, count, 0, true⟩ = .neither := rfl
      have notMerged : q.merge w v = none := by
        have inactive : (q.version w).status.isActive = false := by
          rw [(recounts.heads w).status]
          exact (Head.status_of_isPaused (headW ▸ pausedW : (p.head w).isPaused = true)).1
        rw [Progress.merge, if_neg]
        rw [canMerge, inactive]
        exact Bool.false_ne_true
      rw [standing, isPaused, if_pos rfl]
      dsimp only
      rw [neither]
      dsimp only
      rw [notMerged]
      obtain ⟨r, settled, follows, known⟩ := ih (w + 1) carriesQ (headsQ.trans heads) (by omega)
        (by omega)
      exact ⟨r, settled, (Follows.recounts carries recounts).trans follows, known.trans headsQ⟩

/-- **A version that was stopped is compared with one that goes on**: it does not stay, and it is
the first comparison that decides. -/
theorem settle_stopped (count : Nat) {p : Progress} (carries : Carries R p) {b : Head}
    (heads : p.heads = b :: acc ++ a :: rest) (length : (b :: acc).length = v)
    (active : b.isActive = true) :
    ∃ q, settle ⟨Cost.recovery + Cost.skippedNode, count, 0, true⟩ v v 0 p = (v, q) ∧
      Follows R p q ∧ q.heads = b :: acc ++ rest := by
  obtain ⟨fuel, rfl⟩ : ∃ fuel, v = fuel + 1 := ⟨acc.length, length.symm⟩
  obtain ⟨insideB, headB⟩ := head_before (w := 0) heads (Nat.succ_pos _)
  have headB : p.head 0 = b := headB
  have status := Head.status_of_isActive (headB ▸ active : (p.head 0).isActive = true)
  obtain ⟨countB, q, standing, recounts⟩ := carries.standing insideB status.2
  obtain ⟨carriesQ, headsQ⟩ := carries.recounts recounts
  have takeLeft : Standing.compare ⟨0, countB, 0, false⟩
      ⟨Cost.recovery + Cost.skippedNode, count, 0, true⟩ = .takeLeft := rfl
  rw [settle, if_neg (Nat.not_le.mpr (Nat.succ_pos fuel)), standing, status.1,
    if_neg Bool.false_ne_true]
  dsimp only
  rw [takeLeft]
  refine ⟨_, rfl, (Follows.recounts carries recounts).trans (.remove carriesQ (fuel + 1)), ?_⟩
  rw [(carriesQ.remove (fuel + 1)).2, headsQ, heads, eraseIdx_behind length]

end Region.Carries

/-! ### Comparing all versions -/

/-- Some versions that have been compared with each other: all of them go on, each in another place,
or all of them were stopped. -/
def Compared (heads : List Head) : Prop :=
  (∀ h ∈ heads, h.isActive = true) ∧ heads.Nodup ∨ ∀ h ∈ heads, h.isPaused = true

/-- What the comparison of some versions leaves: if one goes on, then those that do, each once; if
none does, then the least cost of those without an error is not changed. -/
structure Compares (heads : List Head) (least : Option Nat) (heads' : List Head) (least' : Option Nat) :
    Prop where
  sub : ∀ h ∈ heads', h ∈ heads
  going : (∃ h ∈ heads, h.isActive = true) → (∀ h ∈ heads', h.isActive = true) ∧ heads'.Nodup ∧
    ∀ h ∈ heads, h.isActive = true → h ∈ heads'
  stopped : (∀ h ∈ heads, h.isActive = false) → least' = least

namespace Compares

variable {heads heads' heads'' : List Head} {least least' least'' : Option Nat}

theorem of_compared (compared : Compared heads) : Compares heads least heads least := by
  refine ⟨fun _ => id, fun ⟨h, mem, active⟩ => ?_, fun _ => rfl⟩
  rcases compared with ⟨all, nodup⟩ | paused
  · exact ⟨all, nodup, fun _ mem _ => mem⟩
  · rw [(Head.status_of_isPaused (paused h mem)).1] at active
    cases active

/-- The comparison of fewer versions, if none of those that go on is missing.  It is how the
induction over the rest goes on behind one version. -/
theorem of_fewer (compares : Compares heads least heads'' least'') (sub : ∀ h ∈ heads, h ∈ heads')
    (active : ∀ h ∈ heads', h.isActive = true → h ∈ heads)
    (same : (∀ h ∈ heads', h.isActive = false) → least = least') :
    Compares heads' least' heads'' least'' := by
  refine ⟨fun h mem => sub h (compares.sub h mem), fun ⟨h, mem, goes⟩ => ?_, fun none => ?_⟩
  · obtain ⟨all, nodup, kept⟩ := compares.going ⟨h, active h mem goes, goes⟩
    exact ⟨all, nodup, fun h mem goes => kept h (active h mem goes) goes⟩
  · rw [compares.stopped fun h mem => none h (sub h mem), same none]

end Compares

/-- What the comparison of one more version makes of some that have been compared. -/
structure ComparesOne (acc : List Head) (a : Head) (least : Option Nat) (acc' : List Head)
    (least' : Option Nat) : Prop where
  compared : Compared acc'
  sub : ∀ h ∈ acc', h ∈ acc ++ [a]
  going : ∀ h ∈ acc ++ [a], h.isActive = true → h ∈ acc'
  stopped : a.isActive = false → least' = least

/-- The version `v`, behind those that have been compared, is compared with them.  The loop goes on
with the next one, at the new length of the list. -/
def SettlesOne (R : Region) (fuel v : Nat) (least : Option Nat) (p : Progress) (acc : List Head)
    (a : Head) (rest : List Head) : Prop :=
  ∃ (acc' : List Head) (least' : Option Nat) (q : Progress),
    Progress.settleAll (fuel + 1) v least p = Progress.settleAll fuel acc'.length least' q ∧
      Region.Follows R p q ∧ q.heads = acc' ++ rest ∧ ComparesOne acc a least acc' least'

namespace Region.Carries

variable {R : Region} {acc rest : List Head} {a : Head} {v : Nat} {p : Progress}

section

variable (carries : Carries R p) (heads : p.heads = acc ++ a :: rest) (length : acc.length = v)
  (compared : Compared acc) (fuel : Nat) (least : Option Nat)

include carries heads length compared

/-- A version that has ended is dropped. -/
theorem settlesOne_halted (halted : a.status = .halted) : SettlesOne R fuel v least p acc a rest := by
  obtain ⟨inside, headV⟩ := head_behind heads length
  have inactive : a.isActive = false := by rw [Head.isActive, halted]; rfl
  refine ⟨acc, least, p.remove v, ?_, .remove carries v, ?_, compared,
    fun h mem => List.mem_append_left _ mem, fun h mem goes => ?_, fun _ => rfl⟩
  · rw [Progress.settleAll, if_neg (Nat.not_le.mpr inside), length,
      show (p.version v).status = a.status from congrArg Head.status headV, halted]
  · rw [(carries.remove v).2, heads, eraseIdx_behind length]
  · refine (List.mem_append.mp mem).resolve_right fun last => ?_
    rw [List.mem_singleton.mp last, inactive] at goes
    cases goes

/-- A version that goes on is kept, if it is the only one where it is.  If those before it were
stopped, then they are dropped. -/
theorem settlesOne_active (active : a.isActive = true) : SettlesOne R fuel v least p acc a rest := by
  obtain ⟨inside, headV⟩ := head_behind heads length
  obtain ⟨notPaused, notHalted⟩ := Head.status_of_isActive active
  have status : a.status = .active := by
    cases status : a.status with
    | active => rfl
    | _ => rw [Head.isActive, status] at active; cases active
  obtain ⟨count, q, standing, recounts⟩ := carries.standing inside (headV ▸ notHalted)
  have follows := Follows.recounts carries recounts
  have headsQ := (carries.recounts recounts).2.trans heads
  rw [headV, notPaused, if_neg Bool.false_ne_true] at standing
  have begins : Progress.settleAll (fuel + 1) v least p =
      Progress.settleAll fuel (settle ⟨0, count, 0, false⟩ v v 0 q).1
        (some (least.elim 0 (min · 0)))
        (settle ⟨0, count, 0, false⟩ v v 0 q).2 := by
    rw [Progress.settleAll, if_neg (Nat.not_le.mpr inside),
      show (p.version v).status = a.status from congrArg Head.status headV, status]
    dsimp only
    rw [standing]
    cases least <;> rfl
  have goesOn {least' : Option Nat} : a.isActive = false → least' = least := fun stopped => by
    rw [active] at stopped
    cases stopped
  rcases compared with ⟨all, nodup⟩ | paused
  -- the others go on, too: the version is joined to one of them, or is a new one
  · obtain ⟨v', r, acc', settled, follows', headsR, rfl, known⟩ :=
      settle_going count v 0 follows.carries headsQ length active all (Nat.sub_le v 0) List.not_mem_nil
    rw [settled] at begins
    refine ⟨acc', _, r, begins, follows.trans follows', headsR, ?_⟩
    rcases known with ⟨rfl, here⟩ | ⟨rfl, new⟩
    · refine ⟨.inl ⟨all, nodup⟩, fun h mem => List.mem_append_left _ mem, fun h mem _ => ?_, goesOn⟩
      rcases List.mem_append.mp mem with old | last
      · exact old
      · rw [List.mem_singleton.mp last]
        exact here
    · refine ⟨.inl ⟨fun h mem => ?_, List.nodup_append.mpr ⟨nodup, List.nodup_singleton a, ?_⟩⟩,
        fun _ => id, fun _ mem _ => mem, goesOn⟩
      · rcases List.mem_append.mp mem with old | last
        · exact all h old
        · rw [List.mem_singleton.mp last]
          exact active
      · rintro h old b last rfl
        rw [List.mem_singleton.mp last] at old
        exact new old
  · obtain ⟨r, settled, follows', headsR⟩ :=
      settle_clears count v follows.carries headsQ length paused (Nat.le_refl v)
    rw [settled] at begins
    refine ⟨[a], _, r, begins, follows.trans follows', headsR,
      .inl ⟨fun h mem => ?_, List.nodup_singleton a⟩, fun h mem => List.mem_append_right _ mem,
      fun h mem goes => ?_, goesOn⟩
    · rw [List.mem_singleton.mp mem]
      exact active
    · refine (List.mem_append.mp mem).resolve_left fun old => ?_
      rw [(Head.status_of_isPaused (paused h old)).1] at goes
      cases goes

/-- A version that was stopped is kept, if none goes on. -/
theorem settlesOne_paused (paused : a.isPaused = true) : SettlesOne R fuel v least p acc a rest := by
  obtain ⟨inside, headV⟩ := head_behind heads length
  obtain ⟨inactive, notHalted⟩ := Head.status_of_isPaused paused
  obtain ⟨count, q, standing, recounts⟩ := carries.standing inside (headV ▸ notHalted)
  have follows := Follows.recounts carries recounts
  have headsQ := (carries.recounts recounts).2.trans heads
  rw [headV, show a.status.isPaused = true from paused, if_pos rfl] at standing
  have begins : Progress.settleAll (fuel + 1) v least p =
      Progress.settleAll fuel (settle ⟨Cost.recovery + Cost.skippedNode, count, 0, true⟩ v v 0 q).1 least
        (settle ⟨Cost.recovery + Cost.skippedNode, count, 0, true⟩ v v 0 q).2 := by
    rw [Progress.settleAll, if_neg (Nat.not_le.mpr inside),
      show (p.version v).status = a.status from congrArg Head.status headV]
    cases status : a.status with
    | paused token =>
      dsimp only
      rw [standing]
      rfl
    | _ => rw [Head.isPaused, status] at paused; cases paused
  have appended (all : ∀ h ∈ acc, h.isPaused = true) : SettlesOne R fuel v least p acc a rest := by
    obtain ⟨r, settled, follows', headsR⟩ := settle_paused count v 0 follows.carries headsQ length
      (Nat.zero_le v) (Nat.sub_le v 0) all
    rw [settled] at begins
    refine ⟨acc ++ [a], least, r, ?_, follows.trans follows', ?_, .inr fun h mem => ?_, fun _ => id,
      fun _ mem _ => mem, fun _ => rfl⟩
    · rw [begins, List.length_append, length]
      rfl
    · rw [headsR, headsQ, List.append_assoc]
      rfl
    · rcases List.mem_append.mp mem with old | last
      · exact all h old
      · rw [List.mem_singleton.mp last]
        exact paused
  rcases compared with ⟨all, nodup⟩ | all
  · cases acc with
    | nil => exact appended (List.forall_mem_nil _)
    | cons b acc =>
      obtain ⟨r, settled, follows', headsR⟩ := settle_stopped count follows.carries headsQ length
        (all b List.mem_cons_self)
      rw [settled] at begins
      refine ⟨b :: acc, least, r, length ▸ begins, follows.trans follows', headsR, .inl ⟨all, nodup⟩,
        fun h mem => List.mem_append_left _ mem, fun h mem goes => ?_, fun _ => rfl⟩
      refine (List.mem_append.mp mem).resolve_right fun last => ?_
      rw [List.mem_singleton.mp last, inactive] at goes
      cases goes
  · exact appended all

/-- **One more version is compared** with those before it, whatever its status.  By the three cases
above, since a version goes on, was stopped or has ended. -/
theorem settlesOne : SettlesOne R fuel v least p acc a rest := by
  cases status : a.status with
  | active =>
    exact carries.settlesOne_active heads length compared fuel least (by rw [Head.isActive, status]; rfl)
  | paused token =>
    exact carries.settlesOne_paused heads length compared fuel least (by rw [Head.isPaused, status]; rfl)
  | halted => exact carries.settlesOne_halted heads length compared fuel least status

end

/-- **All versions are compared.**  By induction on the versions that are left, with `Compared` of
those before. -/
theorem settleAll (acc rest : List Head) {fuel : Nat} (least : Option Nat) {p : Progress}
    (carries : Carries R p) (heads : p.heads = acc ++ rest) (enough : rest.length ≤ fuel)
    (compared : Compared acc) :
    ∃ least' q, Progress.settleAll fuel acc.length least p = (least', q) ∧ Follows R p q ∧
      Compares (acc ++ rest) least q.heads least' := by
  induction fuel generalizing acc rest least p with
  | zero =>
    obtain rfl : rest = [] := List.eq_nil_of_length_eq_zero (Nat.le_zero.mp enough)
    rw [List.append_nil] at heads ⊢
    exact ⟨least, p, rfl, .refl carries, by rw [heads]; exact .of_compared compared⟩
  | succ fuel ih =>
    cases rest with
    | nil =>
      rw [List.append_nil] at heads ⊢
      have outside : acc.length ≥ p.versions.length := by rw [← p.length_heads, heads]
      rw [Progress.settleAll, if_pos outside]
      exact ⟨least, p, rfl, .refl carries, by rw [heads]; exact .of_compared compared⟩
    | cons a rest =>
      obtain ⟨acc', least', q, begins, follows, heads', one⟩ :=
        carries.settlesOne heads rfl compared fuel least
      obtain ⟨least'', r, settled, follows', compares⟩ := ih acc' rest least' follows.carries heads'
        (Nat.le_of_succ_le_succ enough) one.compared
      have split : acc ++ a :: rest = (acc ++ [a]) ++ rest := by rw [List.append_assoc]; rfl
      refine ⟨least'', r, begins.trans settled, follows.trans follows',
        compares.of_fewer (fun h mem => ?_) (fun h mem goes => ?_) fun none => one.stopped (none a ?_)⟩
      · rw [split]
        exact (List.mem_append.mp mem).elim (fun mem => List.mem_append_left _ (one.sub h mem))
          (List.mem_append_right _)
      · rw [split] at mem
        exact (List.mem_append.mp mem).elim (fun mem => List.mem_append_left _ (one.going h mem goes))
          (List.mem_append_right _)
      · exact List.mem_append_right _ List.mem_cons_self

/-! ### The end of a round -/

/-- No version is stopped, so none is resumed, and the parse stays what it is. -/
theorem resume_of_active (fuel : Nat) {count v : Nat} {p : Progress} (going : Bool)
    (least : Option Nat) (active : ∀ u, u < v + count → p.Active u) :
    resume fuel count v going least p = (least, p) := by
  induction count generalizing v going with
  | zero => rfl
  | succ count ih =>
    have here := active v (by omega)
    rw [resume]
    split
    · next token paused =>
      rw [Progress.Active, paused] at here
      cases here
    · exact ih true fun u inside => active u (by omega)

/-- At the end of a round all versions are compared. -/
theorem compareAll (carries : Carries R p) : ∃ least q,
    Progress.settleAll p.versions.length 0 none p = (least, q) ∧ Follows R p q ∧
      Compares p.heads none q.heads least :=
  carries.settleAll [] p.heads none rfl (Nat.le_of_eq p.length_heads)
    (.inl ⟨List.forall_mem_nil _, List.nodup_nil⟩)

/-- **The end of a round in which a version goes on**: the first of those that do are kept, each
once. -/
theorem condense (fuel : Nat) {p : Progress} (carries : Carries R p)
    (goes : ∃ h ∈ p.heads, h.isActive = true) :
    ∃ (least : Option Nat) (kept : List Head) (q : Progress), p.condense fuel = (least, q) ∧ Follows R p q ∧
      q.heads = kept.take maxVersions ∧ kept.Nodup ∧ (∀ h ∈ kept, h.isActive = true ∧ h ∈ p.heads) ∧
      ∀ h ∈ p.heads, h.isActive = true → h ∈ kept := by
  obtain ⟨least, q, settled, follows, compares⟩ := carries.compareAll
  obtain ⟨active, nodup, all⟩ := compares.going goes
  have taken : (Progress.mk q.stack (q.versions.take maxVersions) q.finished q.accepted).heads =
      q.heads.take maxVersions := List.map_take
  refine ⟨least, q.heads, _, ?_, follows.trans
    ⟨follows.carries.withVersions fun _ mem => List.mem_of_mem_take mem, .refl _, rfl⟩, taken, nodup,
    fun h mem => ⟨active h mem, compares.sub h mem⟩, all⟩
  rw [Progress.condense, settled]
  dsimp only
  refine resume_of_active _ _ _ fun u inside => ?_
  rw [Nat.zero_add] at inside
  have here := List.mem_of_getElem? (Progress.heads_getElem?
    (p := ⟨q.stack, q.versions.take maxVersions, q.finished, q.accepted⟩) inside)
  rw [taken] at here
  exact active _ (List.mem_of_mem_take here)

/-- **The end of a round in which no version goes on**: a tree of the whole text without errors
stays, and what is open has a cost.  So the next round ends the parse with this tree. -/
theorem finished_condense {text : List Char} {p : Progress} (carries : Carries R p)
    (ok : ProgressOk text p) (fuel : Nat) {t : SyntaxTree} (finished : p.finished = some t)
    (stopped : ∀ h ∈ p.heads, h.isActive = false) :
    (p.condense fuel).2.finished = some t ∧ ∀ c, (p.condense fuel).1 = some c → 0 < c := by
  obtain ⟨least, q, settled, follows, compares⟩ := carries.compareAll
  have okQ := ok.settleAll p.versions.length 0 none
  rw [settled] at okQ
  have finishedQ := follows.finished.trans finished
  obtain rfl := compares.stopped stopped
  have okTaken : ProgressOk text { q with versions := q.versions.take maxVersions } :=
    okQ.withVersions fun v mem => okQ.versions v (List.mem_of_mem_take mem)
  obtain ⟨stays, cost⟩ := okTaken.finished_resume fuel
    (q.versions.take maxVersions).length 0 false none finishedQ (carries.finished t finished).cost
  rw [Progress.condense, settled]
  exact ⟨stays, fun c same => (cost c same).resolve_left nofun⟩

end Region.Carries

end JsxDetect.Parse
