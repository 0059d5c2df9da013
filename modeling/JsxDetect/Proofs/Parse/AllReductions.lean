import JsxDetect.Proofs.Parse.ReductionInvariant

/-!
# All reductions, and the end of a parse

Making every reduction that could be made before a token preserves the invariant, and so does
the end of a parse, whose tree is grounded.

## Main Results

* `ProgressOk.reduceAll`: making all reductions
* `ProgressOk.accept`: the end of a parse

## Design Notes

**A loop over a list that changes.**  `reduceFrom` goes through the versions by number while it adds
some at the end, joins some and drops others.  The invariant of the loop says which numbers matter:
the version that was begun with and all from `start` on are the loop's own, and `Going` asks that
they go on; the others are kept.  The steps of one turn are lemmas about `Reduces`, and the
induction on the fuel only picks the one that applies.

**The two uses.**  Before an error all reductions are tried and no version is dropped, so the ones
there were are still there afterwards (`reduceAll`).  Behind a token that was added, versions that
cannot take the next token are dropped.  That is safe only because the version begun with is the
last one (`reduceAll_last`), so that no number of an older version changes.

**The root of a text in error.**  An error that is completed at the end of a text hides nothing, as
it is the root itself.  `RootOk` states this as a property of the trees on a way down, and the end
of a parse is proved once for all ways that have it.
-/

namespace JsxDetect.Parse

open Automaton Stack SyntaxTree

variable {text : List Char}

/-! ### What could be done -/

/-- A reduction among the options was there before, or is the action that was added. -/
theorem mem_options_add {options : Progress.Options} {a : Action} {r : Progress.Reduction}
    (mem : r ∈ (options.add a).reductions) :
    r ∈ options.reductions ∨ a = .reduce r.symbol r.count r.bonus := by
  cases a with
  | shift next repeats =>
    rw [Progress.Options.add] at mem
    split at mem
    · exact .inl mem
    · exact .inl mem
  | shiftExtra => exact .inl mem
  | recover => exact .inl mem
  | accept => exact .inl mem
  | reduce symbol count bonus =>
    rw [Progress.Options.add] at mem
    split at mem
    · rcases List.mem_cons.mp mem with rfl | old
      · exact .inr rfl
      · exact .inl old
    · exact .inl mem

/-- A reduction among the options after some actions was there before, or is one of them. -/
theorem mem_foldl_add {options : Progress.Options} {actions : List Action}
    {r : Progress.Reduction} (mem : r ∈ (actions.foldl Progress.Options.add options).reductions) :
    r ∈ options.reductions ∨ .reduce r.symbol r.count r.bonus ∈ actions := by
  induction actions generalizing options with
  | nil => exact .inl mem
  | cons a actions ih =>
    rcases ih mem with known | later
    · rcases mem_options_add known with old | rfl
      · exact .inl old
      · exact .inr List.mem_cons_self
    · exact .inr (List.mem_cons_of_mem _ later)

/-- The reductions that could be made are actions of the state, at some token.  At which one is
lost, as reductions at several tokens are made only once. -/
theorem mem_optionsAt {state : StateId} {token : Option Symbol} {r : Progress.Reduction}
    (mem : r ∈ (Progress.optionsAt state token).reductions) :
    ∃ symbol, .reduce r.symbol r.count r.bonus ∈ actions state symbol := by
  have fold : ∀ (symbols : List Symbol) (options : Progress.Options),
      r ∈ (symbols.foldl (fun options symbol =>
        (actions state symbol).foldl Progress.Options.add options) options).reductions →
      r ∈ options.reductions ∨
        ∃ symbol, .reduce r.symbol r.count r.bonus ∈ actions state symbol := by
    intro symbols
    induction symbols with
    | nil => exact fun options mem => .inl mem
    | cons symbol symbols ih =>
      intro options mem
      rcases ih _ mem with known | found
      · rcases mem_foldl_add known with old | here
        · exact .inl old
        · exact .inr ⟨symbol, here⟩
      · exact .inr found
  rcases fold _ _ mem with none | found
  · cases none
  · exact found

namespace ProgressOk

variable {p : Progress}

/-- Making some reductions one after the other, all of the same version.  A reduction leaves this
version as it was, so each of them still finds its state. -/
theorem reduceEach (ok : ProgressOk text p) {v base : Nat} (rs : List Progress.Reduction)
    (last : Option Nat) (active : p.Active v)
    (all : ∀ r ∈ rs, Completes (p.state v) r.symbol r.count) (low : base ≤ p.versions.length)
    (known : ∀ w, last = some w → base ≤ w ∧ w < p.versions.length) :
    ProgressOk text (Progress.reduceEach v rs last p).2 ∧
      Extends p.versions.length p (Progress.reduceEach v rs last p).2 ∧
        ∀ w, (Progress.reduceEach v rs last p).1 = some w →
          base ≤ w ∧ w < (Progress.reduceEach v rs last p).2.versions.length := by
  induction rs generalizing p last with
  | nil => exact ⟨ok, .refl p, known⟩
  | cons r rs ih =>
    obtain ⟨ok1, extends1, new1⟩ := ok.reduce r.bonus active (all r List.mem_cons_self)
    have inside := active.inside
    have active1 := extends1.keeps.active inside inside active
    obtain ⟨ok2, extends2, new2⟩ := ih ok1 (p.reduce v r.symbol r.count r.bonus).1 active1
      (fun r' mem => by
        rw [extends1.keeps.state ok inside inside]
        exact all r' (List.mem_cons_of_mem _ mem))
      (Nat.le_trans low extends1.length) (fun w same => by
        obtain ⟨equal, less⟩ := new1 w same
        exact ⟨by omega, less⟩)
    exact ⟨ok2, extends1.trans extends2 extends1.length (Nat.le_refl _), new2⟩

end ProgressOk

/-! ### Going through the versions -/

/-- What holds while all reductions are made: the version that was begun with and the new ones
go on. -/
structure Going (origin start : Nat) (p : Progress) : Prop where
  order : origin < start
  active : ∀ w, w = origin ∨ start ≤ w → w < p.versions.length → p.Active w

/-- Before anything is reduced, there are no new versions yet. -/
theorem Going.of_active {p : Progress} {v : Nat} (active : p.Active v) :
    Going v p.versions.length p where
  order := active.inside
  active := by
    rintro w (rfl | new) inside
    · exact active
    · exact absurd inside (Nat.not_lt.mpr new)

/-- Version `v` is next to be looked at. -/
structure Next (origin start : Nat) (v : Nat) (p : Progress) : Prop where
  version : v = origin ∨ start ≤ v
  length : v = origin → start ≤ p.versions.length

/-- A step leaves the other versions as they were. -/
abbrev KeepsOthers (origin start : Nat) : Progress → Progress → Prop :=
  Keeps fun w => w < start ∧ w ≠ origin

theorem version_remove (p : Progress) (v w : Nat) :
    (p.remove v).version w = p.version (if w < v then w else w + 1) :=
  version_eraseIdx p.stack

theorem length_remove {p : Progress} {v : Nat} (inside : v < p.versions.length) :
    (p.remove v).versions.length + 1 = p.versions.length := by
  have length : (p.remove v).versions.length = p.versions.length - 1 := by
    rw [Progress.remove, List.length_eraseIdx, if_pos inside]
  omega

/-- Dropping a version keeps those before it. -/
theorem keeps_remove (p : Progress) (v : Nat) (inside : v < p.versions.length) :
    Keeps (· < v) p (p.remove v) where
  stack := .refl _
  inside w low _ := by
    have length := length_remove inside
    omega
  heads w low _ := by
    rw [version_remove, if_pos low]
    exact .refl _

/-- A version of the loop's own may be dropped.  If it is the one that was begun with, then no other
version may lie between it and the new ones. -/
theorem Going.remove {origin start v : Nat} {p : Progress} (going : Going origin start p)
    (inside : v < p.versions.length) (place : start ≤ v ∨ v = origin ∧ start = origin + 1) :
    Going origin start (p.remove v) ∧ KeepsOthers origin start p (p.remove v) := by
  have order := going.order
  have length := length_remove inside
  refine ⟨⟨order, fun w which less => ?_⟩, (keeps_remove p v inside).mono fun w k => ?_⟩
  · rw [Progress.Active, version_remove]
    split
    · exact going.active w which (by omega)
    · exact going.active (w + 1) (by omega) (by omega)
  · omega

/-- A version of the loop's own may be joined to an earlier one of them: those behind it move up,
and are the loop's own still. -/
theorem Going.merges {origin start u v : Nat} {p q : Progress} (going : Going origin start p)
    (merges : Merges p u v q) (lower : start ≤ u) (order : u < v) :
    Going origin start q ∧ KeepsOthers origin start p q := by
  have length := merges.length
  refine ⟨⟨going.order, fun w which less => ?_⟩, merges.keeps.mono fun w k => ?_⟩
  · rcases Nat.lt_or_ge w v with before | behind
    · exact merges.keeps.active before (by omega) (going.active w which (by omega))
    · exact merges.active_of_later behind (going.active (w + 1) (by omega) (by omega))
  · omega

/-- Making some reductions leaves the others as they were, and the new versions go on. -/
theorem Going.extends {origin start : Nat} {p q : Progress} (going : Going origin start p)
    (extended : Extends p.versions.length p q) :
    Going origin start q ∧ Keeps (· < p.versions.length) p q := by
  refine ⟨⟨going.order, fun w which less => ?_⟩, extended.keeps⟩
  rcases Nat.lt_or_ge w p.versions.length with before | behind
  · exact extended.keeps.active before before (going.active w which before)
  · exact extended.active w behind less

/-- Reading a version after `v` has gone on as `w` did, which is no longer there. -/
theorem version_replace {p : Progress} {v w : Nat} (order : v < w)
    (inside : w < p.versions.length) (u : Nat) :
    SameHead (p.version (if u = v then w else if u < w then u else u + 1))
      ((p.replace v w).version u) := by
  rw [Progress.replace, if_neg (Nat.ne_of_lt order)]
  dsimp only
  rw [version_remove, Progress.version_setVersion]
  by_cases same : u = v
  · subst same
    rw [if_pos rfl, if_pos order, if_pos ⟨rfl, Nat.lt_trans order inside⟩]
    exact ⟨rfl, rfl⟩
  · have elsewhere : ¬(v = (if u < w then u else u + 1) ∧ v < p.versions.length) := by
      split <;> omega
    rw [if_neg same, if_neg elsewhere]
    exact .refl _

/-- A version fewer is left when one goes on as another one did. -/
theorem length_replace {p : Progress} {v w : Nat} (order : v < w)
    (inside : w < p.versions.length) :
    (p.replace v w).versions.length + 1 = p.versions.length := by
  have removed : ∀ new, ((p.setVersion v new).remove w).versions.length + 1 =
      p.versions.length := by
    intro new
    rw [length_remove (by rw [Progress.length_setVersion]; exact inside),
      Progress.length_setVersion]
  rw [Progress.replace, if_neg (Nat.ne_of_lt order)]
  exact removed _

/-- A version goes on as a later one does.  Both are the loop's own, and one number fewer is left.
-/
theorem Going.replace {origin start v w : Nat} {p : Progress} (going : Going origin start p)
    (version : v = origin ∨ start ≤ v) (later : start ≤ w) (order : v < w)
    (inside : w < p.versions.length) :
    Going origin start (p.replace v w) ∧ KeepsOthers origin start p (p.replace v w) := by
  have length := length_replace order inside
  have heads := version_replace order inside
  have orders := going.order
  refine ⟨⟨orders, fun u which less => ?_⟩, ⟨?_, fun u k _ => by omega, fun u k _ => ?_⟩⟩
  · rw [Progress.Active, (heads u).status]
    split
    · exact going.active w (.inr later) inside
    · split
      · exact going.active u which (by omega)
      · exact going.active (u + 1) (by omega) (by omega)
  · rw [Progress.replace, if_neg (Nat.ne_of_lt order)]
    exact .refl _
  · have head := heads u
    rwa [if_neg (by omega), if_pos (by omega)] at head

theorem lt_of_mem_filter_range {u v start : Nat} (mem : u ∈ (List.range v).filter (start ≤ ·)) :
    start ≤ u ∧ u < v := by
  rw [List.mem_filter, List.mem_range, decide_eq_true_eq] at mem
  exact ⟨mem.2, mem.1⟩

section

variable {origin start v w : Nat} {token : Option Symbol} {p q r : Progress}

/-- After a version comes the next one; after the version that was begun with come the new ones.
The versions between them are passed over. -/
theorem Next.following (next : Next origin start v p) (order : origin < start) :
    Next origin start (if v = origin then p.versions.length else v + 1) q := by
  have length := next.length
  have version := next.version
  split
  · next same =>
    have long := length same
    exact ⟨.inr long, fun same' => by omega⟩
  · exact ⟨.inr (by omega), fun same' => by omega⟩

/-- A new version lies behind those that are not touched. -/
theorem Next.le_of_new (next : Next origin start v p) (inside : v < p.versions.length)
    (new : p.versions.length ≤ w) : start ≤ w := by
  rcases next.version with same | low
  · exact Nat.le_trans (next.length same) new
  · omega

/-- What reductions from `p` to `q` leave: the invariant holds, the versions worked on go on and
the others are as they were.  If no token is given, then no version is lost. -/
structure Reduces (text : List Char) (origin start : Nat) (token : Option Symbol)
    (p q : Progress) : Prop where
  ok : ProgressOk text q
  going : Going origin start q
  keeps : KeepsOthers origin start p q
  enough : token = none → start ≤ q.versions.length

namespace Reduces

theorem refl (ok : ProgressOk text p) (going : Going origin start p)
    (enough : token = none → start ≤ p.versions.length) :
    Reduces text origin start token p p :=
  ⟨ok, going, .refl _ _, enough⟩

theorem trans (first : Reduces text origin start token p q)
    (second : Reduces text origin start token q r) : Reduces text origin start token p r :=
  ⟨second.ok, second.going, first.keeps.trans second.keeps, second.enough⟩

/-- A version may be merged into an earlier one of those worked on.  The one that was begun with is
looked at first, so there is none for it to be merged into. -/
theorem mergeInto (ok : ProgressOk text p) (going : Going origin start p)
    (inside : v < p.versions.length)
    (joined : p.mergeInto v ((List.range v).filter (start ≤ ·)) = some q) :
    Reduces text origin start token p q ∧ (v = origin → start ≤ q.versions.length) := by
  obtain ⟨ok', u, mem, merges⟩ := ok.mergeInto joined
  obtain ⟨low, high⟩ := lt_of_mem_filter_range mem
  obtain ⟨going', keeps⟩ := going.merges merges low high
  have order := going.order
  have length := merges.length
  exact ⟨⟨ok', going', keeps, fun _ => by omega⟩, fun same => by omega⟩

/-- New versions may be added: they come last, so they are among those worked on. -/
theorem extend (ok : ProgressOk text q) (going : Going origin start p)
    (enough : token = none → start ≤ p.versions.length)
    (extended : Extends p.versions.length p q) : Reduces text origin start token p q := by
  obtain ⟨going', keeps⟩ := going.extends extended
  exact ⟨ok, going', ⟨keeps.stack, fun w _ inside => keeps.inside w inside inside,
    fun w _ inside => keeps.heads w inside inside⟩, fun none =>
      Nat.le_trans (enough none) extended.length⟩

/-- A version that cannot go on is dropped if a token is given; then the version that was begun
with has to be the last one. -/
theorem drop (reduces : Reduces text origin start token p q)
    (last : token.isSome = true → start = origin + 1) (version : v = origin ∨ start ≤ v)
    (inside : v < q.versions.length) :
    Reduces text origin start token p (if token.isSome then q.remove v else q) := by
  split
  · next some =>
    have one := last some
    obtain ⟨going, keeps⟩ := reduces.going.remove inside (by omega)
    refine ⟨reduces.ok.remove v, going, reduces.keeps.trans keeps, fun none => ?_⟩
    rw [none] at some
    cases some
  · exact reduces

/-- A version may go on as a new one does, which is then no longer in the list. -/
theorem replace (reduces : Reduces text origin start token p q)
    (version : v = origin ∨ start ≤ v) (low : start ≤ w) (order : v < w)
    (inside : w < q.versions.length) :
    Reduces text origin start token p (q.replace v w) ∧
      start ≤ (q.replace v w).versions.length := by
  obtain ⟨going, keeps⟩ := reduces.going.replace version low order inside
  have length := length_replace order inside
  have long : start ≤ (q.replace v w).versions.length := by omega
  exact ⟨⟨reduces.ok.replace v w, going, reduces.keeps.trans keeps, fun _ => long⟩, long⟩

end Reduces

end

namespace ProgressOk

variable {p : Progress}

/-- **Going through the versions** preserves the invariant.  The hypothesis `last` is what dropping
a version needs, `enough` is what is told when none is dropped. -/
theorem reduceFrom (ok : ProgressOk text p) {origin start : Nat} (token : Option Symbol)
    (fuel turn : Nat) {v : Nat} (shifts : Bool) (going : Going origin start p)
    (next : Next origin start v p) (last : token.isSome = true → start = origin + 1)
    (enough : token = none → start ≤ p.versions.length) :
    Reduces text origin start token p
      (Progress.reduceFrom origin start token fuel turn v shifts p).2 := by
  -- on the fuel; each turn is one of the steps in `Reduces`, and the next turns follow it
  induction fuel generalizing p turn v shifts with
  | zero => exact .refl ok going enough
  | succ fuel ih =>
    have step {q : Progress} {turn' v' : Nat} {shifts' : Bool}
        (reduces : Reduces text origin start token p q) (next' : Next origin start v' q) :
        Reduces text origin start token p
          (Progress.reduceFrom origin start token fuel turn' v' shifts' q).2 :=
      reduces.trans (ih reduces.ok turn' shifts' reduces.going next' reduces.enough)
    rw [Progress.reduceFrom]
    dsimp only
    split
    · exact .refl ok going enough
    · next inside =>
      have inside : v < p.versions.length := Nat.not_le.mp inside
      have active := going.active v next.version inside
      split
      · next merged joined =>
        obtain ⟨reduces, long⟩ := Reduces.mergeInto ok going inside joined
        exact step reduces ⟨next.version, long⟩
      · obtain ⟨ok1, extends1, new⟩ := ok.reduceEach
          (Progress.optionsAt (p.state v) token).reductions.reverse none active
          (fun r mem => by
            obtain ⟨symbol, action⟩ := mem_optionsAt (List.mem_reverse.mp mem)
            exact completes_of_mem action)
          (Nat.le_refl _) (fun w same => by cases same)
        generalize outcome : Progress.reduceEach v
          (Progress.optionsAt (p.state v) token).reductions.reverse none p = made at *
        have reduces : Reduces text origin start token p made.2 :=
          .extend ok1 going enough extends1
        have dropped := reduces.drop last next.version (Nat.lt_of_lt_of_le inside extends1.length)
        have following : ∀ {q : Progress}, Next origin start
            (if v = origin then p.versions.length else v + 1) q := next.following going.order
        generalize (if v = origin then p.versions.length else v + 1) = target at following ⊢
        split
        · exact step reduces following
        · split
          · next w same =>
            obtain ⟨fresh, inside2⟩ := new w same
            split
            · obtain ⟨replaced, long⟩ := reduces.replace next.version
                (next.le_of_new inside fresh) (Nat.lt_of_lt_of_le inside fresh) inside2
              exact step replaced ⟨next.version, fun _ => long⟩
            · exact step dropped following
          · exact step dropped following

/-- **All reductions of a version** that could be made before any token.  No version is lost: those
there were are kept but for `v` itself, and `v` and the new ones go on. -/
theorem reduceAll (ok : ProgressOk text p) (fuel : Nat) {v : Nat} (active : p.Active v) :
    ProgressOk text (p.reduceAll fuel v none).2 ∧
      Keeps (fun w => w < p.versions.length ∧ w ≠ v) p (p.reduceAll fuel v none).2 ∧
      p.versions.length ≤ (p.reduceAll fuel v none).2.versions.length ∧
      ∀ w, w = v ∨ p.versions.length ≤ w → w < (p.reduceAll fuel v none).2.versions.length →
        (p.reduceAll fuel v none).2.Active w := by
  have going := Going.of_active active
  have reduces := ok.reduceFrom none fuel 0 false going ⟨.inl rfl, fun _ => Nat.le_refl _⟩
    (fun some => by cases some) fun _ => Nat.le_refl _
  exact ⟨reduces.ok, reduces.keeps, reduces.enough rfl, reduces.going.active⟩

/-- All reductions of the last version, before a token or before any.  Nothing lies behind the
version, so that it may be dropped: what it leaves are new versions only. -/
theorem reduceAll_last (ok : ProgressOk text p) (fuel : Nat) {v : Nat} (token : Option Symbol)
    (active : p.Active v) (isLast : v + 1 = p.versions.length) :
    ProgressOk text (p.reduceAll fuel v token).2 ∧
      Keeps (· < v) p (p.reduceAll fuel v token).2 ∧
      ∀ w, v ≤ w → w < (p.reduceAll fuel v token).2.versions.length →
        (p.reduceAll fuel v token).2.Active w := by
  have going := Going.of_active active
  have reduces := ok.reduceFrom token fuel 0 false going
    ⟨.inl rfl, fun _ => Nat.le_refl _⟩ (fun _ => isLast.symm) fun _ => Nat.le_refl _
  refine ⟨reduces.ok, reduces.keeps.mono fun w low => by omega, fun w low less =>
    reduces.going.active w ?_ less⟩
  omega

end ProgressOk

/-! ### The end of a parse -/

/-- What the root of a tree of a whole text has to be like: the last of the trees it is made of
that may not stand anywhere.  Either it is an error itself, or no error hides among them. -/
def RootOk (trees : List SyntaxTree) : Prop :=
  ∀ root, (trees.reverse.dropWhile extra).head? = some root →
    root.symbol ≠ Symbol.skipped ∧
      (isErrorSymbol root.symbol = false → ∀ t ∈ trees, t.Proper)

theorem rootOk_of_proper {trees : List SyntaxTree} (proper : ∀ t ∈ trees, t.Proper) :
    RootOk trees := by
  refine fun root head => ⟨(proper root ?_).notSkipped, fun _ => proper⟩
  have inside := (List.dropWhile_sublist extra).subset (List.mem_of_head? head)
  exact List.mem_reverse.mp inside

/-- An error right before the end of the text is the root, and a root that is an error hides none.
-/
theorem rootOk_of_suffix {trees : List SyntaxTree} {error last : SyntaxTree}
    (ends : [error, last] <:+ trees) (isError : error.symbol = Symbol.error)
    (notExtra : error.extra = false) (extra : last.extra = true) : RootOk trees := by
  obtain ⟨earlier, rfl⟩ := ends
  intro root head
  have reversed : (earlier ++ [error, last]).reverse = last :: error :: earlier.reverse := by
    rw [List.reverse_append]
    rfl
  rw [reversed, List.dropWhile_cons_of_pos extra,
    List.dropWhile_cons_of_neg (by rw [notExtra]; exact Bool.false_ne_true)] at head
  obtain rfl : error = root := Option.some.inj head
  have noSkip : Symbol.error ≠ Symbol.skipped := by decide
  refine ⟨by rw [isError]; exact noSkip, fun noError => ?_⟩
  rw [isErrorSymbol_eq_true.mpr (.inl isError)] at noError
  cases noError

/-- **The tree of a whole text** is grounded, and its errors are counted.  It has the children of
the root and the trees beside it in one list, so what was known below the root is known below it. -/
theorem finishedOk_wholeTree {trees : List SyntaxTree} {whole : SyntaxTree}
    (same : Progress.wholeTree trees = some whole) (wellFormed : ∀ t ∈ trees, t.WellFormed text)
    (rootOk : RootOk trees) : FinishedOk text whole := by
  rw [Progress.wholeTree] at same
  dsimp only at same
  split at same
  · cases same
  · next root earlier split =>
    cases same
    have parts : trees = earlier.reverse ++ root :: (trees.reverse.takeWhile extra).reverse := by
      calc trees = (trees.reverse.takeWhile extra ++ trees.reverse.dropWhile extra).reverse := by
            rw [List.takeWhile_append_dropWhile, List.reverse_reverse]
        _ = _ := by
            rw [split, List.reverse_append, List.reverse_cons, List.append_assoc]
            rfl
    have mem : ∀ t, t ∈ trees ↔
        t ∈ earlier.reverse ∨ t = root ∨ t ∈ (trees.reverse.takeWhile extra).reverse := by
      intro t
      conv => lhs; rw [parts]
      rw [List.mem_append, List.mem_cons]
    have rootWellFormed := wellFormed root ((mem root).mpr (.inr (.inl rfl)))
    obtain ⟨notSkipped, proper⟩ := rootOk root (by rw [split]; rfl)
    have children : ∀ c ∈ earlier.reverse ++ root.children ++
        (trees.reverse.takeWhile extra).reverse, c ∈ trees ∨ c ∈ root.children := by
      intro c inside
      rcases List.mem_append.mp inside with before | later
      · rcases List.mem_append.mp before with earlier | child
        · exact .inl ((mem c).mpr (.inl earlier))
        · exact .inr child
      · exact .inl ((mem c).mpr (.inr (.inr later)))
    have allWellFormed : ∀ c ∈ earlier.reverse ++ root.children ++
        (trees.reverse.takeWhile extra).reverse, c.WellFormed text := by
      intro c inside
      rcases children c inside with known | child
      · exact wellFormed c known
      · exact rootWellFormed.child child
    refine ⟨.ofChildren (fun c inside => (allWellFormed c inside).grounded) fun element => ?_,
      .node (.ofChildren fun noError c inside => ?_) fun c inside => (allWellFormed c inside).honest,
      .ofChildren notSkipped⟩
    -- an element: its `<` is below the root, whose children the whole tree has
    · obtain ⟨info, inside, less⟩ := rootWellFormed.grounded.here element
      rcases Rose.mem_nodes_iff.mp inside with rfl | ⟨c, child, below⟩
      · have noElement : lessThan ∉ elementSymbols := by decide
        have isLess : root.symbol = lessThan := less.symbol
        rw [isLess] at element
        exact absurd element noElement
      · exact ⟨c, List.mem_append_left _ (List.mem_append_right _ child), info, below, less⟩
    -- no error: neither beside the root nor below it
    · rcases children c inside with known | child
      · exact proper noError c known
      · exact rootWellFormed.honest.here.proper noError c child

namespace Progress

/-- Ending a version and pushing something on it may change places: pushing keeps the status. -/
theorem halt_push {p : Progress} {v : Nat} (inside : v < p.versions.length) (t : SyntaxTree)
    (state : StateId) : (p.push v (some t) state).halt v = (p.halt v).push v (some t) state := by
  simp only [halt, setStatus, setVersion, push, version, List.getD_eq_getElem?_getD, List.set_set,
    List.getElem?_set_self inside, Option.getD_some]

theorem version_halt_self {p : Progress} {v : Nat} (inside : v < p.versions.length) :
    (p.halt v).version v = { p.version v with status := .halted } := by
  rw [halt, setStatus, version_setVersion, if_pos ⟨rfl, inside⟩]

/-- The last two trees on each way down from a version that has ended in an error: the last two
nodes have one link each. -/
theorem suffix_of_error {p : Progress} {v : Nat} (inside : v < p.versions.length)
    {error last : SyntaxTree} {path : Path}
    (reached : Reached ((p.push v (some error) 1).push v (some last) 1).stack (fun _ => True)
      ⟨(p.push v (some error) 1).stack.size, [], 0⟩ path)
    (bottom : (((p.push v (some error) 1).push v (some last) 1).stack.node path.node).links = []) :
    [error, last] <:+ path.trees := by
  have upper : (((p.push v (some error) 1).push v (some last) 1).stack.node
      (p.push v (some error) 1).stack.size).links = [⟨p.stack.size, some last⟩] := by
    rw [Progress.push_stack, node_push_size, links_nodeOver,
      (p.version_push_self v (some error) 1 inside).1]
  have isNew : p.stack.size < (p.push v (some error) 1).stack.size := by
    rw [Progress.push_stack, Array.size_push]
    exact Nat.lt_succ_self _
  have lower : (((p.push v (some error) 1).push v (some last) 1).stack.node
      p.stack.size).links = [⟨(p.version v).node, some error⟩] := by
    rw [Progress.push_stack, node_push_of_lt _ isNew, Progress.push_stack, node_push_size,
      links_nodeOver]
  rcases reached.first with rfl | ⟨link, mem, reached⟩
  · rw [upper] at bottom
    cases bottom
  · rw [upper] at mem
    rw [List.mem_singleton.mp mem, Path.over_some rfl] at reached
    rcases reached.first with rfl | ⟨link, mem, reached⟩
    · rw [lower] at bottom
      cases bottom
    · rw [lower] at mem
      rw [List.mem_singleton.mp mem, Path.over_some rfl] at reached
      exact reached.suffix

end Progress

namespace ProgressOk

variable {p : Progress}

/-- Taking a tree of the whole text into account preserves the invariant: one of two such trees is
kept. -/
theorem finish (ok : ProgressOk text p) {t : SyntaxTree} (tree : FinishedOk text t) :
    ProgressOk text (p.finish t) := by
  refine ⟨ok.stack, ok.versions, fun u same => ?_⟩
  rw [Progress.finish] at same
  dsimp only at same
  split at same
  · cases same
    exact tree
  · next old known =>
    split at same
    · cases same
      exact tree
    · cases same
      exact ok.finished _ known

/-- **Pushing a last tree** on a version that ends preserves the invariant.  Nothing is asked below
a version that has ended, so the tree may hide an error. -/
theorem pushLast {v : Nat} (ok : ProgressOk text (p.halt v)) (inside : v < p.versions.length)
    {t : SyntaxTree} {state : StateId} (fits : FitsLast text (p.state v) t state) :
    ProgressOk text ((p.push v (some t) state).halt v) := by
  have halted := Progress.version_halt_self inside
  have below := (ok.version v).inside
  rw [Progress.halt_push inside]
  have node : ((p.halt v).version v).node = (p.version v).node := by rw [halted]
  refine ok.onTop ?_ fun notHalted => ?_
  · rw [Progress.push_stack]
    refine FitsLast.stack ?_ ok.stack below
    rw [node]
    exact fits
  · rw [halted] at notHalted
    exact absurd rfl notHalted

/-- The end of a parse preserves the invariant, if no way down gives a tree of the whole text in
which an error hides. -/
theorem accept_of_ways {v : Nat} {lookahead : SyntaxTree} (ok : ProgressOk text (p.halt v))
    (inside : v < p.versions.length) (token : TokenOk text lookahead)
    (isToken : lookahead.symbol < Symbol.tokenCount)
    (ways : ∀ path, Reached (p.push v (some lookahead) 1).stack (fun _ => True)
      ⟨p.stack.size, [], 0⟩ path →
        ((p.push v (some lookahead) 1).stack.node path.node).links = [] → RootOk path.trees) :
    ProgressOk text (p.accept v lookahead) := by
  have fits : FitsLast text (p.state v) lookahead 1 :=
    ⟨token.wellFormed, fun _ => proper_of_token isToken, .of_eq_zero (by decide)⟩
  have ok1 := ok.pushLast inside fits
  have fold : ∀ (trees : List SyntaxTree) (q : Progress), ProgressOk text (q.halt v) →
      (∀ t ∈ trees, FinishedOk text t) →
        ProgressOk text ((trees.foldl Progress.finish q).halt v) := by
    intro trees
    induction trees with
    | nil => exact fun q ok _ => ok
    | cons t trees ih =>
      exact fun q ok all => ih _ (ok.finish (all t List.mem_cons_self))
        fun u mem => all u (List.mem_cons_of_mem _ mem)
  rw [Progress.accept]
  refine fold _ _ ok1 fun t mem => ?_
  obtain ⟨trees, way, whole⟩ := List.mem_filterMap.mp mem
  obtain ⟨q, inside, listed⟩ := List.mem_flatMap.mp way
  obtain ⟨path, reached, ends, rfl⟩ := recorded_popAll _ _ q inside trees listed
  have top := (p.version_push_self v (some lookahead) 1 ‹_›).1
  rw [top] at reached
  have isNew : p.stack.size < (p.push v (some lookahead) 1).stack.size := by
    rw [Progress.push_stack, Array.size_push]
    exact Nat.lt_succ_self _
  have down := ok1.stack.wayDown isNew reached
  exact finishedOk_wholeTree whole down.wellFormed (ways path reached ends)

/-- **The end of a parse** preserves the invariant.  A version in no error has proper trees only
below it, so whatever way down is taken, no error hides. -/
theorem accept (ok : ProgressOk text p) {v : Nat} {lookahead : SyntaxTree} (active : p.Active v)
    (token : TokenOk text lookahead) (isToken : lookahead.symbol < Symbol.tokenCount)
    (noError : p.state v ≠ 0) : ProgressOk text (p.accept v lookahead) := by
  have proper := proper_of_token isToken
  have fits : Fits text (p.state v) lookahead 1 :=
    ⟨⟨token.wellFormed, fun _ => proper, .of_eq_zero (by decide)⟩, fun _ => ⟨noError, proper⟩⟩
  refine accept_of_ways (ok.halt v) active.inside token isToken fun path reached _ => ?_
  have live := fits.soundBelow (ok.head active)
  have passed := ((soundOver_soundBelow _).reached live reached).2
  refine rootOk_of_proper (passed ?_).2
  rw [node_push_size, state_nodeOver]
  exact Nat.one_ne_zero

/-- **The end of a parse in an error** preserves the invariant: what was skipped comes below the
error that is put on top. -/
theorem acceptError (ok : ProgressOk text p) {v : Nat} {lookahead : SyntaxTree}
    (active : p.Active v) (token : TokenOk text lookahead)
    (ends : lookahead.symbol = Symbol.endOfText) {error : SyntaxTree}
    (isError : error.symbol = Symbol.error) (notExtra : error.extra = false)
    (fits : FitsLast text (p.state v) error 1) :
    ProgressOk text ((p.push v (some error) 1).accept v lookahead) := by
  have inside := active.inside
  have ok1 := (ok.halt v).pushLast inside fits
  have isToken : lookahead.symbol < Symbol.tokenCount := by
    rw [ends]
    decide
  refine accept_of_ways ok1 (by rw [Progress.length_push]; exact inside) token isToken
    fun path reached bottom => ?_
  exact rootOk_of_suffix (Progress.suffix_of_error inside reached bottom) isError notExtra
    (token.ends ends)

end ProgressOk

end JsxDetect.Parse
