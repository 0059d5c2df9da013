import JsxDetect.Parse.Stack

/-!
# Ways down a stack

Whatever `Stack.walk` records is a way down from where it started: a chain of links, each taken
from a node that the walk did not leave.  The questions the parser asks are special cases, so
one lemma about the walk serves them all.

## Main Definitions

* `Stack.Reached`: a way down, as a chain of links
* `Stack.Recorded`: a list of ways down that were taken

## Main Results

* `Stack.recorded_walk`: a walk records ways down only
* `Stack.Reached.first`, `Stack.Reached.suffix`: how a way down begins
* `Stack.recorded_pop`, `Stack.recorded_popAll`, `Stack.recorded_popError`: what is recorded
  over a number of trees, down to the bottom, and over an error

## Design Notes

**One walk, four questions.**  The parser walks down a stack to pop trees, to find an error, to
reach the bottom, and to note the states that it could return to.  In the model these are one
function, `Stack.walk`, with the question as an argument, and so there is one induction here.  A
question may carry a state of its own; as the order of the walk is of no interest, `Stays` and
`Takes` ask only whether there is some state in which it answers so.

**Soundness, not completeness.**  A walk gives up when there are too many ways, so that it does not
find all of them.  The invariant needs only that what it finds is there; where a proof needs that
something is found, the stack has one way down (`Pile`) or a first one that is followed.
-/

namespace JsxDetect.Parse.Stack

variable {stack : Stack}

/-- A way down over links of nodes at which the walk `stays`. -/
inductive Reached (stack : Stack) (stays : Path → Prop) (start : Path) : Path → Prop
  | start : Reached stack stays start start
  | above {p : Path} {link : Link} (before : Reached stack stays start p) (stay : stays p)
      (mem : link ∈ (stack.node p.node).links) : Reached stack stays start (p.over link)

/-- A way down begins with one of the links of its first node, unless it ends there. -/
theorem Reached.first {stays : Path → Prop} {start p : Path} (reached : Reached stack stays start p) :
    p = start ∨ ∃ link ∈ (stack.node start.node).links,
      Reached stack stays (start.over link) p := by
  induction reached with
  | start => exact .inl rfl
  | above before stay mem ih =>
    rcases ih with rfl | ⟨link, first, reached⟩
    · exact .inr ⟨_, mem, .start⟩
    · exact .inr ⟨link, first, .above reached stay mem⟩

/-- The trees passed come in front of those that had been passed before. -/
theorem Reached.suffix {stays : Path → Prop} {start p : Path}
    (reached : Reached stack stays start p) : start.trees <:+ p.trees := by
  induction reached with
  | start => exact List.suffix_refl _
  | @above p link before stay mem ih =>
    rw [Path.over]
    cases link.tree with
    | none => exact ih
    | some t => exact ih.trans (List.suffix_cons t p.trees)

/-- Every list of trees recorded belongs to a way down that was taken. -/
def Recorded (stack : Stack) (stays takes : Path → Prop) (start : Path)
    (popped : List Popped) : Prop :=
  ∀ q ∈ popped, ∀ trees ∈ q.paths, ∃ p, Reached stack stays start p ∧ takes p ∧
    p.node = q.node ∧ p.trees = trees

/-- No node is recorded without a way. -/
def Inhabited (popped : List Popped) : Prop := ∀ q ∈ popped, q.paths ≠ []

/-- A node among those recorded was there before, or it is the one recorded now, with its trees last
among those of the same node. -/
theorem mem_record {node : Nat} {trees : List SyntaxTree} {popped : List Popped} {q : Popped}
    (mem : q ∈ record node trees popped) :
    q ∈ popped ∨ q.node = node ∧ ∃ old, q.paths = old ++ [trees] ∧
      ∀ earlier ∈ old, ∃ q' ∈ popped, q'.node = node ∧ earlier ∈ q'.paths := by
  induction popped with
  | nil =>
    obtain rfl := List.mem_singleton.mp mem
    exact .inr ⟨rfl, [], rfl, by simp⟩
  | cons p ps ih =>
    rw [record] at mem
    split at mem
    · next same =>
      rcases List.mem_cons.mp mem with rfl | later
      · exact .inr ⟨rfl, p.paths, rfl, fun earlier mem => ⟨p, List.mem_cons_self, same, mem⟩⟩
      · exact .inl (List.mem_cons_of_mem _ later)
    · rcases List.mem_cons.mp mem with rfl | later
      · exact .inl List.mem_cons_self
      · rcases ih later with known | ⟨here, old, paths, known⟩
        · exact .inl (List.mem_cons_of_mem _ known)
        · refine .inr ⟨here, old, paths, fun earlier mem => ?_⟩
          obtain ⟨q', inside, rest⟩ := known earlier mem
          exact ⟨q', List.mem_cons_of_mem _ inside, rest⟩

theorem inhabited_record {node : Nat} {trees : List SyntaxTree} {popped : List Popped}
    (inhabited : Inhabited popped) : Inhabited (record node trees popped) := by
  intro q mem
  rcases mem_record mem with known | ⟨-, old, paths, -⟩
  · exact inhabited q known
  · rw [paths]
    exact List.append_ne_nil_of_right_ne_nil _ (List.cons_ne_nil _ _)

section

variable {stays takes : Path → Prop} {start : Path}

/-- Recording a way down that is taken: all that is recorded are ways down still. -/
theorem Recorded.record {p : Path} {popped : List Popped}
    (recorded : Recorded stack stays takes start popped)
    (reached : Reached stack stays start p) (taken : takes p) :
    Recorded stack stays takes start (record p.node p.trees popped) := by
  intro q mem trees inside
  rcases mem_record mem with known | ⟨here, old, paths, known⟩
  · exact recorded q known trees inside
  · rw [paths] at inside
    rcases List.mem_append.mp inside with earlier | last
    · obtain ⟨q', mem', same, inside'⟩ := known trees earlier
      obtain ⟨p', reached', taken', node, same'⟩ := recorded q' mem' trees inside'
      exact ⟨p', reached', taken', by rw [node, same, here], same'⟩
    · rw [List.mem_singleton.mp last]
      exact ⟨p, reached, taken, here.symm, rfl⟩

/-- What a way branches into: itself over each of the links. -/
theorem mem_branch {p q : Path} {links : List Link} {total : Nat} {added : List Path}
    (mem : q ∈ branch p links total added) : q ∈ added ∨ ∃ link ∈ links, q = p.over link := by
  induction links generalizing total added with
  | nil => exact .inl mem
  | cons link links ih =>
    rw [branch] at mem
    split at mem
    · rcases ih mem with known | ⟨other, inside, same⟩
      · rcases List.mem_cons.mp known with rfl | older
        · exact .inr ⟨link, List.mem_cons_self, rfl⟩
        · exact .inl older
      · exact .inr ⟨other, List.mem_cons_of_mem _ inside, same⟩
    · rcases ih mem with known | ⟨other, inside, same⟩
      · exact .inl known
      · exact .inr ⟨other, List.mem_cons_of_mem _ inside, same⟩

end

variable {σ : Type} {visit : σ → Path → σ × Visit}

/-- The walk goes on from a way, for some state of the one who asks. -/
def Stays (visit : σ → Path → σ × Visit) (p : Path) : Prop := ∃ s, (visit s p).2.leave = false

/-- The walk records a way, for some state of the one who asks. -/
def Takes (visit : σ → Path → σ × Visit) (p : Path) : Prop := ∃ s, (visit s p).2.take = true

/-- One round of a walk.  The ways still to be looked at, those kept and those added are ways down,
and so are all that it leaves; the induction is on the first of these lists. -/
theorem round_reached {start : Path} (s : σ) (todo kept added : List Path)
    {popped : List Popped} (reached : ∀ p ∈ todo ++ kept ++ added, Reached stack (Stays visit) start p)
    (recorded : Recorded stack (Stays visit) (Takes visit) start popped)
    (inhabited : Inhabited popped) :
    (∀ p ∈ (round visit stack todo s kept added popped).2.1,
      Reached stack (Stays visit) start p) ∧
    Recorded stack (Stays visit) (Takes visit) start
      (round visit stack todo s kept added popped).2.2 ∧
    Inhabited (round visit stack todo s kept added popped).2.2 := by
  -- on the ways still to be visited; `kept` and `added` are those of the next round
  induction todo generalizing kept added s popped with
  | nil =>
    refine ⟨fun p mem => reached p ?_, recorded, inhabited⟩
    simpa [round] using mem
  | cons p todo ih =>
    have here : Reached stack (Stays visit) start p := reached p (by simp)
    have others : ∀ q ∈ todo ++ kept ++ added, Reached stack (Stays visit) start q :=
      fun q mem => reached q (by simp only [List.cons_append]; exact List.mem_cons_of_mem _ mem)
    rw [round]
    have recorded' : Recorded stack (Stays visit) (Takes visit) start
        (if (visit s p).2.take then record p.node p.trees popped else popped) := by
      split
      · next take => exact recorded.record here ⟨s, take⟩
      · exact recorded
    have inhabited' : Inhabited
        (if (visit s p).2.take then record p.node p.trees popped else popped) := by
      split
      · exact inhabited_record inhabited
      · exact inhabited
    dsimp only
    split
    · next first rest stay links =>
      refine ih _ _ _ (fun q mem => ?_) recorded' inhabited'
      have step : ∀ link ∈ (stack.node p.node).links,
          Reached stack (Stays visit) start (p.over link) := fun link mem =>
        .above here ⟨s, stay⟩ mem
      rw [links] at step
      simp only [List.mem_append, List.mem_cons] at mem
      rcases mem with (todo' | rfl | kept') | added'
      · exact others q (by simp [todo'])
      · exact step first List.mem_cons_self
      · exact others q (by simp [kept'])
      · rcases mem_branch added' with known | ⟨link, inside, rfl⟩
        · exact others q (by simp [known])
        · exact step link (List.mem_cons_of_mem _ inside)
    · exact ih _ _ _ others recorded' inhabited'

/-- **A walk records ways down only.**  The induction is on the fuel, one round for each. -/
theorem recorded_walk {start : Path} {fuel : Nat} {s : σ} {paths : List Path}
    {popped : List Popped} (reached : ∀ p ∈ paths, Reached stack (Stays visit) start p)
    (recorded : Recorded stack (Stays visit) (Takes visit) start popped)
    (inhabited : Inhabited popped) :
    Recorded stack (Stays visit) (Takes visit) start (walk visit stack fuel s paths popped).2 ∧
      Inhabited (walk visit stack fuel s paths popped).2 := by
  induction fuel generalizing s paths popped with
  | zero => exact ⟨recorded, inhabited⟩
  | succ fuel ih =>
    cases paths with
    | nil => exact ⟨recorded, inhabited⟩
    | cons p paths =>
      have next := round_reached s (p :: paths) [] [] (by simpa using reached) recorded inhabited
      have step : walk visit stack (fuel + 1) s (p :: paths) popped =
          walk visit stack fuel (round visit stack (p :: paths) s [] [] popped).1
            (round visit stack (p :: paths) s [] [] popped).2.1
            (round visit stack (p :: paths) s [] [] popped).2.2 := rfl
      rw [step]
      exact ih next.1 next.2.1 next.2.2

theorem recorded_walk_start (stack : Stack) (visit : σ → Path → σ × Visit) (s : σ)
    (start : Path) (fuel : Nat) :
    Recorded stack (Stays visit) (Takes visit) start (walk visit stack fuel s [start] []).2 ∧
      Inhabited (walk visit stack fuel s [start] []).2 := by
  refine recorded_walk (fun p mem => ?_) (by intro q mem; cases mem) (by intro q mem; cases mem)
  rw [List.mem_singleton.mp mem]
  exact .start

/-! ### The questions of the parser -/

/-- A way down from a node that goes on until `count` trees are passed. -/
abbrev Descent (stack : Stack) (index count : Nat) : Path → Prop :=
  Reached stack (fun p => p.count ≠ count) ⟨index, [], 0⟩

theorem Reached.mono {stays stays' : Path → Prop} {start p : Path}
    (weaker : ∀ q, stays q → stays' q) (reached : Reached stack stays start p) :
    Reached stack stays' start p := by
  induction reached with
  | start => exact .start
  | above before stay mem ih => exact .above ih (weaker _ stay) mem

/-- What is popped lies over `count` trees, not counting those that may stand anywhere. -/
theorem recorded_pop (stack : Stack) (index count : Nat) :
    (∀ q ∈ stack.pop index count, ∀ trees ∈ q.paths, ∃ p, Descent stack index count p ∧
      p.count = count ∧ p.node = q.node ∧ p.trees = trees) ∧
    Inhabited (stack.pop index count) := by
  obtain ⟨recorded, inhabited⟩ := recorded_walk_start stack
    (fun (_ : Unit) p => ((), ⟨p.count = count, p.count = count⟩)) () ⟨index, [], 0⟩
    (stack.size + 1)
  refine ⟨fun q mem trees inside => ?_, inhabited⟩
  obtain ⟨p, reached, ⟨_, taken⟩, node, same⟩ := recorded q mem trees inside
  refine ⟨p, reached.mono fun q stay => ?_, by simpa using taken, node, same⟩
  obtain ⟨_, stay⟩ := stay
  simpa using stay

/-- A way down to the bottom: it ends on a node without links. -/
theorem recorded_popAll (stack : Stack) (index : Nat) :
    ∀ q ∈ stack.popAll index, ∀ trees ∈ q.paths, ∃ p,
      Reached stack (fun _ => True) ⟨index, [], 0⟩ p ∧ (stack.node p.node).links = [] ∧
        p.trees = trees := by
  obtain ⟨recorded, -⟩ := recorded_walk_start stack
    (fun (_ : Unit) p => ((), ⟨(stack.node p.node).links.isEmpty, false⟩)) () ⟨index, [], 0⟩
    (stack.size + 1)
  intro q mem trees inside
  obtain ⟨p, reached, ⟨_, taken⟩, -, same⟩ := recorded q mem trees inside
  exact ⟨p, reached.mono fun _ _ => trivial, List.isEmpty_iff.mp taken, same⟩

/-- The way over an error is a link to it from the node, perhaps behind the beginnings of
others. -/
theorem recorded_popError (stack : Stack) (index : Nat) :
    (∀ q ∈ stack.popError index, ∀ trees ∈ q.paths, ∃ p,
      Reached stack (fun p => p.trees = []) ⟨index, [], 0⟩ p ∧ p.node = q.node ∧
        p.trees = trees ∧ ∃ error, trees.getLast? = some error ∧ error.symbol = Symbol.error) ∧
    Inhabited (stack.popError index) := by
  rw [popError]
  refine ⟨fun q mem trees inside => ?_, (recorded_walk_start stack _ false _ _).2⟩
  obtain ⟨p, reached, ⟨found, taken⟩, node, same⟩ :=
    (recorded_walk_start stack _ false _ _).1 q mem trees inside
  refine ⟨p, reached.mono fun q stay => ?_, node, same, ?_⟩
  · obtain ⟨found, stay⟩ := stay
    dsimp only at stay
    split at stay
    · next none => exact List.reverse_eq_nil_iff.mp none
    · split at stay
      · cases stay
      · cases stay
  · rw [← same]
    dsimp only at taken
    split at taken
    · cases taken
    · next top others reversed =>
      split at taken
      · next isError =>
        rw [Bool.and_eq_true, decide_eq_true_eq] at isError
        have last : p.trees.getLast? = some top := by
          rw [List.getLast?_eq_head?_reverse, reversed]
          rfl
        exact ⟨top, last, isError.2⟩
      · cases taken

end JsxDetect.Parse.Stack
