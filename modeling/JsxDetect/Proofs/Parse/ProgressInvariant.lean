import JsxDetect.Proofs.Parse.StackInvariant
import JsxDetect.Parse.Version

/-!
# The invariant of the parser's state

The invariants of the stack, with what holds of the versions and of the tree of the whole text.
All is sound below a version, unless it has ended.

Most functions of the parser change one version or add some at the end.  `Keeps` says what a
step leaves as it was; the lemmas about a step give both the invariant and this.

## Main Definitions

* `TokenOk`: what holds of a token before a version
* `VersionOk`, `ProgressOk`: the invariant
* `Keeps`: which versions a step leaves as they were

## Main Results

* `ProgressOk.push`, `ProgressOk.merge`, `ProgressOk.setVersion`

## Design Notes

**Why every lemma has two halves.**  The parser keeps its versions in a list and refers to them by
number.  A step on one version is followed by steps on others, which are then still where they were;
so a lemma that gave the invariant alone could not be used a second time.  Each lemma therefore ends
with a `Keeps`, `Merges` or `Recounts`, and these compose by `trans`.

**What is kept is little.**  A version is kept if it is on the same node and has the same status.
What it has counted since its last error may change: the parser writes such counts down while it
only compares costs, and `Recounts` is the equivalence of states up to them.

**Halted versions.**  A version that has ended keeps its place in the list until the next
comparison, but nothing is asked of what lies below it.  This is what lets the end of a text put an
error on top that breaks the invariant of the stack for the nodes above.
-/

namespace JsxDetect.Parse

open Automaton Stack

/-- What holds of a token before a version. -/
structure TokenOk (text : List Char) (t : SyntaxTree) : Prop where
  leaf : t.children = []
  damage : t.label.damage = 0
  token : t.symbol < Symbol.tokenCount ∨ t.symbol = Symbol.error
  less : t.symbol = lessThan → t.Tagged text
  stop : t.label.stop.rest <:+ text
  ends : t.symbol = Symbol.endOfText → t.extra = true

/-- What holds of a version. -/
structure VersionOk (text : List Char) (stack : Stack) (v : Version) : Prop where
  inside : v.node < stack.size
  head : v.status ≠ .halted → SoundBelow stack v.node
  paused : ∀ lookahead, v.status = .paused lookahead → TokenOk text lookahead

/-- What holds of a tree of the whole text. -/
structure FinishedOk (text : List Char) (t : SyntaxTree) : Prop where
  grounded : t.Grounded text
  honest : t.Everywhere SyntaxTree.Honest
  proper : t.Proper

/-- The invariant of the parser's state. -/
structure ProgressOk (text : List Char) (p : Progress) : Prop where
  stack : StackOk text p.stack
  versions : ∀ v ∈ p.versions, VersionOk text p.stack v
  finished : ∀ t, p.finished = some t → FinishedOk text t

/-- A stack has the nodes of another one, in the same states, and perhaps more.  What was sound
below a node is still so. -/
structure Grows (stack stack' : Stack) : Prop where
  size : stack.size ≤ stack'.size
  state : ∀ i, i < stack.size → (stack'.node i).state = (stack.node i).state
  sound : ∀ i, SoundBelow stack i → SoundBelow stack' i

/-- Two versions go on from the same node and stand in the same way. -/
structure SameHead (v v' : Version) : Prop where
  node : v'.node = v.node
  status : v'.status = v.status

/-- A step leaves the versions that `kept` tells as they were. -/
structure Keeps (kept : Nat → Prop) (p q : Progress) : Prop where
  stack : Grows p.stack q.stack
  inside : ∀ v, kept v → v < p.versions.length → v < q.versions.length
  heads : ∀ v, kept v → v < p.versions.length → SameHead (p.version v) (q.version v)

namespace Progress

/-- The version goes on. -/
def Active (p : Progress) (v : Nat) : Prop := (p.version v).status.isActive = true

end Progress

variable {text : List Char}

/-! ### Growing stacks -/

theorem Grows.refl (stack : Stack) : Grows stack stack :=
  ⟨Nat.le_refl _, fun _ _ => rfl, fun _ => id⟩

theorem Grows.trans {a b c : Stack} (one : Grows a b) (two : Grows b c) : Grows a c :=
  ⟨Nat.le_trans one.size two.size,
    fun i inside => (two.state i (Nat.lt_of_lt_of_le inside one.size)).trans (one.state i inside),
    fun i sound => two.sound i (one.sound i sound)⟩

theorem Grows.of_sameShape {stack stack' : Stack} (shape : SameShape stack stack')
    (sound : SoundOver (SoundBelow stack) stack') : Grows stack stack' :=
  ⟨Nat.le_of_eq shape.size.symm, fun i _ => shape.state i, fun _ below => ⟨_, below, sound⟩⟩

theorem Grows.push (stack : Stack) (n : StackNode) : Grows stack (Array.push stack n) where
  size := by rw [Array.size_push]; exact Nat.le_succ _
  state i inside := by rw [node_push_of_lt n inside]
  sound _ below := ⟨_, below, (soundOver_soundBelow stack).grow n⟩

theorem SameHead.refl (v : Version) : SameHead v v := ⟨rfl, rfl⟩

theorem SameHead.trans {a b c : Version} (one : SameHead a b) (two : SameHead b c) :
    SameHead a c :=
  ⟨two.node.trans one.node, two.status.trans one.status⟩

theorem VersionOk.grows {stack stack' : Stack} {v : Version} (ok : VersionOk text stack v)
    (grows : Grows stack stack') : VersionOk text stack' v :=
  ⟨Nat.lt_of_lt_of_le ok.inside grows.size,
    fun notHalted => grows.sound _ (ok.head notHalted), ok.paused⟩

theorem VersionOk.sameHead {stack : Stack} {v v' : Version} (ok : VersionOk text stack v)
    (same : SameHead v v') : VersionOk text stack v' where
  inside := by rw [same.node]; exact ok.inside
  head := by rw [same.node, same.status]; exact ok.head
  paused := by rw [same.status]; exact ok.paused

namespace Keeps

variable {kept kept' : Nat → Prop} {p q r : Progress}

theorem refl (kept : Nat → Prop) (p : Progress) : Keeps kept p p :=
  ⟨.refl _, fun _ _ => id, fun _ _ _ => .refl _⟩

theorem trans (one : Keeps kept p q) (two : Keeps kept q r) : Keeps kept p r :=
  ⟨one.stack.trans two.stack, fun v k inside => two.inside v k (one.inside v k inside),
    fun v k inside => (one.heads v k inside).trans (two.heads v k (one.inside v k inside))⟩

theorem mono (keeps : Keeps kept p q) (fewer : ∀ v, kept' v → kept v) : Keeps kept' p q :=
  ⟨keeps.stack, fun v k => keeps.inside v (fewer v k), fun v k => keeps.heads v (fewer v k)⟩

theorem active (keeps : Keeps kept p q) {v : Nat} (k : kept v) (inside : v < p.versions.length)
    (active : p.Active v) : q.Active v := by
  rw [Progress.Active, (keeps.heads v k inside).status]
  exact active

end Keeps

/-! ### Tokens -/

/-- A token is well-formed as a tree: it is a leaf, and no token is an element. -/
theorem TokenOk.wellFormed {t : SyntaxTree} (ok : TokenOk text t) : t.WellFormed text :=
  .of_leaf ok.leaf ok.damage ok.stop (SyntaxTree.not_element_of_token ok.token)

/-- A token read as a name meets what is asked of tokens as well: a name is neither the beginning of
a tag nor the end of the text. -/
theorem TokenOk.withSymbol {t : SyntaxTree} (ok : TokenOk text t) :
    TokenOk text (t.withSymbol Symbol.identifier) := by
  cases t with
  | node info children =>
    have token : Symbol.identifier < Symbol.tokenCount := by decide
    have noTag : Symbol.identifier ≠ lessThan := by decide
    have noEnd : Symbol.identifier ≠ Symbol.endOfText := by decide
    exact ⟨ok.leaf, ok.damage, .inl token, fun same => absurd same noTag, ok.stop,
      fun same => absurd same noEnd⟩

namespace Progress

/-! ### Versions -/

/-- A number behind the last version stands for a halted version on no node, so that reading it
needs no bound. -/
theorem version_eq_default {p : Progress} {v : Nat} (outside : p.versions.length ≤ v) :
    p.version v = default := by
  rw [version, List.getD_eq_getElem?_getD, List.getElem?_eq_none outside]
  rfl

theorem Active.inside {p : Progress} {v : Nat} (active : p.Active v) :
    v < p.versions.length := by
  rcases Nat.lt_or_ge v p.versions.length with inside | outside
  · exact inside
  · rw [Active, version_eq_default outside] at active
    cases active

theorem version_eq_getElem {p : Progress} {v : Nat} (inside : v < p.versions.length) :
    p.version v = p.versions[v] := by
  rw [version, List.getD_eq_getElem?_getD, List.getElem?_eq_getElem inside, Option.getD_some]

theorem version_mem {p : Progress} {v : Nat} (inside : v < p.versions.length) :
    p.version v ∈ p.versions := by
  rw [version_eq_getElem inside]
  exact List.getElem_mem inside

/-- Reading a version after one was changed: the new one at its own number, the old ones elsewhere.
-/
theorem version_setVersion {p : Progress} {v w : Nat} {new : Version} :
    (p.setVersion v new).version w =
      if v = w ∧ v < p.versions.length then new else p.version w := by
  simp only [version, setVersion, List.getD_eq_getElem?_getD, List.getElem?_set]
  split
  · next same =>
    subst same
    split
    · next inside => rw [if_pos ⟨rfl, inside⟩]; rfl
    · next outside =>
      rw [if_neg (fun both => outside both.2), List.getElem?_eq_none (Nat.not_lt.mp outside)]
  · next other => rw [if_neg fun both => other both.1]

theorem length_setVersion (p : Progress) (v : Nat) (new : Version) :
    (p.setVersion v new).versions.length = p.versions.length := List.length_set ..

section

variable {stack : Stack} {versions : List Version} {new : Version} {finished : Option SyntaxTree}
  {accepted : Nat}

theorem version_append_of_lt {w : Nat} (early : w < versions.length) :
    (⟨stack, versions ++ [new], finished, accepted⟩ : Progress).version w =
      versions.getD w default := by
  rw [version, List.getD_eq_getElem?_getD, List.getElem?_append_left early,
    ← List.getD_eq_getElem?_getD]

theorem version_append_self :
    (⟨stack, versions ++ [new], finished, accepted⟩ : Progress).version versions.length = new := by
  rw [version, List.getD_eq_getElem?_getD, List.getElem?_append_right (Nat.le_refl _),
    Nat.sub_self]
  rfl

end

section

variable (p : Progress) (new : Version)

theorem version_add_of_lt {w : Nat} (early : w < p.versions.length) :
    (p.add new).version w = p.version w :=
  version_append_of_lt early

theorem version_add_self : (p.add new).version p.versions.length = new := version_append_self

theorem length_add : (p.add new).versions.length = p.versions.length + 1 := List.length_append

/-- Adding a version at the end keeps all the others. -/
theorem keeps_add : Keeps (· < p.versions.length) p (p.add new) where
  stack := .refl _
  inside w _ inside := by
    rw [length_add]
    exact Nat.lt_succ_of_lt inside
  heads w early _ := by
    rw [version_add_of_lt p new early]
    exact .refl _

/-- Changing the version that was added last. -/
theorem setVersion_add (other : Version) :
    (p.add new).setVersion p.versions.length other = p.add other := by
  rw [add, setVersion, add]
  dsimp only
  rw [List.set_append_right _ _ (Nat.le_refl _), Nat.sub_self]
  rfl

end

end Progress

open Progress

namespace ProgressOk

variable {p : Progress} (ok : ProgressOk text p)

include ok

/-- The version with any number is as the invariant says, if there is one or not. -/
theorem version (v : Nat) : VersionOk text p.stack (p.version v) := by
  rcases Nat.lt_or_ge v p.versions.length with inside | outside
  · exact ok.versions _ (version_mem inside)
  · rw [version_eq_default outside]
    exact ⟨ok.stack.fresh, fun notHalted => absurd rfl notHalted, fun lookahead same => by cases same⟩

theorem head {v : Nat} (active : p.Active v) : SoundBelow p.stack (p.version v).node := by
  refine (ok.version v).head fun halted => ?_
  rw [Active, halted] at active
  cases active

/-- The list of versions may be exchanged for another one, each version of which is as the invariant
says: this covers reordering, dropping and changing versions. -/
theorem withVersions {versions : List Version}
    (all : ∀ v ∈ versions, VersionOk text p.stack v) :
    ProgressOk text { p with versions } :=
  ⟨ok.stack, all, ok.finished⟩

theorem setVersion {v : Nat} {new : Version} (newOk : VersionOk text p.stack new) :
    ProgressOk text (p.setVersion v new) := by
  refine ok.withVersions fun u mem => ?_
  rcases List.mem_or_eq_of_mem_set mem with old | rfl
  · exact ok.versions u old
  · exact newOk

theorem remove (v : Nat) : ProgressOk text (p.remove v) :=
  ok.withVersions fun u mem => ok.versions u (List.mem_of_mem_eraseIdx mem)

theorem add {new : Version} (newOk : VersionOk text p.stack new) :
    ProgressOk text (p.add new) := by
  refine ok.withVersions fun u mem => ?_
  rcases List.mem_append.mp mem with old | last
  · exact ok.versions u old
  · rw [List.mem_singleton.mp last]
    exact newOk

theorem halt (v : Nat) : ProgressOk text (p.halt v) := by
  have version := ok.version v
  exact ok.setVersion ⟨version.inside, fun notHalted => absurd rfl notHalted,
    fun lookahead same => by cases same⟩

/-- A version may go on as a later one does.  Only the order of the versions, and which of them
there are, changes. -/
theorem replace (v w : Nat) : ProgressOk text (p.replace v w) := by
  rw [Progress.replace]
  split
  · exact ok
  · have version := ok.version w
    dsimp only
    refine ProgressOk.remove (ok.setVersion ?_) w
    exact ⟨version.inside, version.head, version.paused⟩

end ProgressOk

/-! ### Steps that only count -/

/-- A step changes nothing but what versions have counted. -/
structure Recounts (p q : Progress) : Prop where
  stack : q.stack = p.stack
  finished : q.finished = p.finished
  length : q.versions.length = p.versions.length
  heads : ∀ v, SameHead (p.version v) (q.version v)

namespace Recounts

variable {p q r : Progress}

theorem refl (p : Progress) : Recounts p p := ⟨rfl, rfl, rfl, fun _ => .refl _⟩

theorem trans (one : Recounts p q) (two : Recounts q r) : Recounts p r :=
  ⟨two.stack.trans one.stack, two.finished.trans one.finished, two.length.trans one.length,
    fun v => (one.heads v).trans (two.heads v)⟩

theorem ok (recounts : Recounts p q) (ok : ProgressOk text p) :
    ProgressOk text q := by
  refine ⟨by rw [recounts.stack]; exact ok.stack, fun u mem => ?_,
    by rw [recounts.finished]; exact ok.finished⟩
  obtain ⟨v, inside, rfl⟩ := List.mem_iff_getElem.mp mem
  rw [recounts.stack, ← version_eq_getElem inside]
  exact (ok.version v).sameHead (recounts.heads v)

theorem keeps (recounts : Recounts p q) (kept : Nat → Prop) : Keeps kept p q :=
  ⟨by rw [recounts.stack]; exact .refl _, fun v _ inside => by rw [recounts.length]; exact inside,
    fun v _ _ => recounts.heads v⟩

theorem active (recounts : Recounts p q) {v : Nat} (active : p.Active v) : q.Active v := by
  rw [Active, (recounts.heads v).status]
  exact active

theorem setVersion {v : Nat} {new : Version} (same : SameHead (p.version v) new) :
    Recounts p (p.setVersion v new) := by
  refine ⟨rfl, rfl, length_setVersion .., fun w => ?_⟩
  rw [version_setVersion]
  split
  · next both => rw [← both.1]; exact same
  · exact .refl _

/-- Counting the nodes since the last error writes the count down in the version, and changes
nothing else. -/
theorem countSinceError (p : Progress) (v : Nat) : Recounts p (p.countSinceError v).2 := by
  rw [Progress.countSinceError]
  split
  · exact .setVersion ⟨rfl, rfl⟩
  · exact .refl _

theorem standing (p : Progress) (v : Nat) : Recounts p (p.standing v).2 := countSinceError p v

/-- Looking for a better version among some others asks each of them for its standing, and stops at
the first that is better. -/
theorem betterAmong (p : Progress) (v : Nat) (own : Standing) (others : List Nat) :
    Recounts p (p.betterAmong v own others).2 := by
  induction others generalizing p with
  | nil => exact .refl _
  | cons w ws ih =>
    rw [Progress.betterAmong]
    dsimp only
    split
    · exact ih p
    · have step := standing p w
      split
      · exact step
      · split
        · exact step
        · exact step.trans (ih _)
      · exact step.trans (ih _)

theorem betterExists (p : Progress) (v cost : Nat) : Recounts p (p.betterExists v cost).2 := by
  rw [Progress.betterExists]
  split
  · exact .refl _
  · exact (countSinceError p v).trans (betterAmong _ v _ _)

end Recounts

/-! ### Pushing -/

namespace Progress

variable (p : Progress) (v : Nat) (tree : Option SyntaxTree) (state : StateId)

theorem push_stack : (p.push v tree state).stack =
    Array.push p.stack (p.stack.nodeOver (p.version v).node tree state) := rfl

theorem length_push : (p.push v tree state).versions.length = p.versions.length :=
  List.length_set ..

theorem version_push_of_ne {w : Nat} (other : v ≠ w) :
    (p.push v tree state).version w = p.version w := by
  simp only [version, push, List.getD_eq_getElem?_getD, List.getElem?_set_ne other]

/-- A version that something was pushed on is on the new node, and stands as it did. -/
theorem version_push_self (inside : v < p.versions.length) :
    ((p.push v tree state).version v).node = p.stack.size ∧
      ((p.push v tree state).version v).status = (p.version v).status := by
  simp only [version, push, List.getD_eq_getElem?_getD, List.getElem?_set_self inside,
    Option.getD_some]
  exact ⟨trivial, trivial⟩

theorem state_push_self (inside : v < p.versions.length) :
    (p.push v tree state).state v = state := by
  rw [Progress.state, top, (version_push_self p v tree state inside).1, push_stack,
    node_push_size]
  cases tree <;> rfl

theorem active_push {w : Nat} (active : p.Active w) : (p.push v tree state).Active w := by
  by_cases same : v = w
  · subst same
    rw [Active, (version_push_self p v tree state active.inside).2]
    exact active
  · rw [Active, version_push_of_ne p v tree state same]
    exact active

theorem keeps_push : Keeps (fun w => w ≠ v) p (p.push v tree state) where
  stack := .push _ _
  inside w _ inside := by rw [length_push]; exact inside
  heads w other _ := by
    rw [version_push_of_ne p v tree state (Ne.symm other)]
    exact .refl _

end Progress

/-- What a tree that is pushed on a node in a state has to be like, if nothing is ever put on the
new node. -/
structure FitsLast (text : List Char) (below : StateId) (t : SyntaxTree) (state : StateId) :
    Prop where
  wellFormed : t.WellFormed text
  extra : t.extra = true → t.Proper
  way : WayOver text below t state

/-- What a tree that is pushed on a node in a state has to be like. -/
structure Fits (text : List Char) (below : StateId) (t : SyntaxTree) (state : StateId) : Prop
    extends FitsLast text below t state where
  sound : state ≠ 0 → below ≠ 0 ∧ t.Proper

/-- **Pushing a tree** on a node below which all is sound: so it is below the new node, if the state
is one of an error or the tree is proper. -/
theorem soundBelow_push {stack : Stack} {below : Nat} {tree : Option SyntaxTree} {state : StateId}
    (live : SoundBelow stack below)
    (sound : state ≠ 0 → (stack.node below).state ≠ 0 ∧ ∀ t, tree = some t → t.Proper) :
    SoundBelow (Array.push stack (stack.nodeOver below tree state)) stack.size :=
  ⟨_, .inl rfl, (soundOver_soundBelow stack).push live sound⟩

theorem Fits.soundBelow {stack : Stack} {below : Nat} {t : SyntaxTree} {state : StateId}
    (fits : Fits text (stack.node below).state t state) (live : SoundBelow stack below) :
    SoundBelow (Array.push stack (stack.nodeOver below (some t) state)) stack.size :=
  soundBelow_push live fun noError => ⟨(fits.sound noError).1, fun _ same =>
    Option.some.inj same ▸ (fits.sound noError).2⟩

/-- A tree that fits last keeps the invariant of links.  It may be unsound, as nothing is ever put
on its node. -/
theorem FitsLast.stack {stack : Stack} {below : Nat} {t : SyntaxTree} {state : StateId}
    (fits : FitsLast text (stack.node below).state t state) (ok : StackOk text stack)
    (inside : below < stack.size) :
    StackOk text (Array.push stack (stack.nodeOver below (some t) state)) := by
  refine ok.push inside nofun ?_ ?_ ?_
  · rintro t ⟨⟩
    exact fits.wellFormed
  · rintro t ⟨⟩
    exact fits.extra
  · rintro t ⟨⟩
    exact fits.way

namespace ProgressOk

variable {p : Progress} (ok : ProgressOk text p)

include ok

/-- A version on a new node, while the others stay as they are.  What is asked of the new node is
asked only if the version still goes on. -/
theorem onTop {v : Nat} {tree : Option SyntaxTree} {state : StateId}
    (stack : StackOk text (p.push v tree state).stack)
    (live : (p.version v).status ≠ .halted → SoundBelow (p.push v tree state).stack p.stack.size) :
    ProgressOk text (p.push v tree state) := by
  refine ⟨stack, fun u mem => ?_, ok.finished⟩
  rcases List.mem_or_eq_of_mem_set mem with old | rfl
  · exact (ok.versions u old).grows (.push _ _)
  · refine ⟨?_, live, (ok.version v).paused⟩
    rw [push_stack, Array.size_push]
    exact Nat.lt_succ_self _

/-- **Pushing a tree** that fits preserves the invariant of the parser's state.  All that is known
of other versions is known of a stack that grows. -/
theorem push {v : Nat} {t : SyntaxTree} {state : StateId}
    (fits : Fits text (p.state v) t state) : ProgressOk text (p.push v (some t) state) :=
  ok.onTop (fits.stack ok.stack (ok.version v).inside)
    fun notHalted => fits.soundBelow ((ok.version v).head notHalted)

/-- **Beginning an error** preserves the invariant: a link without a tree leads to the state of
errors, in which nothing is asked. -/
theorem pushNone (v : Nat) : ProgressOk text (p.push v none 0) := by
  refine ok.onTop (ok.stack.push (ok.version v).inside (fun _ => rfl) nofun nofun nofun)
    fun notHalted => ?_
  exact soundBelow_push ((ok.version v).head notHalted) fun noError => absurd rfl noError

end ProgressOk

/-! ### Joining -/

/-- What joining version `w` to version `v` does to the list of versions. -/
structure Merges (p : Progress) (v w : Nat) (q : Progress) : Prop where
  active : p.Active v ∧ p.Active w
  stack : Grows p.stack q.stack
  length : q.versions.length + 1 = p.versions.length
  heads : ∀ u, SameHead (p.version (if u < w then u else u + 1)) (q.version u)

theorem version_eraseIdx (stack : Stack) {versions : List Version} {finished : Option SyntaxTree}
    {accepted w u : Nat} :
    (Progress.mk stack (versions.eraseIdx w) finished accepted).version u =
      (Progress.mk stack versions finished accepted).version (if u < w then u else u + 1) := by
  simp only [Progress.version, List.getD_eq_getElem?_getD, List.getElem?_eraseIdx]
  split <;> rfl

/-- **Joining two versions** preserves the invariant.  The links of the second node are added to the
first one, which by the comparison is in the same state at the same place. -/
theorem ProgressOk.merge {p q : Progress} (ok : ProgressOk text p) {v w : Nat}
    (merged : p.merge v w = some q) : ProgressOk text q ∧ Merges p v w q := by
  rw [Progress.merge] at merged
  split at merged
  · next can =>
    obtain ⟨stack, versions, finished, accepted⟩ := p
    rw [Progress.canMerge, Bool.and_eq_true, Bool.and_eq_true] at can
    obtain ⟨⟨activeV, activeW⟩, joins⟩ := can
    have state := (joins_iff joins).1
    have active : (Progress.mk stack versions finished accepted).Active w := activeW
    have headV := ok.head activeV
    have headW := ok.head activeW
    have sound := soundOver_soundBelow stack
    -- The links of the one node suit the other, which is in the same state.
    obtain ⟨⟨stackOk, soundAfter⟩, shape⟩ := StackOk.foldl_links (Stack.addLink (stack.size + 1))
      (fun ok sound fits => ok.addLink sound _ headV fits) ok.stack sound fun l mem =>
        ⟨(ok.stack.links _ (ok.version w).inside l mem).of_joins state,
          (sound.links _ headW l mem).1, (sound.links _ headW l mem).2.of_joins state⟩
    have grows := Grows.of_sameShape shape soundAfter
    dsimp only at merged
    -- The version that stays may have its nodes counted anew, and nothing else of it changes.
    have counted : ∀ versions', (versions' = versions ∨ ∃ count,
        versions' = versions.set v { versions.getD v default with countAtError := count }) →
        (∀ u ∈ versions', VersionOk text stack u) ∧ versions'.length = versions.length ∧
          ∀ u, SameHead ((Progress.mk stack versions finished accepted).version u)
            ((Progress.mk stack versions' finished accepted).version u) := by
      rintro versions' (rfl | ⟨count, rfl⟩)
      · exact ⟨ok.versions, rfl, fun _ => .refl _⟩
      · have recounts : Recounts ⟨stack, versions, finished, accepted⟩
            ⟨stack, versions.set v { versions.getD v default with countAtError := count },
              finished, accepted⟩ :=
          .setVersion (p := ⟨stack, versions, finished, accepted⟩) ⟨rfl, rfl⟩
        exact ⟨(recounts.ok ok).versions, recounts.length, recounts.heads⟩
    generalize chosen : (if _ = 0 then _ else versions) = versions' at merged
    have either : versions' = versions ∨ ∃ count,
        versions' = versions.set v { versions.getD v default with countAtError := count } := by
      rw [← chosen]
      split
      · exact .inr ⟨_, rfl⟩
      · exact .inl rfl
    obtain ⟨all, length, heads⟩ := counted versions' either
    cases merged
    have inside : w < versions'.length := by
      rw [length]
      exact active.inside
    refine ⟨⟨stackOk, fun u mem => ?_, ok.finished⟩, ⟨activeV, activeW⟩, grows, ?_, fun u => ?_⟩
    · exact (all u (List.mem_of_mem_eraseIdx mem)).grows grows
    · rw [List.length_eraseIdx, if_pos inside, ← length]
      exact Nat.sub_add_cancel (Nat.one_le_of_lt inside)
    · rw [version_eraseIdx]
      exact heads _
  · cases merged

/-- Joining a version to the first of several that it can be joined to.  Which one it was is not
told, only that it is among them. -/
theorem ProgressOk.mergeInto {p q : Progress} (ok : ProgressOk text p) {w : Nat}
    {vs : List Nat} (merged : p.mergeInto w vs = some q) :
    ProgressOk text q ∧ ∃ v ∈ vs, Merges p v w q := by
  induction vs with
  | nil => cases merged
  | cons v vs ih =>
    rw [Progress.mergeInto] at merged
    split at merged
    · next q' once =>
      cases merged
      obtain ⟨okay, merges⟩ := ok.merge once
      exact ⟨okay, v, List.mem_cons_self, merges⟩
    · obtain ⟨okay, v', mem, merges⟩ := ih merged
      exact ⟨okay, v', List.mem_cons_of_mem _ mem, merges⟩

namespace Merges

variable {p q : Progress} {v w : Nat} (merges : Merges p v w q)

include merges

/-- The versions before the one that is joined stay as they are. -/
theorem keeps : Keeps (fun u => u < w) p q where
  stack := merges.stack
  inside u lower inside := by
    have length := merges.length
    have last := merges.active.2.inside
    omega
  heads u lower _ := by
    have head := merges.heads u
    rwa [if_pos lower] at head

/-- The versions after it move up. -/
theorem active_of_later {u : Nat} (later : w ≤ u) (active : p.Active (u + 1)) : q.Active u := by
  have head := merges.heads u
  rw [if_neg (Nat.not_lt.mpr later)] at head
  rw [Active, head.status]
  exact active

end Merges

end JsxDetect.Parse
