import JsxDetect.Tree.Rose

/-!
# Searching a tree

A `Location` is a place in a tree that can be moved: to the first child, to the next sibling,
to the parent.  `Rose.findFirst?` walks over a tree with one location, without recursion into
the tree, and so visits its nodes from the top down and from left to right.  The walk ends as
every move leaves fewer nodes to come.

## Main Definitions

* `Location`, `Location.firstChild?`, `Location.nextSibling?`, `Location.parent?`
* `Location.leave?`: the next place that is not below this one
* `Location.remaining`: how many nodes are still to come
* `Rose.findFirst?`: the first node that answers a question

## Main Results

* `Location.remaining_advance`: each step of the walk uses up one node

## Design Notes

The walk keeps a place in the tree and not a stack of what is still to do, as the cursor of a syntax
tree does.  Whether it ends is then not seen from the code: it moves down, on and up.
`Location.remaining` counts the nodes still to come, from the later siblings at each level, and each
step uses up one of them.
-/

namespace JsxDetect

/-- A place in a tree. -/
structure Location (α : Type) where
  /-- The tree at this place. -/
  here : Rose α
  /-- Its later siblings. -/
  later : List (Rose α)
  /-- The trees it lies in, the innermost first, each with its later siblings. -/
  above : List (Rose α × List (Rose α))

namespace Location

variable {α : Type}

/-- The root of a tree. -/
def root (tree : Rose α) : Location α := ⟨tree, [], []⟩

/-- The first child. -/
def firstChild? (l : Location α) : Option (Location α) :=
  match l.here.children with
  | [] => none
  | child :: later => some ⟨child, later, (l.here, l.later) :: l.above⟩

/-- The next sibling. -/
def nextSibling? (l : Location α) : Option (Location α) :=
  match l.later with
  | [] => none
  | sibling :: later => some ⟨sibling, later, l.above⟩

/-- The parent. -/
def parent? (l : Location α) : Option (Location α) :=
  match l.above with
  | [] => none
  | (tree, later) :: above => some ⟨tree, later, above⟩

theorem length_above_parent {l parent : Location α} (up : l.parent? = some parent) :
    parent.above.length < l.above.length := by
  rw [parent?] at up
  split at up
  · cases up
  · next above =>
    cases up
    rw [above]
    exact Nat.lt_succ_self _

/-- The next place that is not below this one: goes up until there is a next sibling. -/
def leave? (l : Location α) : Option (Location α) :=
  match l.nextSibling? with
  | some sibling => some sibling
  | none =>
    match _up : l.parent? with
    | some parent => leave? parent
    | none => none
termination_by l.above.length
decreasing_by exact length_above_parent _up

/-- The place that comes next from the top down and from left to right. -/
def advance? (l : Location α) : Option (Location α) :=
  match l.firstChild? with
  | some child => some child
  | none => l.leave?

/-! ### The end of the walk -/

/-- How many nodes there are behind the trees that a place lies in. -/
def remainingAbove : List (Rose α × List (Rose α)) → Nat
  | [] => 0
  | (_, later) :: above => Rose.countAll later + remainingAbove above

/-- How many nodes there are from a place on, this one included. -/
def remaining (l : Location α) : Nat :=
  l.here.count + Rose.countAll l.later + remainingAbove l.above

theorem remaining_leave {l next : Location α} (moved : l.leave? = some next) :
    next.remaining = Rose.countAll l.later + remainingAbove l.above := by
  fun_induction leave? l with
  | case1 l sibling toSibling =>
    cases moved
    rw [nextSibling?] at toSibling
    split at toSibling
    · cases toSibling
    · next later =>
      cases toSibling
      rw [later, Rose.countAll_cons]
      rfl
  | case2 l noSibling parent up ih =>
    have last : l.later = [] := by
      rw [nextSibling?] at noSibling
      split at noSibling
      · assumption
      · cases noSibling
    rw [ih moved]
    rw [parent?] at up
    split at up
    · cases up
    · next above =>
      cases up
      rw [last, above, Rose.countAll_nil, Nat.zero_add]
      rfl
  | case3 => cases moved

/-- **The walk ends**: each step leaves one node less. -/
theorem remaining_advance {l next : Location α} (moved : l.advance? = some next) :
    next.remaining + 1 = l.remaining := by
  have whole : l.remaining = Rose.countAll l.here.children + 1 + Rose.countAll l.later +
      remainingAbove l.above := by
    rw [remaining, Rose.count_eq]
  rw [advance?, firstChild?] at moved
  split at moved
  · next child toChild =>
    cases moved
    split at toChild
    · cases toChild
    · next children =>
      cases toChild
      rw [whole, children, Rose.countAll_cons]
      simp only [remaining, remainingAbove]
      omega
  · next noChild =>
    split at noChild
    · next leaf =>
      rw [whole, remaining_leave moved, leaf, Rose.countAll_nil]
      omega
    · cases noChild

/-! ### The walk -/

/-- The first answer from this place on. -/
def search {β : Type} (answer : α → Option β) (l : Location α) : Option β :=
  match answer l.here.label with
  | some b => some b
  | none =>
    match _moved : l.advance? with
    | some next => search answer next
    | none => none
termination_by l.remaining
decreasing_by exact Nat.lt_of_succ_le (Nat.le_of_eq (remaining_advance _moved))

end Location

/-- The first answer that a node of the tree gives, from the top down and from left to right. -/
def Rose.findFirst? {α β : Type} (answer : α → Option β) (tree : Rose α) : Option β :=
  (Location.root tree).search answer

end JsxDetect
