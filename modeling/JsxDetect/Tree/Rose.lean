/-!
# Ordered trees

A `Rose` is a finite ordered tree with a label at every node.

## Main Definitions

* `Rose`, `Rose.label`, `Rose.children`
* `Rose.count`: the number of nodes
-/

namespace JsxDetect

/-- A finite ordered tree. -/
inductive Rose (α : Type) where
  | node (label : α) (children : List (Rose α))

namespace Rose

variable {α : Type}

/-- The label at the root. -/
def label : Rose α → α
  | node label _ => label

/-- The trees below the root, in order. -/
def children : Rose α → List (Rose α)
  | node _ children => children

mutual
/-- The number of nodes of a tree. -/
def count : Rose α → Nat
  | node _ children => countAll children + 1

/-- The number of nodes of some trees. -/
def countAll : List (Rose α) → Nat
  | [] => 0
  | t :: ts => t.count + countAll ts
end

@[simp] theorem countAll_nil : countAll ([] : List (Rose α)) = 0 := by
  rw [countAll]

@[simp] theorem countAll_cons (t : Rose α) (ts : List (Rose α)) :
    countAll (t :: ts) = t.count + countAll ts := by
  rw [countAll]

theorem count_eq (t : Rose α) : t.count = countAll t.children + 1 := by
  cases t with
  | node label children => rw [count, Rose.children]

end Rose

end JsxDetect
