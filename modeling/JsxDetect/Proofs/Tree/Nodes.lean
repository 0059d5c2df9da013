import JsxDetect.Detection

/-!
# The nodes of a tree

The labels of a tree are listed from the top down and from left to right.  What holds of every
subtree is stated with `Rose.Everywhere`.

## Main Definitions

* `Rose.nodes`: the labels, from the top down and from left to right
* `Rose.Everywhere`: something holds of every subtree
* `SyntaxTree.jsxKind`: the kind of JSX that a node is

## Main Results

* `Rose.Everywhere.of_mem_nodes`: a label of the tree is that of a subtree, of which the same holds

## Design Notes

Trees have lists of children, so functions on them are defined with one on lists beside it, and the
equations `nodes_eq`, `nodesOfAll_nil` and `nodesOfAll_cons` are how they are opened later.
`Everywhere` is an inductive predicate and not a statement about all nodes, since what holds of a
subtree may speak of its children, of which a label says nothing.
-/

namespace JsxDetect

namespace Rose

variable {α β : Type}

mutual
/-- The labels of a tree, from the top down and from left to right. -/
def nodes : Rose α → List α
  | node label children => label :: nodesOfAll children

/-- The labels of some trees, one tree after the other. -/
def nodesOfAll : List (Rose α) → List α
  | [] => []
  | t :: ts => nodes t ++ nodesOfAll ts
end

theorem nodes_eq (t : Rose α) : t.nodes = t.label :: nodesOfAll t.children := by
  cases t with
  | node label children => rw [nodes, Rose.label, Rose.children]

@[simp] theorem nodesOfAll_nil : nodesOfAll ([] : List (Rose α)) = [] := by
  rw [nodesOfAll]

@[simp] theorem nodesOfAll_cons (t : Rose α) (ts : List (Rose α)) :
    nodesOfAll (t :: ts) = t.nodes ++ nodesOfAll ts := by
  rw [nodesOfAll]

theorem nodesOfAll_append (ts us : List (Rose α)) :
    nodesOfAll (ts ++ us) = nodesOfAll ts ++ nodesOfAll us := by
  induction ts with
  | nil => rw [nodesOfAll_nil, List.nil_append, List.nil_append]
  | cons t ts ih => rw [List.cons_append, nodesOfAll_cons, nodesOfAll_cons, ih, List.append_assoc]

theorem mem_nodesOfAll {a : α} {ts : List (Rose α)} :
    a ∈ nodesOfAll ts ↔ ∃ t ∈ ts, a ∈ t.nodes := by
  induction ts with
  | nil => simp
  | cons t ts ih => simp [ih]

/-- The nodes of a child are nodes of the tree. -/
theorem mem_nodes_of_child {a : α} {t c : Rose α} (child : c ∈ t.children) (mem : a ∈ c.nodes) :
    a ∈ t.nodes := by
  rw [nodes_eq]
  exact List.mem_cons_of_mem _ (mem_nodesOfAll.mpr ⟨c, child, mem⟩)

theorem mem_nodes_iff {a : α} {t : Rose α} :
    a ∈ t.nodes ↔ a = t.label ∨ ∃ c ∈ t.children, a ∈ c.nodes := by
  rw [nodes_eq, List.mem_cons, mem_nodesOfAll]

/-- Something holds of a tree and of everything below it. -/
inductive Everywhere (P : Rose α → Prop) : Rose α → Prop
  | node {t : Rose α} (here : P t) (below : ∀ c ∈ t.children, Everywhere P c) : Everywhere P t

theorem Everywhere.here {P : Rose α → Prop} {t : Rose α} (all : t.Everywhere P) : P t := by
  cases all with
  | node here below => exact here

theorem Everywhere.children {P : Rose α → Prop} {t : Rose α} (all : t.Everywhere P) :
    ∀ c ∈ t.children, c.Everywhere P := by
  cases all with
  | node here below => exact below

theorem Everywhere.mono {P Q : Rose α → Prop} {t : Rose α} (all : t.Everywhere P)
    (weaker : ∀ u, P u → Q u) : t.Everywhere Q := by
  induction all with
  | node here _ ih => exact .node (weaker _ here) ih

/-- A label of a tree is the label of a subtree, of which the same holds. -/
theorem Everywhere.of_mem_nodes {P : Rose α → Prop} {t : Rose α} (all : t.Everywhere P) {a : α}
    (mem : a ∈ t.nodes) : ∃ u : Rose α, u.label = a ∧ P u ∧ ∀ b ∈ u.nodes, b ∈ t.nodes := by
  induction all with
  | @node t here below ih =>
    rcases mem_nodes_iff.mp mem with rfl | ⟨c, child, inside⟩
    · exact ⟨t, rfl, here, fun _ => id⟩
    · obtain ⟨u, label, holds, within⟩ := ih c child inside
      exact ⟨u, label, holds, fun b mem => mem_nodes_of_child child (within b mem)⟩

end Rose

/-! ### Syntax trees -/

namespace SyntaxTree

/-- The kind of JSX that a node is. -/
def jsxKind (info : SyntaxInfo) : Option JsxKind := JsxKind.ofNodeKind? info.symbol.name

end SyntaxTree

end JsxDetect
