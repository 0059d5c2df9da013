import JsxDetect.Proofs.Tree.Nodes

/-!
# Errors in a tree

Whether a tree has an error is not looked up in the tree: a node knows the cost of what is below
it, and a tree has an error if it costs something.  This module says what makes that right.  A
node that is no error must not lie over a tree whose errors it does not count: a stretch of text
that is being skipped, or an error that costs nothing, as a token of one is.

## Main Definitions

* `SyntaxTree.Proper`: the errors of a tree are counted by a node above it
* `SyntaxTree.Honest`: what a node knows of the errors below it is right
* `SyntaxTree.Faulty`: there is an error or a missing token in the tree

## Main Results

* `SyntaxTree.hasError_iff`: a tree has an error if there is one in it
* `SyntaxTree.Honest.ofChildren`: nodes know what they have to

## Design Notes

The parser never searches a tree for errors.  It adds up costs while it builds nodes, and tokens of
an error cost nothing by themselves.  So an error in the tree is seen in the cost of the root only
if every node on the way counts it, and this is an invariant of how trees are built, `Honest`,
together with the condition that a node is proper when it is put below another.  The two directions
of `hasError_iff` are two inductions: `faulty_of_cost` goes down to where a cost comes from, and
`cost_of_faulty` goes up from the fault.
-/

namespace JsxDetect

/-- A node is an error or a missing token. -/
def SyntaxInfo.IsFault (info : SyntaxInfo) : Prop :=
  info.symbol = Symbol.error ∨ info.isMissing = true

namespace SyntaxTree

/-- A tree whose errors are counted by a node above it. -/
structure Proper (t : SyntaxTree) : Prop where
  notSkipped : t.symbol ≠ Symbol.skipped
  error : t.symbol = Symbol.error → 0 < t.cost

/-- What a node knows of the errors below it is right, and none of them escapes it. -/
structure Honest (t : SyntaxTree) : Prop where
  proper : isErrorSymbol t.symbol = false → ∀ c ∈ t.children, Proper c
  counted : ∀ c : SyntaxTree, c ∈ t.children → c.symbol ≠ Symbol.skipped → 0 < c.cost →
    0 < t.label.damage
  damaged : 0 < t.label.damage → isErrorSymbol t.symbol = true ∨
    ∃ c : SyntaxTree, c ∈ t.children ∧ c.symbol ≠ Symbol.skipped ∧ 0 < c.cost

/-- There is an error or a missing token in the tree. -/
def Faulty (t : SyntaxTree) : Prop := ∃ info ∈ t.nodes, info.IsFault

theorem Faulty.of_child {t c : SyntaxTree} (faulty : c.Faulty) (child : c ∈ t.children) :
    t.Faulty := by
  obtain ⟨info, mem, fault⟩ := faulty
  exact ⟨info, Rose.mem_nodes_of_child child mem, fault⟩

theorem isErrorSymbol_eq_true {symbol : Symbol} :
    isErrorSymbol symbol = true ↔ symbol = Symbol.error ∨ symbol = Symbol.skipped := by
  rw [isErrorSymbol, Bool.or_eq_true, decide_eq_true_eq, decide_eq_true_eq]

/-! ### The cost of a tree -/

theorem cost_pos_iff {t : SyntaxTree} :
    0 < t.cost ↔ t.label.isMissing = true ∨ 0 < t.label.damage := by
  have missing : 0 < Cost.missingToken + Cost.recovery := by decide
  rw [cost]
  cases t.label.isMissing <;> simp [missing]

/-- What costs something has an error or a missing token, whatever it is part of. -/
theorem faulty_of_cost {t : SyntaxTree} (honest : t.Everywhere Honest) (pos : 0 < t.cost)
    (notSkipped : t.symbol ≠ Symbol.skipped) : t.Faulty := by
  induction honest with
  | @node t here below ih =>
    rcases cost_pos_iff.mp pos with missing | damage
    · exact ⟨t.label, Rose.mem_nodes_iff.mpr (.inl rfl), .inr missing⟩
    · rcases here.damaged damage with isError | ⟨c, child, notSkipped', pos'⟩
      · rcases isErrorSymbol_eq_true.mp isError with error | skipped
        · exact ⟨t.label, Rose.mem_nodes_iff.mpr (.inl rfl), .inl error⟩
        · exact absurd skipped notSkipped
      · exact (ih c child pos' notSkipped').of_child child

/-- An error or a missing token costs something, however deep it lies.  The induction goes up
from the fault: all that lies between it and the root is proper, or below an error that costs
something itself. -/
theorem cost_of_faulty {t : SyntaxTree} (honest : t.Everywhere Honest) (proper : t.Proper)
    (faulty : t.Faulty) : 0 < t.cost := by
  induction honest with
  | @node t here below ih =>
    obtain ⟨info, mem, fault⟩ := faulty
    rcases Rose.mem_nodes_iff.mp mem with rfl | ⟨c, child, inside⟩
    · rcases fault with error | missing
      · exact proper.error error
      · exact cost_pos_iff.mpr (.inl missing)
    · cases isError : isErrorSymbol t.label.symbol with
      | true =>
        rcases isErrorSymbol_eq_true.mp isError with error | skipped
        · exact proper.error error
        · exact absurd skipped proper.notSkipped
      | false =>
        have properChild := here.proper isError c child
        have pos := ih c child properChild ⟨info, inside, fault⟩
        exact cost_pos_iff.mpr (.inr (here.counted c child properChild.notSkipped pos))

/-- **A tree has an error** exactly if there is an error or a missing token in it.  Both hypotheses
hold of every tree that the parser finishes. -/
theorem hasError_iff {t : SyntaxTree} (honest : t.Everywhere Honest) (proper : t.Proper) :
    t.hasError = true ↔ t.Faulty := by
  rw [hasError, decide_eq_true_eq]
  exact ⟨fun pos => faulty_of_cost honest pos proper.notSkipped, cost_of_faulty honest proper⟩

/-! ### Nodes over children -/

/-- What some children add to the cost of a node. -/
theorem damage_foldl (inError : Bool) (children : List SyntaxTree) (sums : Sums) :
    (0 < sums.damage → 0 < (children.foldl (Sums.add inError) sums).damage) ∧
      (∀ c ∈ children, c.symbol ≠ Symbol.skipped → 0 < c.cost →
        0 < (children.foldl (Sums.add inError) sums).damage) := by
  induction children generalizing sums with
  | nil => exact ⟨id, by simp⟩
  | cons child children ih =>
    obtain ⟨before, each⟩ := ih (sums.add inError child)
    refine ⟨fun pos => before ?_, fun c mem notSkipped pos => ?_⟩
    · rw [Sums.add]
      dsimp only
      omega
    · rcases List.mem_cons.mp mem with rfl | later
      · refine before ?_
        rw [Sums.add]
        dsimp only
        rw [if_neg notSkipped]
        omega
      · exact each c later notSkipped pos

/-- Outside an error, only what costs something adds to the cost. -/
theorem exists_of_damage_foldl {children : List SyntaxTree} {sums : Sums}
    (pos : 0 < (children.foldl (Sums.add false) sums).damage) :
    0 < sums.damage ∨ ∃ c ∈ children, c.symbol ≠ Symbol.skipped ∧ 0 < c.cost := by
  induction children generalizing sums with
  | nil => exact .inl pos
  | cons child children ih =>
    rcases ih pos with here | ⟨c, mem, found⟩
    · rw [Sums.add] at here
      dsimp only at here
      split at here
      · exact .inl here
      · next notSkipped =>
        rcases Nat.eq_zero_or_pos child.cost with none | some
        · exact .inl (by simpa [none] using here)
        · exact .inr ⟨child, List.mem_cons_self, notSkipped, some⟩
    · exact .inr ⟨c, List.mem_cons_of_mem _ mem, found⟩

variable {symbol : Symbol} {cursor : Cursor} {children : List SyntaxTree}

/-- An error over some children costs something. -/
theorem damage_ofChildren_error (isError : isErrorSymbol symbol = true) :
    0 < (ofChildren symbol cursor children).label.damage := by
  have own : 0 < Cost.recovery := by decide
  show 0 < _ + if isErrorSymbol symbol then _ else _
  rw [if_pos isError]
  omega

theorem damage_ofChildren (noError : isErrorSymbol symbol = false) :
    (ofChildren symbol cursor children).label.damage =
      (children.foldl (Sums.add false) {}).damage := by
  show _ + (if isErrorSymbol symbol then _ else _) = _
  rw [noError]
  rfl

/-- An error over some children is proper. -/
theorem Proper.ofChildren (notSkipped : symbol ≠ Symbol.skipped) :
    (ofChildren symbol cursor children).Proper where
  notSkipped := notSkipped
  error isError := cost_pos_iff.mpr
    (.inr (damage_ofChildren_error (isErrorSymbol_eq_true.mpr (.inl isError))))

/-- **A node over children** knows of the errors below it, if its children are proper or it is an
error itself. -/
theorem Honest.ofChildren
    (proper : isErrorSymbol symbol = false → ∀ c ∈ children, Proper c) :
    Honest (ofChildren symbol cursor children) where
  proper := proper
  counted c mem notSkipped pos := by
    cases isError : isErrorSymbol symbol with
    | true => exact damage_ofChildren_error isError
    | false =>
      rw [damage_ofChildren isError]
      exact (damage_foldl false children {}).2 c mem notSkipped pos
  damaged pos := by
    cases isError : isErrorSymbol symbol with
    | true => exact .inl isError
    | false =>
      rw [damage_ofChildren isError] at pos
      rcases exists_of_damage_foldl pos with none | found
      · exact absurd none (Nat.lt_irrefl 0)
      · exact .inr found

end SyntaxTree

end JsxDetect
