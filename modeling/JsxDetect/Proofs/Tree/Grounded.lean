import JsxDetect.Proofs.Automaton.Tags
import JsxDetect.Proofs.Tree.Errors

/-!
# Trees whose elements are in the text

A tree is *grounded* in a text if there is a `<` of the text below each of its elements: a token
that was read there, and not added by the parser.  Together with what the parser relies on when
it takes errors apart, and with nodes that know of the errors below them, this makes a tree
`WellFormed`, which all ways to build a tree preserve.

## Main Definitions

* `SyntaxInfo.IsLessThan`: a node is a `<` of the text
* `SyntaxTree.Grounded`: below each element there is a `<` of the text
* `SyntaxTree.WellFormed`: what holds of every tree that the parser builds

## Main Results

* `SyntaxTree.WellFormed.ofChildren`, `SyntaxTree.WellFormed.withExtra`,
  `SyntaxTree.WellFormed.addBonus`
* `SyntaxTree.symbol_of_jsxKind`: only elements are JSX

## Design Notes

**Local conditions.**  Each part of `WellFormed` is a condition on a node and its children, required
`Everywhere`.  Hence a new node needs only its own condition to be shown, `WellFormed.ofChildren`,
and children keep theirs when a tree is taken apart, `WellFormed.child`.  The parser does both, as
an error is taken apart when a state is returned to.

**Marks.**  The parser changes marks of trees it has built: whether they may stand anywhere, and
what speaks for them.  `Similar` is equality up to those, and one lemma carries well-formedness
over.
-/

namespace JsxDetect

open Automaton

/-- A node is a `<` of the text: one that was read, and that ends behind such a character. -/
structure SyntaxInfo.IsLessThan (text : List Char) (info : SyntaxInfo) : Prop where
  symbol : info.symbol = lessThan
  present : info.isMissing = false
  inText : info.before.rest <:+ text
  read : ∃ chars, info.before.rest = chars ++ '<' :: info.stop.rest

namespace SyntaxTree

/-- There is a `<` of the text in the tree. -/
def Tagged (text : List Char) (t : SyntaxTree) : Prop := ∃ info ∈ t.nodes, info.IsLessThan text

/-- There is a `<` of the text below each element of the tree. -/
def Grounded (text : List Char) (t : SyntaxTree) : Prop :=
  t.Everywhere fun u : SyntaxTree => u.symbol ∈ elementSymbols → u.Tagged text

/-- There is JSX in the tree. -/
def HasJsx (t : SyntaxTree) : Prop := ∃ info ∈ t.nodes, (jsxKind info).isSome = true

/-- A node ends in the text, and if it is an error, its last child is none of those that may stand
anywhere. -/
structure Closed (text : List Char) (t : SyntaxTree) : Prop where
  stop : t.label.stop.rest <:+ text
  error : t.symbol = Symbol.error → ∀ c : SyntaxTree, t.children.getLast? = some c → c.extra = false

/-- What holds of every tree that the parser builds. -/
structure WellFormed (text : List Char) (t : SyntaxTree) : Prop where
  grounded : t.Grounded text
  closed : t.Everywhere (Closed text)
  honest : t.Everywhere Honest

variable {text : List Char}

theorem Tagged.of_child {t c : SyntaxTree} (tagged : c.Tagged text) (child : c ∈ t.children) :
    t.Tagged text := by
  obtain ⟨info, mem, less⟩ := tagged
  exact ⟨info, Rose.mem_nodes_of_child child mem, less⟩

/-- The children of a well-formed tree are well-formed. -/
theorem WellFormed.child {t c : SyntaxTree} (wellFormed : t.WellFormed text) (child : c ∈ t.children) :
    c.WellFormed text :=
  ⟨wellFormed.grounded.children c child, wellFormed.closed.children c child,
    wellFormed.honest.children c child⟩

/-! ### Nodes over children -/

theorem children_ofChildren (symbol : Symbol) (cursor : Cursor) (children : List SyntaxTree) :
    (ofChildren symbol cursor children).children = children := rfl

theorem extra_ofChildren (symbol : Symbol) (cursor : Cursor) (children : List SyntaxTree) :
    (ofChildren symbol cursor children).extra = false := rfl

theorem lastOf_eq (first : SyntaxTree) (later : List SyntaxTree) :
    (first :: later).getLast? = some (lastOf first later) := by
  induction later generalizing first with
  | nil => rfl
  | cons t ts ih => exact (List.getLast?_cons_cons ..).trans (ih t)

theorem stop_ofChildren_nil (symbol : Symbol) (cursor : Cursor) :
    (ofChildren symbol cursor []).label.stop = cursor := rfl

/-- A node ends with its last child. -/
theorem stop_ofChildren {symbol : Symbol} {cursor : Cursor} {children : List SyntaxTree}
    {last : SyntaxTree} (ends : children.getLast? = some last) :
    (ofChildren symbol cursor children).label.stop = last.label.stop := by
  cases children with
  | nil => cases ends
  | cons t ts =>
    rw [lastOf_eq] at ends
    cases ends
    rfl

theorem Grounded.ofChildren {symbol : Symbol} {cursor : Cursor} {children : List SyntaxTree}
    (grounded : ∀ c ∈ children, c.Grounded text)
    (tagged : symbol ∈ elementSymbols → ∃ c ∈ children, c.Tagged text) :
    (ofChildren symbol cursor children).Grounded text := by
  refine .node (fun element => ?_) grounded
  obtain ⟨c, child, less⟩ := tagged element
  exact less.of_child (t := SyntaxTree.ofChildren symbol cursor children) child

/-- **A node over well-formed children** is well-formed, if an element has a `<` of the text among
them, an error ends with a child that may not stand anywhere, and what is no error lies over proper
trees alone. -/
theorem WellFormed.ofChildren {symbol : Symbol} {cursor : Cursor} {children : List SyntaxTree}
    (place : cursor.rest <:+ text) (wellFormed : ∀ c ∈ children, c.WellFormed text)
    (tagged : symbol ∈ elementSymbols → ∃ c ∈ children, c.Tagged text)
    (error : symbol = Symbol.error → ∀ c, children.getLast? = some c → c.extra = false)
    (proper : isErrorSymbol symbol = false → ∀ c ∈ children, c.Proper) :
    (ofChildren symbol cursor children).WellFormed text := by
  refine ⟨.ofChildren (fun c child => (wellFormed c child).grounded) tagged,
    .node ⟨?_, error⟩ fun c child => (wellFormed c child).closed,
    .node (.ofChildren proper) fun c child => (wellFormed c child).honest⟩
  cases ends : children.getLast? with
  | none =>
    rw [List.getLast?_eq_none_iff] at ends
    rw [ends, stop_ofChildren_nil]
    exact place
  | some last =>
    rw [stop_ofChildren ends]
    exact (wellFormed last (List.mem_of_getLast? ends)).closed.here.stop

/-! ### Marks on a tree -/

/-- Two trees that differ only in what well-formedness does not depend on. -/
structure Similar (t u : SyntaxTree) : Prop where
  children : u.children = t.children
  symbol : u.symbol = t.symbol
  isMissing : u.label.isMissing = t.label.isMissing
  before : u.label.before = t.label.before
  stop : u.label.stop = t.label.stop
  damage : u.label.damage = t.label.damage

theorem similar_withExtra (t : SyntaxTree) (extra : Bool) : Similar t (t.withExtra extra) := by
  cases t with
  | node info children => exact ⟨rfl, rfl, rfl, rfl, rfl, rfl⟩

theorem similar_addBonus (t : SyntaxTree) (more : Int) : Similar t (t.addBonus more) := by
  cases t with
  | node info children => exact ⟨rfl, rfl, rfl, rfl, rfl, rfl⟩

@[simp] theorem extra_withExtra (t : SyntaxTree) (extra : Bool) :
    (t.withExtra extra).extra = extra := by
  cases t with
  | node info children => rfl

@[simp] theorem extra_addBonus (t : SyntaxTree) (more : Int) :
    (t.addBonus more).extra = t.extra := by
  cases t with
  | node info children => rfl

namespace Similar

variable {t u : SyntaxTree} (similar : Similar t u)

include similar

/-- A `<` in the one is one in the other. -/
theorem tagged (tagged : t.Tagged text) : u.Tagged text := by
  obtain ⟨info, mem, less⟩ := tagged
  rcases Rose.mem_nodes_iff.mp mem with rfl | ⟨c, child, inside⟩
  · refine ⟨u.label, Rose.mem_nodes_iff.mpr (.inl rfl), ?_, ?_, ?_, ?_⟩
    · exact similar.symbol.trans less.symbol
    · exact similar.isMissing.trans less.present
    · rw [similar.before]
      exact less.inText
    · rw [similar.before, similar.stop]
      exact less.read
  · exact ⟨info, Rose.mem_nodes_of_child (similar.children ▸ child) inside, less⟩

/-- If the one is proper, so is the other. -/
theorem proper (proper : t.Proper) : u.Proper := by
  refine ⟨?_, fun isError => ?_⟩
  · rw [similar.symbol]
    exact proper.notSkipped
  · rw [similar.symbol] at isError
    have pos := proper.error isError
    rw [cost_pos_iff] at pos ⊢
    rw [similar.isMissing, similar.damage]
    exact pos

/-- If the one is well-formed, so is the other. -/
theorem wellFormed (wellFormed : t.WellFormed text) : u.WellFormed text := by
  refine ⟨.node ?_ ?_, .node ?_ ?_, .node ⟨?_, ?_, ?_⟩ ?_⟩
  · intro element
    rw [similar.symbol] at element
    exact similar.tagged (wellFormed.grounded.here element)
  · rw [similar.children]
    exact wellFormed.grounded.children
  · refine ⟨?_, fun isError c last => ?_⟩
    · rw [similar.stop]
      exact wellFormed.closed.here.stop
    · rw [similar.symbol] at isError
      rw [similar.children] at last
      exact wellFormed.closed.here.error isError c last
  · rw [similar.children]
    exact wellFormed.closed.children
  · rw [similar.symbol, similar.children]
    exact wellFormed.honest.here.proper
  · rw [similar.children, similar.damage]
    exact wellFormed.honest.here.counted
  · rw [similar.symbol, similar.children, similar.damage]
    exact wellFormed.honest.here.damaged
  · rw [similar.children]
    exact wellFormed.honest.children

end Similar

/-! ### Leaves -/

/-- A leaf that is no element is well-formed, wherever it ends in the text. -/
theorem WellFormed.of_leaf {t : SyntaxTree} (leaf : t.children = [])
    (damage : t.label.damage = 0) (stop : t.label.stop.rest <:+ text)
    (noElement : t.symbol ∉ elementSymbols) : t.WellFormed text := by
  have noChild {P : SyntaxTree → Prop} : ∀ c ∈ t.children, c.Everywhere P := by
    rw [leaf]
    simp
  refine ⟨.node (fun element => absurd element noElement) noChild,
    .node ⟨stop, fun _ c last => ?_⟩ noChild,
    .node ⟨fun _ c child => ?_, fun c child => ?_, fun damaged => ?_⟩ noChild⟩
  · rw [leaf] at last
    cases last
  · rw [leaf] at child
    cases child
  · rw [leaf] at child
    cases child
  · rw [damage] at damaged
    exact absurd damaged (Nat.lt_irrefl 0)

/-- No token is the symbol of an element. -/
theorem not_element_of_token {symbol : Symbol}
    (token : symbol < Symbol.tokenCount ∨ symbol = Symbol.error) : symbol ∉ elementSymbols := by
  have bounds : ∀ s ∈ elementSymbols, Symbol.tokenCount ≤ s ∧ s < Symbol.error := by decide
  intro element
  obtain ⟨low, high⟩ := bounds symbol element
  rcases token with small | rfl
  · exact Nat.not_lt.mpr low small
  · exact Nat.lt_irrefl _ high

/-- A token is proper, unless it fits no rule. -/
theorem proper_of_token {t : SyntaxTree} (token : t.symbol < Symbol.tokenCount) : t.Proper := by
  have bounds : Symbol.tokenCount ≤ Symbol.error ∧ Symbol.tokenCount ≤ Symbol.skipped := by decide
  exact ⟨Nat.ne_of_lt (Nat.lt_of_lt_of_le token bounds.2),
    fun isError => absurd isError (Nat.ne_of_lt (Nat.lt_of_lt_of_le token bounds.1))⟩

/-! ### Elements and JSX -/

/-- Every symbol of the grammar that names JSX stands for an element. -/
theorem elements_of_symbolTable :
    allFrom (fun symbol (info : Grammar.SymbolInfo) =>
      (JsxKind.ofNodeKind? info.name).isNone || elementSymbols.contains symbol) 0
      Grammar.symbolTable.toList = true := by
  decide +kernel

/-- **Only elements are JSX.**  The names of nodes are compared with those of the symbols, of which
there are hundreds, by evaluation of the table. -/
theorem symbol_of_jsxKind {info : SyntaxInfo} (jsx : (jsxKind info).isSome = true) :
    info.symbol ∈ elementSymbols ∧ info.symbol ≠ Symbol.error := by
  rw [jsxKind, Symbol.name] at jsx
  split at jsx
  · exact absurd jsx (by decide)
  · next noError =>
    refine ⟨?_, noError⟩
    split at jsx
    · next entry found =>
      rw [← Array.getElem?_toList] at found
      have checked := of_allFrom elements_of_symbolTable found
      rw [Nat.zero_add, Bool.or_eq_true] at checked
      rcases checked with none | element
      · rw [Option.isNone_iff_eq_none.mp none] at jsx
        cases jsx
      · exact List.contains_iff_mem.mp element
    · exact absurd jsx (by decide)

/-- A grounded tree with JSX has a `<` of the text. -/
theorem Grounded.tagged_of_hasJsx {t : SyntaxTree} (grounded : t.Grounded text)
    (jsx : t.HasJsx) : t.Tagged text := by
  obtain ⟨info, mem, kind⟩ := jsx
  obtain ⟨u, rfl, holds, within⟩ := grounded.of_mem_nodes mem
  obtain ⟨less, inside, isLess⟩ := holds (symbol_of_jsxKind kind).1
  exact ⟨less, within less inside, isLess⟩

/-- A text without `<` has no tagged tree. -/
theorem Tagged.mem_text {t : SyntaxTree} (tagged : t.Tagged text) : '<' ∈ text := by
  obtain ⟨info, -, less⟩ := tagged
  obtain ⟨chars, read⟩ := less.read
  refine less.inText.subset ?_
  rw [read]
  exact List.mem_append_right _ List.mem_cons_self

end SyntaxTree

end JsxDetect
