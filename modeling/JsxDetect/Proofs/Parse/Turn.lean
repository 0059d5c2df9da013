import Mathlib.Data.List.Forall2
import JsxDetect.Proofs.Parse.Pile

/-!
# Taking a token on a pile

What a version on a pile does at a token depends on the states of its frames alone, and so can
be computed from them.  Beside the states a `Slot` remembers whether there is JSX in a tree.

## Main Definitions

* `SyntaxTree.Clean`: a tree without errors, with JSX or without
* `Slot`, `turn`: what a version does at a token, computed from the states
* `Shows`: frames with the states and trees that some slots tell

## Main Results

* `SyntaxTree.Clean.ofChildren`: a phrase over trees without errors
* `consume_of_turns`: the version does what `turn` computes

## Design Notes

**Computing instead of proving.**  What a version does at a token is read off tables of thousands of
states.  A proof that followed each reduction by hand would be one of the table, so `turn` computes
the whole of it from the states of a few frames, and `consume_of_turns` says once that the parser
does what was computed.  For a given text the states are closed terms, and the rest is evaluation.

**Slots forget the trees.**  A slot keeps the state and whether there is JSX in the tree, as this is
all that an answer can depend on while nothing has a cost.  `Shows` ties slots to frames.

**Computing with what is known.**  Deep frames do not matter for a reduction at the top.  `append`
of each relation lets a computation on the topmost slots stand for one on any stack that has them on
top; this is what makes an induction over nested text possible.
-/

namespace JsxDetect

open Automaton

/-! ### Trees without errors -/

/-- An element with an opening and a closing tag. -/
def pairedElement : Symbol := 230

/-- An element that is a single tag. -/
def singleTag : Symbol := 236

namespace SyntaxTree

/-- The JSX that nodes of a symbol are. -/
def kindOf (symbol : Symbol) : Option JsxKind :=
  if symbol = pairedElement then some .element
  else if symbol = singleTag then some .selfClosingElement
  else none

theorem kindOf_symbolTable :
    allFrom (fun symbol (info : Grammar.SymbolInfo) =>
      JsxKind.ofNodeKind? info.name == kindOf symbol) 0 Grammar.symbolTable.toList = true := by
  decide +kernel

/-- **The kind of a node** is told by its symbol.  In this form it can be evaluated for the symbols
of a phrase. -/
theorem jsxKind_eq_kindOf (info : SyntaxInfo) : jsxKind info = kindOf info.symbol := by
  rw [jsxKind, Symbol.name]
  split
  · next isError =>
    rw [isError]
    decide
  · split
    · next entry found =>
      rw [← Array.getElem?_toList] at found
      have checked := of_allFrom kindOf_symbolTable found
      rw [Nat.zero_add] at checked
      exact eq_of_beq checked
    · next missing =>
      have size : Grammar.symbolTable.size ≤ info.symbol := Array.getElem?_eq_none_iff.mp missing
      have few : ∀ symbol ∈ [pairedElement, singleTag], symbol < Grammar.symbolTable.size := by
        decide +kernel
      have other : ∀ symbol ∈ [pairedElement, singleTag], info.symbol ≠ symbol :=
        fun symbol mem same => absurd (few symbol mem) (Nat.not_lt.mpr (same ▸ size))
      rw [kindOf, if_neg (other _ (by decide)), if_neg (other _ (by decide))]
      decide

/-- The first JSX among trees, if there is some and all of it is paired elements. -/
def elementIf (jsx : Bool) : Option JsxKind := if jsx then some .element else none

theorem elementIf_or (a b : Bool) : elementIf (a || b) = (elementIf a).or (elementIf b) := by
  cases a <;> rfl

/-- A symbol that stands neither for JSX nor for an error. -/
def ordinary (symbol : Symbol) : Bool := (kindOf symbol).isNone && !isErrorSymbol symbol

/-- A tree without errors; if there is JSX in it, the first of it is a paired element. -/
structure Clean (t : SyntaxTree) (jsx : Bool) : Prop where
  cost : t.cost = 0
  parts : ∀ c ∈ t.children, SyntaxTree.cost c = 0
  sound : isErrorSymbol t.symbol = false
  first : t.nodes.findSome? jsxKind = elementIf jsx

theorem Clean.leaf {symbol : Symbol} {before start stop : Cursor} (token : ordinary symbol = true)
    (extra : Bool) : ((leaf symbol before start stop).withExtra extra).Clean false := by
  rw [ordinary, Bool.and_eq_true, Option.isNone_iff_eq_none, Bool.not_eq_true'] at token
  refine ⟨rfl, fun _ mem => absurd mem List.not_mem_nil, token.2, ?_⟩
  rw [SyntaxTree.leaf, withExtra, Rose.nodes_eq, Rose.label, Rose.children, Rose.nodesOfAll_nil,
    List.findSome?_singleton, jsxKind_eq_kindOf, token.1]
  rfl

/-- Some trees without errors, with JSX or without, as the flags tell. -/
abbrev AllClean (ts : List SyntaxTree) (flags : List Bool) : Prop := List.Forall₂ Clean ts flags

theorem AllClean.first {ts : List SyntaxTree} {flags : List Bool} (clean : AllClean ts flags) :
    (Rose.nodesOfAll ts).findSome? jsxKind = elementIf (flags.any id) := by
  induction clean with
  | nil => rw [Rose.nodesOfAll_nil]; rfl
  | cons here _ ih =>
    rw [Rose.nodesOfAll_cons, List.findSome?_append, here.first, ih, List.any_cons, elementIf_or]
    rfl

/-- Clean trees cost nothing. -/
theorem AllClean.costs {ts : List SyntaxTree} {flags : List Bool} (clean : AllClean ts flags) :
    ∀ t ∈ ts, t.cost = 0 := by
  induction clean with
  | nil => exact fun t mem => absurd mem List.not_mem_nil
  | cons here _ ih =>
    intro t mem
    rcases List.mem_cons.mp mem with rfl | later
    · exact here.cost
    · exact ih t later

/-- Some trees without errors and JSX, with the flags that say so. -/
theorem allClean_false {ts : List SyntaxTree} (clean : ∀ t ∈ ts, t.Clean false) :
    AllClean ts (ts.map fun _ => false) ∧ (ts.map fun _ => false).any id = false := by
  refine ⟨List.forall₂_map_right_iff.mpr (List.forall₂_same.mpr clean), ?_⟩
  rw [List.any_map, List.any_eq_false]
  exact fun _ _ => Bool.false_ne_true

/-- A phrase costs nothing, if it is no error and nothing below it costs anything. -/
theorem cost_ofChildren {symbol : Symbol} (sound : isErrorSymbol symbol = false)
    {ts : List SyntaxTree} (costs : ∀ t ∈ ts, t.cost = 0) (cursor : Cursor) :
    (SyntaxTree.ofChildren symbol cursor ts).cost = 0 := by
  have damage : ∀ (ts : List SyntaxTree) (sums : Sums), (∀ t ∈ ts, t.cost = 0) →
      (ts.foldl (Sums.add false) sums).damage = sums.damage := by
    intro ts
    induction ts with
    | nil => exact fun _ _ => rfl
    | cons t ts ih =>
      intro sums costs
      rw [List.foldl_cons, ih _ fun u mem => costs u (List.mem_cons_of_mem _ mem), Sums.add]
      dsimp only
      rw [costs t List.mem_cons_self, ite_self]
      rfl
  unfold SyntaxTree.ofChildren
  rw [sound, SyntaxTree.cost]
  dsimp only [Rose.label]
  rw [damage ts {} costs]
  rfl

theorem cost_addBonus (t : SyntaxTree) (bonus : Int) : (t.addBonus bonus).cost = t.cost := by
  cases t with
  | node info children => rfl

/-- The JSX of a node is that of the root and of the trees below. -/
theorem first_ofChildren (symbol : Symbol) (cursor : Cursor) (ts : List SyntaxTree) :
    (SyntaxTree.ofChildren symbol cursor ts).nodes.findSome? jsxKind =
      (kindOf symbol).or ((Rose.nodesOfAll ts).findSome? jsxKind) := by
  unfold SyntaxTree.ofChildren
  rw [Rose.nodes_eq, List.findSome?_cons, Rose.label, Rose.children, jsxKind_eq_kindOf]
  dsimp only
  cases kindOf symbol <;> rfl

theorem first_similar {t u : SyntaxTree} (similar : Similar t u) :
    u.nodes.findSome? jsxKind = t.nodes.findSome? jsxKind := by
  have symbol : u.label.symbol = t.label.symbol := similar.symbol
  rw [Rose.nodes_eq, Rose.nodes_eq, similar.children, List.findSome?_cons, List.findSome?_cons,
    jsxKind_eq_kindOf, jsxKind_eq_kindOf, symbol]

/-- **A phrase over trees without errors** has none, and its first JSX is a paired element exactly
if it is one itself or has one below.  An element without children is excluded, as its kind would be
another one. -/
theorem Clean.ofChildren {symbol : Symbol} (sound : isErrorSymbol symbol = false)
    (noTag : symbol ≠ singleTag) {ts : List SyntaxTree} {flags : List Bool}
    (clean : AllClean ts flags) (cursor : Cursor) (bonus : Int) :
    ((SyntaxTree.ofChildren symbol cursor ts).addBonus bonus).Clean
      (symbol == pairedElement || flags.any id) := by
  have similar := similar_addBonus (SyntaxTree.ofChildren symbol cursor ts) bonus
  refine ⟨?_, ?_, ?_, ?_⟩
  · rw [cost_addBonus]
    exact cost_ofChildren sound clean.costs cursor
  · rw [similar.children]
    exact clean.costs
  · rw [similar.symbol]
    exact sound
  · have kind : kindOf symbol = elementIf (symbol == pairedElement) := by
      by_cases paired : symbol = pairedElement
      · rw [paired]
        rfl
      · rw [kindOf, if_neg paired, if_neg noTag, beq_false_of_ne paired]
        rfl
    rw [first_similar similar, first_ofChildren, kind, clean.first, elementIf_or]

end SyntaxTree

namespace Parse

open SyntaxTree Stack

/-! ### The computation -/

/-- A state on a stack, and whether there is JSX in the tree before it. -/
structure Slot where
  state : StateId
  jsx : Bool
  deriving DecidableEq

/-- The state on top of some slots. -/
def topSlot : List Slot → StateId
  | [] => 1
  | s :: _ => s.state

/-- The slots after a reduction. -/
def regroup (symbol : Symbol) (count : Nat) (slots : List Slot) : List Slot :=
  ⟨goto (topSlot (slots.drop count)) symbol,
    symbol == pairedElement || ((slots.take count).map Slot.jsx).any id⟩ :: slots.drop count

/-- May a version with some slots make a reduction?  The beginning is the lowest slot; none of the
states `avoid` may be entered. -/
def allows (avoid : List StateId) (symbol : Symbol) (count : Nat) (bonus : Int)
    (slots : List Slot) : Bool :=
  count < slots.length && !isErrorSymbol symbol && symbol != singleTag &&
    !avoid.contains (goto (topSlot (slots.drop count)) symbol) && (count != 0 || bonus == 0)

/-- The slots after all reductions that a version makes before a token, and what the reductions
add in its favour.  It ends where there is a choice. -/
def groups (avoid : List StateId) (token : Symbol) : Nat → List Slot → List Slot × Int
  | 0, slots => (slots, 0)
  | fuel + 1, slots =>
    match actions (topSlot slots) token with
    | [.reduce symbol count bonus] =>
      if allows avoid symbol count bonus slots then
        let after := groups avoid token fuel (regroup symbol count slots)
        (after.1, bonus + after.2)
      else (slots, 0)
    | _ => (slots, 0)

/-- A bound on the reductions that are computed before a token.  A computation that came to it would
go on with the slots it has, which `Groups` allows; so nothing depends on the bound being large
enough. -/
def enoughGroups : Nat := 62

/-- What a version does at a token, if there is no choice: the slots behind the token, and what
the reductions before it add in its favour. -/
def turn (avoid : List StateId) (token : Symbol) (slots : List Slot) : Option (List Slot × Int) :=
  let after := groups avoid token enoughGroups slots
  match actions (topSlot after.1) token with
  | .shift next false :: _ => if next = 0 then none else some (⟨next, false⟩ :: after.1, after.2)
  | _ => none

/-- The slots in which a version stops at a token with which nothing can be done. -/
def stall (avoid : List StateId) (token : Symbol) (slots : List Slot) : Option (List Slot × Int) :=
  let after := groups avoid token enoughGroups slots
  match actions (topSlot after.1) token with
  | [] =>
    if topSlot after.1 = 0 || Grammar.isKeyword token && acts (topSlot after.1) Symbol.identifier
    then none else some after
  | _ => none

/-! ### What is computed -/

/-- A reduction that may be made. -/
structure Allowed (avoid : List StateId) (symbol : Symbol) (count : Nat) (bonus : Int)
    (slots : List Slot) : Prop where
  deep : count < slots.length
  sound : isErrorSymbol symbol = false
  noTag : symbol ≠ singleTag
  away : goto (topSlot (slots.drop count)) symbol ∉ avoid
  counts : count = 0 → bonus = 0

/-- What the test of a reduction has tested. -/
theorem allowed_of_allows {avoid : List StateId} {symbol : Symbol} {count : Nat} {bonus : Int}
    {slots : List Slot} (allowed : allows avoid symbol count bonus slots = true) :
    Allowed avoid symbol count bonus slots := by
  simp only [allows, Bool.and_eq_true, Bool.or_eq_true, decide_eq_true_eq, Bool.not_eq_true',
    bne_iff_ne, beq_iff_eq] at allowed
  obtain ⟨⟨⟨⟨deep, sound⟩, noTag⟩, away⟩, counts⟩ := allowed
  refine ⟨deep, sound, noTag, fun mem => ?_, fun none => counts.resolve_left (· none)⟩
  rw [List.contains_iff_mem.mpr mem] at away
  cases away

/-- So many reductions are made before a token. -/
inductive Groups (avoid : List StateId) (token : Symbol) :
    Nat → List Slot → List Slot → Int → Prop
  | none {slots : List Slot} : Groups avoid token 0 slots slots 0
  | one {symbol : Symbol} {count steps : Nat} {bonus more : Int} {slots after : List Slot}
      (action : actions (topSlot slots) token = [.reduce symbol count bonus])
      (allowed : Allowed avoid symbol count bonus slots)
      (others : Groups avoid token steps (regroup symbol count slots) after more) :
      Groups avoid token (steps + 1) slots after (bonus + more)

/-- What is computed are reductions that may be made, and no more of them than the fuel allows. -/
theorem groups_groups (avoid : List StateId) (token : Symbol) (fuel : Nat) (slots : List Slot) :
    ∃ steps ≤ fuel, Groups avoid token steps slots (groups avoid token fuel slots).1
      (groups avoid token fuel slots).2 := by
  induction fuel generalizing slots with
  | zero => exact ⟨0, Nat.le_refl _, .none⟩
  | succ fuel ih =>
    rw [groups]
    split
    · next symbol count bonus action =>
      split
      · next allowed =>
        obtain ⟨steps, few, grouped⟩ := ih (regroup symbol count slots)
        exact ⟨steps + 1, Nat.succ_le_succ few, .one action (allowed_of_allows allowed) grouped⟩
      · exact ⟨0, Nat.zero_le _, .none⟩
    · exact ⟨0, Nat.zero_le _, .none⟩

/-- A version takes a token. -/
structure Turns (avoid : List StateId) (token : Symbol) (slots after : List Slot) (bonus : Int) :
    Prop where
  shifts : ∃ steps ≤ enoughGroups, ∃ grouped next others,
    Groups avoid token steps slots grouped bonus ∧
    actions (topSlot grouped) token = .shift next false :: others ∧ next ≠ 0 ∧
    after = ⟨next, false⟩ :: grouped

/-- A computed turn is one: some reductions, and then a shift. -/
theorem Turns.of_turn {avoid : List StateId} {token : Symbol} {slots after : List Slot}
    {bonus : Int} (turns : turn avoid token slots = some (after, bonus)) :
    Turns avoid token slots after bonus := by
  obtain ⟨steps, few, grouped⟩ := groups_groups avoid token enoughGroups slots
  rw [turn] at turns
  split at turns
  · next next others action =>
    split at turns
    · cases turns
    · next outside =>
      cases turns
      exact ⟨⟨steps, few, _, next, others, grouped, action, outside, rfl⟩⟩
  · cases turns

/-- A version stops at a token. -/
structure Stalls (avoid : List StateId) (token : Symbol) (slots after : List Slot) (bonus : Int) :
    Prop where
  grouped : ∃ steps ≤ enoughGroups, Groups avoid token steps slots after bonus
  action : actions (topSlot after) token = []
  outside : topSlot after ≠ 0
  noName : (Grammar.isKeyword token && acts (topSlot after) Symbol.identifier) = false

/-- A computed stop is one: some reductions, and then a state with no action, which reads no name in
place of a keyword. -/
theorem Stalls.of_stall {avoid : List StateId} {token : Symbol} {slots after : List Slot}
    {bonus : Int} (stalls : stall avoid token slots = some (after, bonus)) :
    Stalls avoid token slots after bonus := by
  obtain ⟨steps, few, grouped⟩ := groups_groups avoid token enoughGroups slots
  rw [stall] at stalls
  split at stalls
  · next action =>
    split at stalls
    · cases stalls
    · next live =>
      rw [Bool.or_eq_true, decide_eq_true_eq, not_or] at live
      rw [Option.some.inj stalls] at action live grouped
      exact ⟨⟨steps, few, grouped⟩, action, live.1, Bool.not_eq_true _ ▸ live.2⟩
  · cases stalls

theorem topSlot_append {slots : List Slot} (nonempty : slots ≠ []) (deeper : List Slot) :
    topSlot (slots ++ deeper) = topSlot slots := by
  cases slots with
  | nil => exact absurd rfl nonempty
  | cons s slots => rfl

theorem drop_ne_nil {slots : List Slot} {count : Nat} (deep : count < slots.length) :
    slots.drop count ≠ [] := by
  rw [Ne, List.drop_eq_nil_iff]
  exact Nat.not_le.mpr deep

theorem regroup_append {symbol : Symbol} {count : Nat} {slots : List Slot}
    (deep : count < slots.length) (deeper : List Slot) :
    regroup symbol count (slots ++ deeper) = regroup symbol count slots ++ deeper := by
  rw [regroup, List.drop_append_of_le_length (Nat.le_of_lt deep),
    List.take_append_of_le_length (Nat.le_of_lt deep), topSlot_append (drop_ne_nil deep)]
  rfl

/-- A reduction that may be made on some slots may be made with others below them. -/
theorem Allowed.append {avoid : List StateId} {symbol : Symbol} {count : Nat} {bonus : Int}
    {slots : List Slot} (allowed : Allowed avoid symbol count bonus slots) (deeper : List Slot) :
    Allowed avoid symbol count bonus (slots ++ deeper) := by
  refine ⟨?_, allowed.sound, allowed.noTag, ?_, allowed.counts⟩
  · rw [List.length_append]
    exact Nat.lt_of_lt_of_le allowed.deep (Nat.le_add_right _ _)
  · rw [List.drop_append_of_le_length (Nat.le_of_lt allowed.deep),
      topSlot_append (drop_ne_nil allowed.deep)]
    exact allowed.away

section

variable {avoid : List StateId} {token : Symbol} {slots after : List Slot} {bonus : Int}

/-- What lies deeper than the slots that reductions need does not matter to them. -/
theorem Groups.append {steps : Nat} (grouped : Groups avoid token steps slots after bonus)
    (nonempty : slots ≠ []) (deeper : List Slot) :
    after ≠ [] ∧ Groups avoid token steps (slots ++ deeper) (after ++ deeper) bonus := by
  induction grouped with
  | none => exact ⟨nonempty, .none⟩
  | one action allowed others ih =>
    obtain ⟨nonempty', deeperGroups⟩ := ih (List.cons_ne_nil _ _)
    rw [← regroup_append allowed.deep] at deeperGroups
    exact ⟨nonempty', .one ((topSlot_append nonempty deeper).symm ▸ action)
      (allowed.append deeper) deeperGroups⟩

theorem Turns.append (turns : Turns avoid token slots after bonus) (nonempty : slots ≠ [])
    (deeper : List Slot) : Turns avoid token (slots ++ deeper) (after ++ deeper) bonus := by
  obtain ⟨steps, few, grouped, next, others, grouping, action, outside, rfl⟩ := turns.shifts
  obtain ⟨nonempty', deeperGroups⟩ := grouping.append nonempty deeper
  exact ⟨⟨steps, few, _, next, others, deeperGroups,
    (topSlot_append nonempty' deeper).symm ▸ action, outside, rfl⟩⟩

theorem Stalls.append (stalls : Stalls avoid token slots after bonus) (nonempty : slots ≠ [])
    (deeper : List Slot) : Stalls avoid token (slots ++ deeper) (after ++ deeper) bonus := by
  obtain ⟨steps, few, grouped⟩ := stalls.grouped
  obtain ⟨nonempty', deeperGroups⟩ := grouped.append nonempty deeper
  have same := topSlot_append nonempty' deeper
  exact ⟨⟨steps, few, deeperGroups⟩, same.symm ▸ stalls.action, same.symm ▸ stalls.outside,
    same.symm ▸ stalls.noName⟩

theorem Turns.outside (turns : Turns avoid token slots after bonus) : topSlot after ≠ 0 := by
  obtain ⟨-, -, -, next, -, -, -, outside, rfl⟩ := turns.shifts
  exact outside

theorem Turns.ne_nil (turns : Turns avoid token slots after bonus) : after ≠ [] := by
  obtain ⟨-, -, -, next, -, -, -, -, rfl⟩ := turns.shifts
  exact List.cons_ne_nil _ _

end

/-! ### Slots and frames -/

/-- Frames with the states and trees that some slots tell; the lowest slot is the beginning. -/
inductive Shows : List Frame → List Slot → Prop
  | beginning : Shows [] [⟨1, false⟩]
  | above {f : Frame} {s : Slot} {fs : List Frame} {ss : List Slot} (state : f.state = s.state)
      (clean : f.tree.Clean s.jsx) (rest : Shows fs ss) : Shows (f :: fs) (s :: ss)

namespace Shows

variable {fs : List Frame} {ss : List Slot}

theorem topState (shown : Shows fs ss) : topState fs = topSlot ss := by
  cases shown with
  | beginning => rfl
  | above state => exact state

/-- Splits off the topmost frames, with the flags of their slots. -/
theorem split (shown : Shows fs ss) {count : Nat} (deep : count < ss.length) :
    ∃ taken base, fs = taken ++ base ∧ taken.length = count ∧ Shows base (ss.drop count) ∧
      AllClean (taken.map Frame.tree) ((ss.take count).map Slot.jsx) := by
  induction count generalizing fs ss with
  | zero => exact ⟨[], fs, rfl, rfl, shown, .nil⟩
  | succ count ih =>
    cases shown with
    | beginning => cases Nat.lt_of_succ_lt_succ deep
    | @above f s fs ss state clean rest =>
      obtain ⟨taken, base, rfl, length, below, all⟩ := ih rest (Nat.lt_of_succ_lt_succ deep)
      exact ⟨f :: taken, base, rfl, congrArg (· + 1) length, below, .cons clean all⟩

/-- The frames after a reduction, with the slots that were computed for them. -/
theorem group (shown : Shows fs ss) {symbol : Symbol} {count : Nat} (deep : count < ss.length)
    (sound : isErrorSymbol symbol = false) (noTag : symbol ≠ singleTag) (bonus : Int)
    (cursor : Cursor) :
    ∃ taken base, fs = taken ++ base ∧ taken.length = count ∧
      JsxDetect.Parse.topState base = topSlot (ss.drop count) ∧
      Shows (⟨goto (topSlot (ss.drop count)) symbol, groupOf symbol bonus cursor taken⟩ :: base)
        (regroup symbol count ss) := by
  obtain ⟨taken, base, split, length, below, all⟩ := shown.split deep
  refine ⟨taken, base, split, length, below.topState, .above rfl ?_ below⟩
  have clean := Clean.ofChildren sound noTag (List.forall₂_reverse_iff.mpr all) cursor bonus
  rw [List.any_reverse] at clean
  exact clean

end Shows

/-! ### What speaks for a version -/

variable {text : List Char}

/-- What speaks for some frames. -/
def favourOf (fs : List Frame) : Int := (fs.map fun f => f.tree.bonus).sum

/-- What speaks for a pile is the sum of what speaks for its trees. -/
theorem Pile.bonus {stack : Stack} {i : Nat} {fs : List Frame} (pile : Pile text stack i fs) :
    (stack.node i).bonus = favourOf fs := by
  induction pile with
  | bottom inside node => rw [node]; rfl
  | @above i below f fs inside lower node solid rest ih =>
    rw [node, favourOf, List.map_cons, List.sum_cons, Int.add_comm]
    change (stack.node below).bonus + f.tree.bonus = _
    rw [ih]
    rfl

theorem favourOf_cons (f : Frame) (fs : List Frame) :
    favourOf (f :: fs) = f.tree.bonus + favourOf fs := by
  rw [favourOf, List.map_cons, List.sum_cons]
  rfl

theorem favourOf_append (fs gs : List Frame) : favourOf (fs ++ gs) = favourOf fs + favourOf gs := by
  rw [favourOf, List.map_append, List.sum_append]
  rfl

theorem bonus_withExtra (t : SyntaxTree) (extra : Bool) : (t.withExtra extra).bonus = t.bonus := by
  cases t with
  | node info children => rfl

/-- What speaks for a phrase is what speaks for its trees, and what the reduction adds.  A phrase
over nothing has a place of its own and must add nothing. -/
theorem bonus_groupOf {symbol : Symbol} (bonus : Int) {cursor : Cursor} {fs : List Frame}
    (counts : fs = [] → bonus = 0) : (groupOf symbol bonus cursor fs).bonus = favourOf fs + bonus := by
  have fold : ∀ (inError : Bool) (ts : List SyntaxTree) (sums : Sums),
      (ts.foldl (Sums.add inError) sums).bonus = sums.bonus + (ts.map SyntaxTree.bonus).sum := by
    intro inError ts
    induction ts with
    | nil => exact fun sums => (Int.add_zero _).symm
    | cons t ts ih =>
      intro sums
      rw [List.foldl_cons, ih, List.map_cons, List.sum_cons, ← Int.add_assoc]
      rfl
  have children : (groupOf symbol bonus cursor fs).bonus =
      if (fs.map Frame.tree).reverse.isEmpty then 0
      else ((fs.map Frame.tree).reverse.foldl (Sums.add (isErrorSymbol symbol)) {}).bonus + bonus :=
    rfl
  rw [children, fold, List.map_reverse, List.sum_reverse, List.map_map, List.isEmpty_reverse,
    List.isEmpty_map]
  cases fs with
  | nil =>
    rw [counts rfl]
    rfl
  | cons f fs =>
    rw [if_neg (by rw [List.isEmpty_cons]; exact Bool.false_ne_true), Int.zero_add]
    rfl

/-! ### One version -/

/-- Version `v` has moved: it stands on another pile, with something more in its favour, and all
else is as before. -/
structure Moved (text : List Char) (v : Nat) (cursor : Cursor) (slots : List Slot) (bonus : Int)
    (p q : Progress) : Prop where
  prolongs : Prolongs p.stack q.stack
  versions : ∃ i, q.versions = p.versions.set v { p.version v with node := i }
  finished : q.finished = p.finished
  accepted : q.accepted = p.accepted
  pile : ∃ fs, Pile text q.stack (q.version v).node fs ∧ Shows fs slots
  place : (q.top v).place = cursor
  favour : (q.top v).bonus = (p.top v).bonus + bonus

/-- The other versions stand on nodes of the stack, and those that go on in the states `avoid`. -/
def OthersAmong (p : Progress) (v : Nat) (avoid : List StateId) : Prop :=
  ∀ w < p.versions.length, w ≠ v → (p.version w).node < p.stack.size ∧
    (p.Active w → p.state w ∈ avoid)

/-- If no other version is in a state, then none can be joined there. -/
theorem OthersAmong.apart {p : Progress} {v : Nat} {avoid : List StateId}
    (othersAmong : OthersAmong p v avoid)
    {state : StateId} (away : state ∉ avoid) (place : Cursor) : p.Apart v state place :=
  fun w inside other => ⟨(othersAmong w inside other).1, fun active same =>
    absurd (same ▸ (othersAmong w inside other).2 active) away⟩

section

variable {p : Progress} {v below : Nat} {tree : SyntaxTree} {state : StateId}

theorem version_moveTo_self (inside : v < p.versions.length) :
    (p.moveTo v below tree state).version v = { p.version v with node := p.stack.size } := by
  rw [Progress.version, Progress.moveTo]
  dsimp only
  rw [List.getD_eq_getElem?_getD, List.getElem?_set_self inside]
  rfl

theorem version_moveTo_of_ne {w : Nat} (other : w ≠ v) :
    (p.moveTo v below tree state).version w = p.version w := by
  rw [Progress.version, Progress.moveTo]
  dsimp only
  rw [List.getD_eq_getElem?_getD, List.getElem?_set_ne other.symm, ← List.getD_eq_getElem?_getD]
  rfl

theorem active_moveTo (active : p.Active v) : (p.moveTo v below tree state).Active v := by
  rw [Progress.Active, version_moveTo_self active.inside]
  exact active

theorem length_moveTo : (p.moveTo v below tree state).versions.length = p.versions.length :=
  List.length_set ..

/-- The other versions are still among the same states after `v` has moved. -/
theorem OthersAmong.moveTo {avoid : List StateId} (othersAmong : OthersAmong p v avoid) :
    OthersAmong (p.moveTo v below tree state) v avoid := by
  intro w inside other
  rw [length_moveTo] at inside
  obtain ⟨node, avoids⟩ := othersAmong w inside other
  have grows : p.stack.size < (p.moveTo v below tree state).stack.size := by
    rw [Progress.moveTo, Array.size_push]
    exact Nat.lt_succ_self _
  rw [version_moveTo_of_ne other]
  refine ⟨Nat.lt_trans node grows, fun active => ?_⟩
  rw [Progress.Active, version_moveTo_of_ne other] at active
  rw [Progress.state, Progress.top, version_moveTo_of_ne other, Progress.moveTo,
    node_push_of_lt _ node]
  exact avoids active

/-- A version on top of a pile goes on with one more tree, and stands on a pile again. -/
theorem Pile.moveTo {fs : List Frame} (pile : Pile text p.stack below fs)
    (inside : v < p.versions.length) (solid : tree.extra = false) :
    Pile text (p.moveTo v below tree state).stack ((p.moveTo v below tree state).version v).node
      (⟨state, tree⟩ :: fs) := by
  rw [version_moveTo_self inside]
  exact pile.push solid state

theorem top_moveTo (inside : v < p.versions.length) :
    (p.moveTo v below tree state).top v = p.stack.nodeOver below (some tree) state := by
  rw [Progress.top, version_moveTo_self inside]
  exact node_push_size _ _

/-- A version that has done nothing has moved to where it is. -/
theorem Moved.refl {cursor : Cursor} {slots : List Slot} (inside : v < p.versions.length)
    (pile : ∃ fs, Pile text p.stack (p.version v).node fs ∧ Shows fs slots)
    (place : (p.top v).place = cursor) : Moved text v cursor slots 0 p p where
  prolongs := .refl _
  versions := by
    refine ⟨(p.version v).node, ?_⟩
    rw [Progress.version_eq_getElem inside]
    exact (List.set_getElem_self inside).symm
  finished := rfl
  accepted := rfl
  pile := pile
  place := place
  favour := (Int.add_zero _).symm

/-- A move after a move: what speaks for the version adds up. -/
theorem Moved.after_moveTo {cursor : Cursor} {slots : List Slot} {bonus more : Int} {q : Progress}
    (inside : v < p.versions.length)
    (moved : Moved text v cursor slots more (p.moveTo v below tree state) q)
    (favour : (p.stack.nodeOver below (some tree) state).bonus = (p.top v).bonus + bonus) :
    Moved text v cursor slots (bonus + more) p q where
  prolongs := (Prolongs.push p.stack _).trans moved.prolongs
  versions := by
    obtain ⟨i, versions⟩ := moved.versions
    refine ⟨i, ?_⟩
    rw [versions, version_moveTo_self inside, Progress.moveTo, List.set_set]
  finished := moved.finished
  accepted := moved.accepted
  pile := moved.pile
  place := moved.place
  favour := by
    rw [moved.favour, top_moveTo inside, favour, Int.add_assoc]

/-- A version that has moved goes on from a node with one more tree on top: the token of its turn.
-/
theorem Moved.push (state : StateId) {cursor : Cursor} {slots : List Slot} {bonus : Int} {q : Progress}
    (inside : v < p.versions.length) (moved : Moved text v cursor slots bonus p q)
    (solid : tree.extra = false) (clean : tree.Clean false) (leaf : tree.bonus = 0) :
    Moved text v tree.label.stop (⟨state, false⟩ :: slots) bonus p
      (q.moveTo v (q.version v).node tree state) where
  prolongs := moved.prolongs.trans (Prolongs.push q.stack _)
  versions := by
    obtain ⟨i, versions⟩ := moved.versions
    refine ⟨q.stack.size, ?_⟩
    have version : q.version v = { p.version v with node := i } := by
      rw [Progress.version, versions, List.getD_eq_getElem?_getD, List.getElem?_set_self inside]
      rfl
    rw [Progress.moveTo, version, versions, List.set_set]
  finished := moved.finished
  accepted := moved.accepted
  pile := by
    obtain ⟨fs, pile, shown⟩ := moved.pile
    obtain ⟨i, versions⟩ := moved.versions
    have inside' : v < q.versions.length := by
      rw [versions, List.length_set]
      exact inside
    exact ⟨_, pile.moveTo inside' solid, .above rfl clean shown⟩
  place := by
    obtain ⟨i, versions⟩ := moved.versions
    have inside' : v < q.versions.length := by
      rw [versions, List.length_set]
      exact inside
    rw [top_moveTo inside']
    rfl
  favour := by
    obtain ⟨i, versions⟩ := moved.versions
    have inside' : v < q.versions.length := by
      rw [versions, List.length_set]
      exact inside
    rw [top_moveTo inside', ← moved.favour]
    change (q.top v).bonus + tree.bonus = _
    rw [leaf, Int.add_zero]

end

/-- **A version makes the reductions that were computed.**  The induction is on the reductions; each
one uses up one unit of fuel and leaves the token as it is. -/
theorem consume_of_groups {p : Progress} {v : Nat} (active : p.Active v)
    (few : p.versions.length ≤ maxVersions + versionOverflow) {fs : List Frame}
    {slots after : List Slot} {bonus : Int}
    (pile : Pile text p.stack (p.version v).node fs) (shown : Shows fs slots)
    {avoid : List StateId} (othersAmong : OthersAmong p v avoid) (token : SyntaxTree) {steps : Nat}
    (grouped : Groups avoid token.symbol steps slots after bonus) (fuel : Nat) :
    ∃ q, Moved text v (p.top v).place after bonus p q ∧
      Progress.consume v (fuel + steps) token p = Progress.consume v fuel token q := by
  have inside := active.inside
  -- on the phrases: each takes the frames it is made of off the pile
  induction grouped generalizing p fs with
  | none => exact ⟨p, .refl inside ⟨fs, pile, shown⟩ rfl, rfl⟩
  | @one symbol count steps bonus more slots after action allowed others ih =>
    obtain ⟨taken, base, rfl, rfl, floor, shows'⟩ :=
      shown.group allowed.deep allowed.sound allowed.noTag bonus (p.top v).place
    have away := allowed.away
    rw [← floor] at away shows'
    rw [← shown.topState] at action
    obtain ⟨below, pileBelow, consumed⟩ := consume_reduce active few pile action
      (othersAmong.apart away (p.top v).place) (fuel + steps)
    have solid : (groupOf symbol bonus (p.top v).place taken).extra = false := extra_addBonus _ _
    obtain ⟨q, moved, consumed'⟩ := ih (active_moveTo active) (by rwa [length_moveTo])
      (pileBelow.moveTo inside solid) shows' othersAmong.moveTo (by rwa [length_moveTo])
    have place : ((p.moveTo v below (groupOf symbol bonus (p.top v).place taken)
        (goto (topState base) symbol)).top v).place = (p.top v).place := by
      rw [top_moveTo inside]
      change (groupOf symbol bonus (p.top v).place taken).label.stop = _
      exact groupOf_stop pile.top_stop
    rw [place] at moved
    refine ⟨q, moved.after_moveTo inside ?_, consumed.trans consumed'⟩
    change (p.stack.node below).bonus + (groupOf symbol bonus _ taken).bonus = _
    rw [pileBelow.bonus, Progress.top, pile.bonus, favourOf_append,
      bonus_groupOf bonus fun none => allowed.counts (List.length_eq_zero_iff.mpr none)]
    omega

/-- **A version takes a token**, as computed: the reductions, and then the shift.  By induction on
the reductions, each of which replaces the version by a new one. -/
theorem consume_of_turns {p : Progress} {v : Nat} (active : p.Active v)
    (few : p.versions.length ≤ maxVersions + versionOverflow) {fs : List Frame}
    {slots after : List Slot} {bonus : Int}
    (pile : Pile text p.stack (p.version v).node fs) (shown : Shows fs slots)
    {avoid : List StateId} (othersAmong : OthersAmong p v avoid) (token : SyntaxTree)
    (clean : (token.withExtra false).Clean false) (leaf : token.bonus = 0)
    (turns : Turns avoid token.symbol slots after bonus) {fuel : Nat}
    (enough : enoughGroups < fuel) :
    Moved text v token.label.stop after bonus p (Progress.consume v fuel token p) := by
  obtain ⟨steps, fewSteps, grouped, next, others, grouping, action, -, rfl⟩ := turns.shifts
  obtain ⟨more, rfl⟩ : ∃ more, fuel = more + 1 + steps := ⟨fuel - steps - 1, by omega⟩
  obtain ⟨q, moved, consumed⟩ :=
    consume_of_groups active few pile shown othersAmong token grouping (more + 1)
  obtain ⟨gs, pile', shows'⟩ := moved.pile
  have state : q.state v = topSlot grouped := pile'.state.trans shows'.topState
  rw [consumed, consume_shift (by rw [state]; exact action)]
  have pushed := moved.push next active.inside (extra_withExtra token false) clean
    ((bonus_withExtra token false).trans leaf)
  rw [(similar_withExtra token false).stop] at pushed
  exact pushed

/-- Version `v` stops at a token. -/
def stoppedAt (token : SyntaxTree) (v : Nat) (q : Progress) : Progress :=
  q.setVersion v
    { q.version v with status := .paused token, countAtError := (q.top v).nodeCount }

/-- **A version stops at a token**, as computed: the reductions, and then no action is left.  The
version remembers the token, with which recovery would begin. -/
theorem consume_of_stalls {p : Progress} {v : Nat} (active : p.Active v)
    (few : p.versions.length ≤ maxVersions + versionOverflow) {fs : List Frame}
    {slots after : List Slot} {bonus : Int}
    (pile : Pile text p.stack (p.version v).node fs) (shown : Shows fs slots)
    {avoid : List StateId} (othersAmong : OthersAmong p v avoid) (token : SyntaxTree)
    (stalls : Stalls avoid token.symbol slots after bonus) {fuel : Nat}
    (enough : enoughGroups < fuel) :
    ∃ q, Moved text v (p.top v).place after bonus p q ∧
      Progress.consume v fuel token p = stoppedAt token v q := by
  obtain ⟨steps, fewSteps, grouped⟩ := stalls.grouped
  obtain ⟨more, rfl⟩ : ∃ more, fuel = more + 1 + steps := ⟨fuel - steps - 1, by omega⟩
  obtain ⟨q, moved, consumed⟩ :=
    consume_of_groups active few pile shown othersAmong token grouped (more + 1)
  obtain ⟨gs, pile', shows'⟩ := moved.pile
  have state : q.state v = topSlot after := pile'.state.trans shows'.topState
  refine ⟨q, moved, ?_⟩
  rw [consumed, Progress.consume, state, stalls.action, Progress.act]
  dsimp only
  rw [state, stalls.noName, if_neg Bool.false_ne_true, if_neg stalls.outside]
  rfl

end Parse

end JsxDetect
