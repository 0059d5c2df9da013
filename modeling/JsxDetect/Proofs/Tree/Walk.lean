import Mathlib.Data.List.TakeWhile
import JsxDetect.Proofs.Tree.Nodes

/-!
# The walk over a tree

A search for JSX walks over the tree with one place that is moved, and keeps nothing else.  So what
is still to come has to be read off this place: the nodes below it, those below its later siblings,
and the same for each of the trees it lies in.  `Location.onward` lists them, and a step of the walk
takes exactly the first of them away, whether it goes down, on, or up over many levels.

It follows that the walk is the recursive one: it comes to the places of the tree one after the
other, from the top down and from left to right, to none of them twice, and it stops at the first
that is an answer.

## Main Definitions

* `Rose.places`: the places of a tree, by recursion into the tree
* `Location.onward`: the places from a place on
* `Location.visits`: the places that a search comes to
* `JsxKind.Names`, `JsxKind.Accepts`: what a search for JSX looks for

## Main Results

* `Location.onward_eq`: one step of the walk
* `Location.search_eq`: the result of a search
* `firstJsxNode?_refines_preorder`: the search for JSX is the recursive one

## Design Notes

**A measure that is a list.**  The walk ends because the number of nodes still to come goes down,
which the definition uses for termination.  `onward` refines the number to the list itself, and
`onward_eq` says that each step takes off its head.  All that is claimed of the walk are then facts
about this list: the order, that no place occurs twice, and that the first answer is found.

**Two claims apart.**  `search_eq` is about the answer, `visits_eq` about the places that are looked
at before it.  The second is stronger than the first needs, since an implementation might look
further; it is how the walk is seen to stop.
-/

namespace JsxDetect

/-! ### The places of a tree -/

namespace Rose

variable {α : Type}

mutual
/-- The places of a tree, from the top down and from left to right; the tree has some later siblings
and lies in some trees. -/
def placesIn (later : List (Rose α)) (above : List (Rose α × List (Rose α))) :
    Rose α → List (Location α)
  | node label children =>
    ⟨node label children, later, above⟩ :: placesAmong ((node label children, later) :: above) children

/-- The places of some siblings, one tree after the other. -/
def placesAmong (above : List (Rose α × List (Rose α))) : List (Rose α) → List (Location α)
  | [] => []
  | t :: ts => placesIn ts above t ++ placesAmong above ts
end

/-- The places of a tree, from the top down and from left to right. -/
def places (tree : Rose α) : List (Location α) := placesIn [] [] tree

@[simp] theorem placesAmong_nil (above : List (Rose α × List (Rose α))) :
    placesAmong above [] = [] := by
  rw [placesAmong]

@[simp] theorem placesAmong_cons (above : List (Rose α × List (Rose α))) (t : Rose α)
    (ts : List (Rose α)) :
    placesAmong above (t :: ts) = placesIn ts above t ++ placesAmong above ts := by
  rw [placesAmong]

theorem placesIn_eq (later : List (Rose α)) (above : List (Rose α × List (Rose α))) (t : Rose α) :
    placesIn later above t = ⟨t, later, above⟩ :: placesAmong ((t, later) :: above) t.children := by
  cases t with
  | node label children => rw [placesIn, Rose.children]

mutual
/-- There is one place for each node, in the same order. -/
theorem labels_placesIn (later : List (Rose α)) (above : List (Rose α × List (Rose α))) :
    ∀ t : Rose α, (placesIn later above t).map (fun l => l.here.label) = t.nodes
  | node label children => by
    rw [placesIn, nodes, List.map_cons, labels_placesAmong]
    rfl

theorem labels_placesAmong (above : List (Rose α × List (Rose α))) :
    ∀ ts : List (Rose α), (placesAmong above ts).map (fun l => l.here.label) = nodesOfAll ts
  | [] => by rw [placesAmong_nil, nodesOfAll_nil, List.map_nil]
  | t :: ts => by
    rw [placesAmong_cons, nodesOfAll_cons, List.map_append, labels_placesIn, labels_placesAmong]
end

end Rose

/-! ### What is still to come -/

namespace Location

variable {α β : Type}

/-- The places behind the trees that a place lies in. -/
def onwardAbove : List (Rose α × List (Rose α)) → List (Location α)
  | [] => []
  | (_, later) :: above => Rose.placesAmong above later ++ onwardAbove above

/-- The places from a place on, this one included. -/
def onward (l : Location α) : List (Location α) :=
  Rose.placesIn l.later l.above l.here ++ Rose.placesAmong l.above l.later ++ onwardAbove l.above

/-- The places from a place on, if there is one. -/
def onward? : Option (Location α) → List (Location α)
  | some l => l.onward
  | none => []

theorem onward_root (tree : Rose α) : (root tree).onward = tree.places := by
  rw [onward, root, Rose.placesAmong_nil, List.append_nil]
  exact List.append_nil _

/-- A place is left for what is behind it, however far up the next place is. -/
theorem onward_leave (l : Location α) :
    onward? l.leave? = Rose.placesAmong l.above l.later ++ onwardAbove l.above := by
  -- a sibling comes next; without one the search goes on above, where nothing is left to the right
  fun_induction leave? l with
  | case1 l sibling toSibling =>
    obtain ⟨here, later, above⟩ := l
    cases later with
    | nil => cases toSibling
    | cons next later =>
      cases toSibling
      rw [Rose.placesAmong_cons]
      rfl
  | case2 l noSibling parent up ih =>
    obtain ⟨here, later, above⟩ := l
    cases later with
    | cons next later => cases noSibling
    | nil =>
      cases above with
      | nil => cases up
      | cons tree above =>
        cases up
        rw [ih, Rose.placesAmong_nil, List.nil_append]
        rfl
  | case3 l noSibling top =>
    obtain ⟨here, later, above⟩ := l
    cases later with
    | cons next later => cases noSibling
    | nil =>
      cases above with
      | nil =>
        rw [Rose.placesAmong_nil, List.nil_append]
        rfl
      | cons tree above => cases top

/-- **One step of the walk** takes the first of the places away.  Below a node its first child is
next; from a leaf it is the next sibling, here or further up. -/
theorem onward_eq (l : Location α) : l.onward = l :: onward? l.advance? := by
  rw [onward, Rose.placesIn_eq, advance?, firstChild?]
  cases l.here.children with
  | nil =>
    rw [Rose.placesAmong_nil, List.cons_append, List.nil_append, List.cons_append]
    exact congrArg _ (onward_leave l).symm
  | cons child later =>
    rw [Rose.placesAmong_cons]
    simp only [onward?, onward, onwardAbove, List.cons_append, List.append_assoc]

/-- What follows for a place from the next one holds of every place, as the walk ends. -/
theorem walk_induction {P : Location α → Prop}
    (step : ∀ l, (∀ next, l.advance? = some next → P next) → P l) (l : Location α) : P l :=
  step l fun next _moved => walk_induction step next
termination_by l.remaining
decreasing_by exact Nat.lt_of_succ_le (Nat.le_of_eq (remaining_advance _moved))

/-- From place to place, fewer nodes remain. -/
theorem pairwise_onward (l : Location α) :
    l.onward.Pairwise fun earlier later => later.remaining < earlier.remaining := by
  have decreasing : (∀ m ∈ l.onward, m.remaining ≤ l.remaining) ∧
      l.onward.Pairwise fun earlier later => later.remaining < earlier.remaining := by
    induction l using walk_induction with
    | step l ih =>
      rw [onward_eq]
      cases moved : l.advance? with
      | none => exact ⟨by simp [onward?], by simp [onward?]⟩
      | some next =>
        obtain ⟨atMost, sorted⟩ := ih next moved
        have less := remaining_advance moved
        refine ⟨fun m mem => ?_, List.pairwise_cons.mpr ⟨fun m mem => ?_, sorted⟩⟩
        · rcases List.mem_cons.mp mem with rfl | mem
          · exact Nat.le_refl _
          · have := atMost m mem
            omega
        · have := atMost m mem
          omega
  exact decreasing.2

/-! ### Searches -/

/-- The places that a search comes to. -/
def visits (answer : α → Option β) (l : Location α) : List (Location α) :=
  match answer l.here.label with
  | some _ => [l]
  | none =>
    match _moved : l.advance? with
    | some next => l :: visits answer next
    | none => [l]
termination_by l.remaining
decreasing_by exact Nat.lt_of_succ_le (Nat.le_of_eq (remaining_advance _moved))

/-- **The result of a search** is the first answer from its place on.  By induction along the walk.
-/
theorem search_eq (answer : α → Option β) (l : Location α) :
    l.search answer = l.onward.findSome? fun m => answer m.here.label := by
  fun_induction search answer l with
  | case1 l b here => rw [onward_eq, List.findSome?_cons, here]
  | case2 l noAnswer next moved ih =>
    rw [onward_eq, List.findSome?_cons, noAnswer, moved]
    exact ih
  | case3 l noAnswer last =>
    rw [onward_eq, List.findSome?_cons, noAnswer, last]
    rfl

/-- A search comes to the places that give no answer, and to the next one behind them if any. -/
theorem visits_eq (answer : α → Option β) (l : Location α) :
    l.visits answer = (l.onward.takeWhile fun m => (answer m.here.label).isNone) ++
      (l.onward.dropWhile fun m => (answer m.here.label).isNone).take 1 := by
  fun_induction visits answer l with
  | case1 l b here => rw [onward_eq, List.takeWhile_cons, List.dropWhile_cons, here]; rfl
  | case2 l noAnswer next moved ih =>
    rw [onward_eq, List.takeWhile_cons, List.dropWhile_cons, noAnswer, moved, ih]
    rfl
  | case3 l noAnswer last =>
    rw [onward_eq, List.takeWhile_cons, List.dropWhile_cons, noAnswer, last]
    rfl

/-- A search comes to the places in their order, and to none twice. -/
theorem visits_prefix (answer : α → Option β) (l : Location α) : l.visits answer <+: l.onward := by
  have whole := List.takeWhile_append_dropWhile
    (p := fun m : Location α => (answer m.here.label).isNone) (l := l.onward)
  rw [visits_eq]
  conv => rhs; rw [← whole]
  exact (List.prefix_append_right_inj _).mpr (List.take_prefix 1 _)

/-- A search stops at the first place that gives an answer. -/
theorem visits_of_answer {answer : α → Option β} {l m : Location α}
    {before after : List (Location α)} (split : l.onward = before ++ m :: after)
    (earlier : ∀ k ∈ before, answer k.here.label = none)
    {b : β} (here : answer m.here.label = some b) : l.visits answer = before ++ [m] := by
  have pass : ∀ k ∈ before, (answer k.here.label).isNone = true := fun k mem => by
    rw [earlier k mem]
    rfl
  rw [visits_eq, split, List.takeWhile_append_of_pos pass, List.dropWhile_append_of_pos pass,
    List.takeWhile_cons, List.dropWhile_cons, here, Option.isNone_some, if_neg Bool.false_ne_true,
    if_neg Bool.false_ne_true, List.append_nil]
  rfl

/-- A search without an answer comes to every place. -/
theorem visits_of_no_answer {answer : α → Option β} {l : Location α}
    (never : ∀ k ∈ l.onward, answer k.here.label = none) : l.visits answer = l.onward := by
  have pass : ∀ k ∈ l.onward, (answer k.here.label).isNone = true := fun k mem => by
    rw [never k mem]
    rfl
  rw [visits_eq, List.takeWhile_eq_self_iff.mpr pass, List.dropWhile_eq_nil_iff.mpr pass,
    List.take_nil, List.append_nil]

end Location

/-- **The walk over a tree** gives the first answer among its labels, in the order from the top down
and from left to right. -/
theorem Rose.findFirst?_eq {α β : Type} (answer : α → Option β) (tree : Rose α) :
    tree.findFirst? answer = tree.nodes.findSome? answer := by
  rw [findFirst?, Location.search_eq, Location.onward_root, ← labels_placesIn [] [] tree,
    List.findSome?_map]
  rfl

/-! ### Searching for JSX -/

namespace JsxKind

/-- The names of the nodes that are JSX. -/
inductive Names : String → JsxKind → Prop where
  | element : Names "jsx_element" element
  | selfClosingElement : Names "jsx_self_closing_element" selfClosingElement

/-- A node is of a kind exactly if it has its name. -/
theorem ofNodeKind?_eq_some_iff {name : String} {kind : JsxKind} :
    ofNodeKind? name = some kind ↔ Names name kind := by
  constructor
  · intro found
    rw [ofNodeKind?] at found
    split at found
    · next same => cases found; rw [same]; exact .element
    · split at found
      · next same => cases found; rw [same]; exact .selfClosingElement
      · cases found
  · rintro (_ | _) <;> rfl

/-- A node of a name is what a search is after: JSX of an acceptable kind. -/
def Accepts (acceptable : JsxKind → Bool) (name : String) (kind : JsxKind) : Prop :=
  Names name kind ∧ acceptable kind = true

theorem acceptedOf?_eq_some_iff {acceptable : JsxKind → Bool} {name : String} {kind : JsxKind} :
    acceptedOf? acceptable name = some kind ↔ Accepts acceptable name kind := by
  rw [acceptedOf?, Option.filter_eq_some_iff, ofNodeKind?_eq_some_iff, Accepts]

theorem acceptedOf?_eq_none_iff {acceptable : JsxKind → Bool} {name : String} :
    acceptedOf? acceptable name = none ↔ ∀ kind, ¬Accepts acceptable name kind := by
  rw [Option.eq_none_iff_forall_ne_some]
  exact forall_congr' fun kind => not_congr acceptedOf?_eq_some_iff

end JsxKind

/-- **The first JSX of a syntax tree** is the first among its nodes.  In this form it is compared
with what is known of the nodes. -/
theorem SyntaxTree.firstJsx?_eq (t : SyntaxTree) :
    t.firstJsx? (fun _ => true) = t.nodes.findSome? jsxKind := by
  have answer : (fun info : SyntaxInfo =>
      JsxKind.acceptedOf? (fun _ => true) info.symbol.name) = jsxKind := by
    funext info
    rw [JsxKind.acceptedOf?, jsxKind]
    cases JsxKind.ofNodeKind? info.symbol.name with
    | none => rfl
    | some kind => rfl
  rw [firstJsx?, Rose.firstJsxNode?, Rose.findFirst?_eq, answer]

/-- **The search for JSX is the recursive one**, over all trees, however their nodes are named and
whatever is acceptable.  The recursion into a tree lists each of its nodes at one place.  The search
comes to these places one after the other, to none twice, and ends.  It finds a kind exactly if it
stops at a place where this kind is acceptable and none was before, whatever else was there; and it
finds nothing exactly if there is no such place, after it has been at all of them. -/
theorem firstJsxNode?_refines_preorder {α : Type} (nodeKind : α → String)
    (acceptable : JsxKind → Bool) (tree : Rose α) :
    let wanted (l : Location α) (kind : JsxKind) : Prop :=
      JsxKind.Accepts acceptable (nodeKind l.here.label) kind
    let visited := (Location.root tree).visits fun label =>
      JsxKind.acceptedOf? acceptable (nodeKind label)
    (tree.places.map (fun l => l.here.label) = tree.nodes ∧ tree.places.Nodup ∧
      visited <+: tree.places) ∧
    (∀ kind, tree.firstJsxNode? nodeKind acceptable = some kind ↔
      ∃ before found after, tree.places = before ++ found :: after ∧ visited = before ++ [found] ∧
        wanted found kind ∧ ∀ l ∈ before, ∀ other, ¬wanted l other) ∧
    (tree.firstJsxNode? nodeKind acceptable = none ↔
      visited = tree.places ∧ ∀ l ∈ tree.places, ∀ kind, ¬wanted l kind) := by
  intro wanted visited
  have result : tree.firstJsxNode? nodeKind acceptable =
      tree.places.findSome? fun l => JsxKind.acceptedOf? acceptable (nodeKind l.here.label) := by
    rw [Rose.firstJsxNode?, Rose.findFirst?, Location.search_eq, Location.onward_root]
  have unwanted (l : Location α) :
      JsxKind.acceptedOf? acceptable (nodeKind l.here.label) = none ↔ ∀ kind, ¬wanted l kind :=
    JsxKind.acceptedOf?_eq_none_iff
  have places : (Location.root tree).onward = tree.places := Location.onward_root tree
  refine ⟨⟨Rose.labels_placesIn [] [] tree, ?_, ?_⟩, fun kind => ?_, ?_⟩
  · rw [← places]
    exact (Location.pairwise_onward _).imp fun less same =>
      absurd less (by rw [same]; exact Nat.lt_irrefl _)
  · rw [← places]
    exact Location.visits_prefix _ _
  · rw [result, List.findSome?_eq_some_iff]
    constructor
    · rintro ⟨before, found, after, split, here, earlier⟩
      exact ⟨before, found, after, split,
        Location.visits_of_answer (places.trans split) earlier here,
        JsxKind.acceptedOf?_eq_some_iff.mp here, fun l mem => (unwanted l).mp (earlier l mem)⟩
    · rintro ⟨before, found, after, split, -, here, earlier⟩
      exact ⟨before, found, after, split, JsxKind.acceptedOf?_eq_some_iff.mpr here,
        fun l mem => (unwanted l).mpr (earlier l mem)⟩
  · rw [result, List.findSome?_eq_none_iff]
    constructor
    · intro never
      refine ⟨?_, fun l mem => (unwanted l).mp (never l mem)⟩
      rw [← places]
      exact Location.visits_of_no_answer (by rwa [places])
    · rintro ⟨-, never⟩ l mem
      exact (unwanted l).mpr (never l mem)

/-- A node that is not acceptable is still looked into. -/
example :
    (Rose.node "jsx_element" [.node "jsx_text" [], .node "jsx_self_closing_element" []]).firstJsxNode?
      id (fun kind => kind = .selfClosingElement) = some .selfClosingElement := by decide +kernel

end JsxDetect
