import JsxDetect.Proofs.Automaton.Entries

/-!
# States behind a tag

The nodes of JSX elements are completed in few states.  Each of these states lies a fixed number
of trees behind the `<` of the element, or behind its opening tag, and so do the states on the
way there.  The numbers are a certificate: it suffices to check each entry of the automaton
against them.

## Main Definitions

* `elementSymbols`: the symbols of JSX elements and their opening tags
* `behindTag`: how many trees a state lies behind a tag or its `<`

## Main Results

* `way_of_shift`, `way_of_goto`: the way into a state behind a tag
* `completes_of_mem`: an element is completed over as many trees

## Design Notes

**What is to be shown.**  Wherever the parser completes an element, one of the trees it is put
together from is the `<` of its tag, or an opening tag, which has one.  The parser pops a number of
trees off a stack, so the claim is about paths in the automaton.  `behindTag` labels states such
that every way into a state with label `n + 1` comes from a state with label `n`, and every element
is completed in a state whose label is the number of trees.  Both are properties of single entries.

**How it is checked.**  Few entries concern these states.  `flagged` marks their codes, `vet` skips
a pair whose entry has no mark, and one evaluation over all rows, `rowHolds_packedRows`, checks the
rest.  It is the slowest single step of the project, and it is made once.

**When the grammar changes.**  The lists have to be found again: they are the states backwards from
those in which an element is completed.  If one is missing or wrong, the evaluation fails.
-/

namespace JsxDetect.Automaton

/-- The token `<`. -/
def lessThan : Symbol := 96

/-- The opening tag of an element. -/
def openingTag : Symbol := 232

/-- The symbols of JSX elements: those with children, opening tags, and those without. -/
def elementSymbols : List Symbol := [230, openingTag, 236]

/-- The states that lie one, two, three, four and five trees behind a tag or its `<`. -/
def statesBehindTag : List (List StateId) := [
  [3339, 3364, 3614, 3697, 3023, 3099, 3101, 3103],
  [3146, 3109, 3295, 3134, 3312, 3136, 3322, 3137, 2731, 2733, 2892, 2961, 2963, 3017, 3018, 3019,
    3762, 4200, 4186, 2092, 1578, 3025, 3100, 3102, 3104, 4201, 4187, 2098, 1584],
  [3323, 3313, 3298, 3153, 3326, 3316, 3301, 3156, 3154, 3299, 3314, 3324, 3155, 3300, 3315, 3325,
    3781, 3779, 4203, 4202, 4189, 4188, 2115, 2114, 1595, 1594, 4205, 4191, 2123, 1604],
  [3328, 3319, 3307, 3174, 3329, 3320, 3308, 3175, 3807, 3806, 3805, 3803, 4209, 4208, 4207, 4206,
    4195, 4194, 4193, 4192, 2154, 2153, 2152, 2151, 1623, 1622, 1621, 1620],
  [3837, 3836, 4213, 4212, 4199, 4198, 2177, 2176, 1637, 1636]]

/-- The position, counted from `depth`, of the first list with a state; 0 if there is none. -/
def depthIn (state : StateId) : Nat → List (List StateId) → Nat
  | _, [] => 0
  | depth, states :: more =>
    if states.contains state then depth else depthIn state (depth + 1) more

/-- The number of trees that a state lies behind a tag or its `<`; 0 if it does not. -/
def behindTag (state : StateId) : Nat := depthIn state 1 statesBehindTag

/-! ### The certificate -/

/-- Does the way over the symbols of `set` into the state `next` fit the numbers?  The way into
a state right behind a tag is over the symbol with the bit `tag`. -/
def wayHolds (state : StateId) (set tag : Nat) (next : StateId) : Bool :=
  match behindTag next with
  | 0 => true
  | 1 => set == 1 <<< tag
  | depth + 2 => behindTag state == depth + 1

/-- Does an action at the tokens of `set` fit the numbers? -/
def actionHolds (state : StateId) (set : Nat) : Action → Bool
  | .shift next _ => wayHolds state set lessThan next
  | .reduce symbol count _ => !elementSymbols.contains symbol || behindTag state == count
  | _ => true

/-- Has the action nothing to do with states behind a tag? -/
def Action.isPlain : Action → Bool
  | .shift next _ => behindTag next == 0
  | .reduce symbol .. => !elementSymbols.contains symbol
  | _ => true

/-- Does the action complete no token, and an element only over some trees? -/
def Action.completesPhrase : Action → Bool
  | .reduce symbol count _ =>
    Symbol.tokenCount ≤ symbol && symbol < Symbol.skipped &&
      (!elementSymbols.contains symbol || count != 0)
  | _ => true

/-- The lists of actions, by their codes, that have to do with states behind a tag. -/
def listsBehindTag : List Nat := [
  8246, 8296, 8305, 8308, 8408, 8409, 8412, 8435, 8526, 8536, 8542, 8602, 8736, 8758]

/-- The codes of entries that have to do with states behind a tag, with a bit for each. -/
def flagged : Nat :=
  (statesBehindTag.flatten ++ listsBehindTag).foldl (fun mask code => mask ||| 1 <<< code) 0

/-- Does something hold of a pair whose entry has a flag?  Few pairs have to be looked at. -/
noncomputable def vet (flags : Nat) (holds : Nat → Bool) (d : Nat) : Bool :=
  (((flags.shiftRight (d.shiftRight 10)).mod 2).beq 0).rec (holds d) true

/-- Do the entries of a stored row fit the numbers? -/
noncomputable def rowHolds (state : StateId) (r : PackedRow) : Bool :=
  allPairs (vet flagged fun d =>
      (actionsOf (d >>> 10)).all (actionHolds state (tokenSets.get (d % 1024) 0))) 256 r.actions &&
    allPairs (vet flagged fun d =>
      wayHolds state (phraseSets.get (d % 1024) 0) (openingTag - Symbol.tokenCount) (d >>> 10))
      256 r.gotos

/-- **The certificate holds** of all rows, by evaluation.  This is the one place where the whole of
the automaton is looked at; what follows reads single entries off it. -/
theorem rowHolds_packedRows : allChunks rowHolds 0 packedRows = true := by decide +kernel

/-- No list of actions outside the certificate has to do with states behind a tag, and what is
completed is no token. -/
theorem listsOfActions_plain :
    allChunks (fun i list => list.all fun a =>
        (flagged.testBit (i + 8192) || a.isPlain) && a.completesPhrase) 0 listsOfActions = true := by
  decide +kernel

/-- In a state right behind a tag or its `<` no phrase is completed. -/
theorem noReduction_behindTag :
    (statesBehindTag.headD []).all (fun state =>
      allPairs (fun d => match actionsOf (d >>> 10) with
        | .reduce .. :: _ => false
        | _ => true) 256 (packedRow state).actions) = true := by
  decide +kernel

/-! ### What the certificate says -/

/-- A bit of the mask is set for each of the codes, and no other. -/
theorem testBit_foldl_mask (codes : List Nat) (mask i : Nat) :
    (codes.foldl (fun mask code => mask ||| 1 <<< code) mask).testBit i = true ↔
      mask.testBit i = true ∨ i ∈ codes := by
  induction codes generalizing mask with
  | nil => simp
  | cons code codes ih =>
    rw [List.foldl_cons, ih, Nat.testBit_or, Nat.one_shiftLeft, Nat.testBit_two_pow]
    simp only [Bool.or_eq_true, decide_eq_true_eq, List.mem_cons, eq_comm (a := code), or_assoc]

/-- A state with a label is in one of the lists. -/
theorem mem_of_depthIn {state : StateId} {depth : Nat} {lists : List (List StateId)}
    (found : depthIn state depth lists ≠ 0) : state ∈ lists.flatten := by
  induction lists generalizing depth with
  | nil => exact absurd rfl found
  | cons states more ih =>
    rw [depthIn] at found
    rw [List.flatten_cons, List.mem_append]
    split at found
    · next inside => exact .inl (List.contains_iff_mem.mp inside)
    · exact .inr (ih found)

/-- A state without a flag has no label. -/
theorem behindTag_eq_zero {state : StateId} (clear : flagged.testBit state = false) :
    behindTag state = 0 := by
  refine Decidable.byContradiction fun behind => ?_
  have inside : state ∈ statesBehindTag.flatten := mem_of_depthIn behind
  have set : flagged.testBit state = true :=
    (testBit_foldl_mask _ _ _).mpr (.inr (List.mem_append_left _ inside))
  rw [clear] at set
  cases set

/-- A state right behind a tag is in the first list. -/
theorem mem_of_behindTag_eq_one {state : StateId} (behind : behindTag state = 1) :
    state ∈ statesBehindTag.headD [] := by
  have later : ∀ (lists : List (List StateId)) (depth : Nat), 2 ≤ depth →
      depthIn state depth lists ≠ 1 := by
    intro lists
    induction lists with
    | nil => exact fun _ _ => Nat.zero_ne_one
    | cons states more ih =>
      intro depth above
      rw [depthIn]
      split
      · omega
      · exact ih (depth + 1) (by omega)
  rw [behindTag, statesBehindTag, depthIn] at behind
  split at behind
  · next inside => exact List.contains_iff_mem.mp inside
  · exact absurd behind (later _ 2 (Nat.le_refl 2))

/-- A pair that was vetted has no flag, or the question was answered for it. -/
theorem holds_of_vet {flags : Nat} {holds : Nat → Bool} {d : Nat}
    (vetted : vet flags holds d = true) :
    flags.testBit (d >>> 10) = false ∨ holds d = true := by
  have bit : flags.testBit (d >>> 10) = !((flags >>> (d >>> 10)) % 2).beq 0 := by
    rw [Nat.testBit_eq_decide_div_mod_eq, Nat.shiftRight_eq_div_pow flags]
    rcases Nat.mod_two_eq_zero_or_one (flags / 2 ^ (d >>> 10)) with zero | one
    · rw [zero]
      rfl
    · rw [one]
      rfl
  have unfolded : vet flags holds d =
      (((flags >>> (d >>> 10)) % 2).beq 0).rec (holds d) true := rfl
  rw [bit]
  rw [unfolded] at vetted
  cases clear : ((flags >>> (d >>> 10)) % 2).beq 0 with
  | true => exact .inl rfl
  | false =>
    rw [clear] at vetted
    exact .inr vetted

/-- Actions without a flag have nothing to do with states behind a tag. -/
theorem isPlain_of_clear {code : Nat} (clear : flagged.testBit code = false) {a : Action}
    (mem : a ∈ actionsOf code) : a.isPlain = true := by
  rw [actionsOf] at mem
  split at mem
  · cases mem
  · split at mem
    · cases List.mem_singleton.mp mem
      rw [Action.isPlain, behindTag_eq_zero clear]
      rfl
    · next some small =>
      rw [actionLists, Chunked.get_ofLists] at mem
      have checked := List.all_eq_true.mp
        (getD_of_allChunks listsOfActions_plain (fun _ => rfl) (code - 8192)) a mem
      rw [Nat.sub_add_cancel (Nat.not_lt.mp small), clear, Bool.false_or, Bool.and_eq_true]
        at checked
      exact checked.1

/-- No action completes a token, and none an element over no trees. -/
theorem completesPhrase_of_mem {state : StateId} {token : Symbol} {a : Action}
    (mem : a ∈ actions state token) : a.completesPhrase = true := by
  rw [actions, actionsOf] at mem
  split at mem
  · cases mem
  · split at mem
    · cases List.mem_singleton.mp mem
      rfl
    · rw [actionLists, Chunked.get_ofLists] at mem
      have checked := List.all_eq_true.mp
        (getD_of_allChunks listsOfActions_plain (fun _ => rfl) _) _ mem
      rw [Bool.and_eq_true] at checked
      exact checked.2

theorem rowHolds_packedRow (state : StateId) : rowHolds state (packedRow state) = true :=
  getD_of_allChunks rowHolds_packedRows (fun _ => rfl) state

theorem eq_of_testBit_single {symbol tag : Nat} (bit : (1 <<< tag).testBit symbol = true) :
    symbol = tag := by
  rw [Nat.one_shiftLeft, Nat.testBit_two_pow, decide_eq_true_eq] at bit
  exact bit.symm

/-- What the way over a symbol into a state says of the numbers. -/
structure Way (state : StateId) (symbol : Symbol) (next : StateId) : Prop where
  /-- The way into a state right behind a tag is over its `<`, or over all of it. -/
  first : behindTag next = 1 → symbol = lessThan ∨ symbol = openingTag
  /-- Other states behind a tag are entered from such states. -/
  later : ∀ depth, behindTag next = depth + 2 → behindTag state = depth + 1

theorem Way.of_eq_zero {state next : StateId} {symbol : Symbol} (none : behindTag next = 0) :
    Way state symbol next where
  first one := by omega
  later _ two := by omega

/-- What was evaluated for a set of symbols says so of each of them. -/
theorem Way.of_wayHolds {state next : StateId} {symbol : Symbol} {set tag : Nat}
    (holds : wayHolds state set tag next = true)
    (single : set = 1 <<< tag → symbol = lessThan ∨ symbol = openingTag) :
    Way state symbol next := by
  rw [wayHolds] at holds
  split at holds
  · next none => exact .of_eq_zero none
  · next one =>
    exact ⟨fun _ => single (by simpa using holds), fun _ two => by omega⟩
  · next depth deeper =>
    refine ⟨fun one => by omega, fun depth' deeper' => ?_⟩
    have before : behindTag state = depth + 1 := by simpa using holds
    omega

/-- **The way of a shift** fits the numbers.  Its action comes from a pair of the row: either the
pair was vetted, or its code has no flag and then the next state has no number. -/
theorem way_of_shift {state next : StateId} {token : Symbol} {repeats : Bool}
    (mem : .shift next repeats ∈ actions state token) : Way state token next := by
  rcases actions_eq_nil_or state token with none | ⟨d, inside, bit, equal⟩
  · rw [none] at mem
    cases mem
  · rw [equal] at mem
    have checked := rowHolds_packedRow state
    rw [rowHolds, Bool.and_eq_true] at checked
    rcases holds_of_vet (of_allPairs checked.1 inside) with clear | holds
    · have plain := isPlain_of_clear clear mem
      exact .of_eq_zero (by simpa [Action.isPlain] using plain)
    · refine .of_wayHolds (List.all_eq_true.mp holds _ mem) fun single => .inl ?_
      rw [single] at bit
      exact eq_of_testBit_single bit

/-- **The way over a completed phrase** fits the numbers.  No phrase is a `<`, so the way into a
state right behind a tag is over an opening tag. -/
theorem way_of_goto (state : StateId) {symbol : Symbol} (phrase : Symbol.tokenCount ≤ symbol) :
    Way state symbol (goto state symbol) := by
  rcases goto_eq_zero_or state phrase with none | ⟨d, inside, bit, equal⟩
  · rw [none]
    exact .of_eq_zero (by decide)
  · have checked := rowHolds_packedRow state
    rw [rowHolds, Bool.and_eq_true] at checked
    rw [equal]
    rcases holds_of_vet (of_allPairs checked.2 inside) with clear | holds
    · exact .of_eq_zero (behindTag_eq_zero clear)
    · refine .of_wayHolds holds fun single => .inr ?_
      rw [single] at bit
      have same := eq_of_testBit_single bit
      have bound : Symbol.tokenCount ≤ openingTag := by decide
      have cancel : ∀ a b k : Nat, k ≤ a → k ≤ b → a - k = b - k → a = b := by omega
      exact cancel _ _ _ phrase bound same

/-- What is known of a phrase that is completed in a state over a number of trees. -/
structure Completes (state : StateId) (symbol : Symbol) (count : Nat) : Prop where
  outside : state ≠ 0
  phrase : Symbol.tokenCount ≤ symbol
  noError : symbol < Symbol.skipped
  /-- An element is completed over the trees behind its tag or its `<`. -/
  element : symbol ∈ elementSymbols → 0 < count ∧ behindTag state = count

/-- **A phrase is completed** only where the certificate allows it.  This is all that the parser's
invariant needs to know of the grammar when a version makes a reduction. -/
theorem completes_of_mem {state : StateId} {token symbol : Symbol} {count : Nat} {bonus : Int}
    (mem : .reduce symbol count bonus ∈ actions state token) : Completes state symbol count := by
  have known := completesPhrase_of_mem mem
  rw [Action.completesPhrase, Bool.and_eq_true, Bool.and_eq_true, decide_eq_true_eq,
    decide_eq_true_eq] at known
  refine ⟨ne_zero_of_mem_actions mem rfl, known.1.1, known.1.2, fun element => ⟨?_, ?_⟩⟩
  · simpa [element, Nat.pos_iff_ne_zero] using known.2
  · rcases actions_eq_nil_or state token with none | ⟨d, inside, -, equal⟩
    · rw [none] at mem
      cases mem
    · rw [equal] at mem
      have checked := rowHolds_packedRow state
      rw [rowHolds, Bool.and_eq_true] at checked
      rcases holds_of_vet (of_allPairs checked.1 inside) with clear | holds
      · have plain := isPlain_of_clear clear mem
        simp [Action.isPlain, element] at plain
      · have fits := List.all_eq_true.mp holds _ mem
        simpa [actionHolds, element] using fits

/-- In a state right behind a tag or its `<` no phrase comes first, so that a missing token is never
tried there. -/
theorem reducesFirst_behindTag {state : StateId} (token : Symbol) (behind : behindTag state = 1) :
    reducesFirst state token = false := by
  rw [reducesFirst]
  rcases actions_eq_nil_or state token with none | ⟨d, inside, -, equal⟩
  · rw [none]
  · have checked := List.all_eq_true.mp noReduction_behindTag state (mem_of_behindTag_eq_one behind)
    have notReduce := of_allPairs checked inside
    rw [equal]
    cases found : actionsOf (d >>> 10) with
    | nil => rfl
    | cons action rest =>
      cases action with
      | reduce symbol count bonus =>
        rw [found] at notReduce
        cases notReduce
      | _ => rfl

/-- A way over a token that leads to another state is a shift. -/
theorem shift_of_goto {state : StateId} {token : Symbol} (isToken : token < Symbol.tokenCount)
    (some : goto state token ≠ 0) (other : goto state token ≠ state) :
    ∃ repeats, .shift (goto state token) repeats ∈ actions state token := by
  rw [goto, if_pos isToken] at some other ⊢
  split
  · next next repeats last => exact ⟨repeats, List.mem_of_getLast? last⟩
  · next last =>
    rw [last] at other
    exact absurd rfl other
  · next notShift notExtra =>
    split at some
    · next next repeats last => exact absurd last (notShift next repeats)
    · next last => exact absurd last notExtra
    · exact absurd rfl some

end JsxDetect.Automaton
