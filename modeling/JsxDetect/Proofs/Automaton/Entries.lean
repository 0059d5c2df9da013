import Mathlib.Algebra.Order.Ring.Int
import JsxDetect.Automaton.Table

/-!
# Entries of the parsing automaton

What has to be known of all rows of the automaton is read off the pairs they are stored as: an
entry that is not empty is the entry of one of the pairs of its row, whose set contains the
symbol.

A question about all pairs is asked with `allPairs`, which is written with recursors, as it is
evaluated for every row.

## Main Definitions

* `packedRow`: the row of a state, as it is stored
* `allPairs`, `allChunks`: a question asked about all pairs of a row, or all entries of a table

## Main Results

* `actions_eq_nil_or`, `goto_eq_zero_or`: where the entries of the automaton come from
* `getD_of_allChunks`: a question asked about all entries is answered for each
* `ne_zero_of_mem_actions`: what there is to do in the state of an error

## Design Notes

**The tables are large, and stay closed.**  The automaton has thousands of rows, packed into
numbers.  No proof unfolds a table; a property of all entries is asked with `allPairs` or
`allChunks`, which the kernel evaluates over the packed form, and `of_allPairs` or
`getD_of_allChunks` reads the answer back for an entry.  The state is a variable in what is proved.

**Where an entry comes from.**  `actions_eq_nil_or` and `goto_eq_zero_or` are the two lemmas that
connect the functions of the automaton with the stored pairs.  Any other certificate over the tables
starts from them.
-/

namespace JsxDetect.Automaton

/-! ### Tables -/

/-- An entry of a table in chunks, by the number of the chunk and the number in it. -/
theorem Chunked.get_ofLists {α : Type} (chunks : List (List α)) (index : Nat) (default : α) :
    (Chunked.ofLists chunks).get index default =
      (chunks.getD (index / 64) []).getD (index % 64) default := by
  simp only [Chunked.get, Chunked.ofLists, Array.getD_eq_getD_getElem?, List.getElem?_toArray,
    List.getElem?_map, List.getD_eq_getElem?_getD]
  cases chunks[index / 64]? with
  | none => simp
  | some chunk => simp

/-- The row of a state, as it is stored. -/
def packedRow (state : StateId) : PackedRow :=
  (packedRows.getD (state / 64) []).getD (state % 64) ⟨0, 0, 0, 0⟩

/-- The row of a state is its packed row, unpacked. -/
theorem row_eq_unpack (state : StateId) :
    row state = (packedRow state).unpack tokenSets phraseSets := by
  have none : (⟨0, 0, [], []⟩ : Row) =
      (⟨0, 0, 0, 0⟩ : PackedRow).unpack tokenSets phraseSets := rfl
  rw [row, rows, Chunked.get_ofLists, packedRow]
  simp only [List.getD_eq_getElem?_getD, List.getElem?_map]
  cases packedRows[state / 64]? with
  | none => exact none
  | some chunk =>
    rw [Option.map_some, Option.getD_some, Option.getD_some, List.getElem?_map]
    cases chunk[state % 64]? with
    | none => exact none
    | some r => rfl

/-! ### Where entries come from -/

/-- The pairs that a number holds, as numbers. -/
def pairsOf (pairs : Nat) : List Nat := digits 24 256 pairs

/-- An entry that is not empty is that of a pair whose set contains the symbol. -/
theorem entry_eq_zero_or (symbol : Nat) (entries : Entries) :
    entry symbol entries = 0 ∨
      ∃ e ∈ entries, e.1.testBit symbol = true ∧ entry symbol entries = e.2 := by
  induction entries with
  | nil => exact .inl rfl
  | cons e entries ih =>
    rw [entry]
    split
    · next bit => exact .inr ⟨e, List.mem_cons_self, bit, rfl⟩
    · rcases ih with zero | ⟨e', mem, bit, value⟩
      · exact .inl zero
      · exact .inr ⟨e', List.mem_cons_of_mem _ mem, bit, value⟩

/-- The same for the pairs that a number holds. -/
theorem entry_entriesOf (symbol : Nat) (sets : Chunked Nat) (pairs : Nat) :
    entry symbol (entriesOf sets pairs) = 0 ∨
      ∃ d ∈ pairsOf pairs, (sets.get (d % 1024) 0).testBit symbol = true ∧
        entry symbol (entriesOf sets pairs) = d >>> 10 := by
  rcases entry_eq_zero_or symbol (entriesOf sets pairs) with zero | ⟨e, mem, bit, value⟩
  · exact .inl zero
  · obtain ⟨d, inside, rfl⟩ := List.mem_map.mp mem
    exact .inr ⟨d, inside, bit, value⟩

/-- What a state does at a token is nothing, or the entry of a pair of its row. -/
theorem actions_eq_nil_or (state : StateId) (symbol : Symbol) :
    actions state symbol = [] ∨
      ∃ d ∈ pairsOf (packedRow state).actions,
        (tokenSets.get (d % 1024) 0).testBit symbol = true ∧
          actions state symbol = actionsOf (d >>> 10) := by
  rw [actions, row_eq_unpack]
  rcases entry_entriesOf symbol tokenSets (packedRow state).actions with
    zero | ⟨d, inside, bit, value⟩
  · refine .inl ?_
    rw [PackedRow.unpack, zero, actionsOf, if_pos rfl]
  · exact .inr ⟨d, inside, bit, congrArg actionsOf value⟩

/-- The state behind a completed symbol is none, or the entry of a pair of the row. -/
theorem goto_eq_zero_or (state : StateId) {symbol : Symbol} (phrase : Symbol.tokenCount ≤ symbol) :
    goto state symbol = 0 ∨
      ∃ d ∈ pairsOf (packedRow state).gotos,
        (phraseSets.get (d % 1024) 0).testBit (symbol - Symbol.tokenCount) = true ∧
          goto state symbol = d >>> 10 := by
  rw [goto, if_neg (Nat.not_lt.mpr phrase), row_eq_unpack]
  exact entry_entriesOf (symbol - Symbol.tokenCount) phraseSets (packedRow state).gotos

/-! ### Questions about all entries -/

/-- Does something hold of all pairs that a number holds? -/
noncomputable def allPairs (holds : Nat → Bool) (fuel : Nat) : Nat → Bool :=
  fuel.rec (fun _ => true) fun _ next pairs =>
    (pairs.beq 0).rec ((holds (pairs.mod 16777216)).rec false (next (pairs.shiftRight 24))) true

/-- One step of the question.  The definition is by a recursor, so this equation is what later
proofs use. -/
theorem allPairs_succ (holds : Nat → Bool) (fuel pairs : Nat) :
    allPairs holds (fuel + 1) pairs =
      if pairs = 0 then true
      else holds (pairs % (1 <<< 24)) && allPairs holds fuel (pairs >>> 24) := by
  have step : allPairs holds (fuel + 1) pairs =
      (pairs.beq 0).rec
        ((holds (pairs % (1 <<< 24))).rec false (allPairs holds fuel (pairs >>> 24))) true := rfl
  rw [step]
  cases pairs with
  | zero => rfl
  | succ n =>
    rw [if_neg n.succ_ne_zero]
    cases holds ((n + 1) % (1 <<< 24)) with
    | false => rfl
    | true => rfl

/-- What holds of all pairs of a number holds of each.  By induction on the fuel, which is as large
as the number of digits. -/
theorem of_allPairs {holds : Nat → Bool} {fuel pairs : Nat}
    (all : allPairs holds fuel pairs = true) {d : Nat} (mem : d ∈ digits 24 fuel pairs) :
    holds d = true := by
  induction fuel generalizing pairs with
  | zero => cases mem
  | succ fuel ih =>
    rw [allPairs_succ] at all
    rw [digits] at mem
    split at mem
    · cases mem
    · next some =>
      rw [if_neg some, Bool.and_eq_true] at all
      rcases List.mem_cons.mp mem with rfl | later
      · exact all.1
      · exact ih all.2 later

variable {α : Type} {holds : Nat → α → Bool}

/-- Does something hold of the entries of a list, the first of them with the number `i`? -/
def allFrom (holds : Nat → α → Bool) : Nat → List α → Bool
  | _, [] => true
  | i, x :: xs => holds i x && allFrom holds (i + 1) xs

/-- Does something hold of the entries of chunks, the first of them with the number `i`? -/
def allChunks (holds : Nat → α → Bool) : Nat → List (List α) → Bool
  | _, [] => true
  | i, chunk :: chunks => allFrom holds i chunk && allChunks holds (i + 64) chunks

/-- What holds of all entries of a list holds of the one with a number. -/
theorem of_allFrom {i : Nat} {xs : List α} (all : allFrom holds i xs = true) {k : Nat} {x : α}
    (atIndex : xs[k]? = some x) : holds (i + k) x = true := by
  induction xs generalizing i k with
  | nil => cases atIndex
  | cons y xs ih =>
    rw [allFrom, Bool.and_eq_true] at all
    cases k with
    | zero =>
      cases atIndex
      exact all.1
    | succ k =>
      have later := ih all.2 atIndex
      rwa [Nat.add_right_comm] at later

/-- And of the one with a number in a chunk. -/
theorem of_allChunks {i : Nat} {chunks : List (List α)} (all : allChunks holds i chunks = true)
    {j k : Nat} {chunk : List α} {x : α} (inside : chunks[j]? = some chunk)
    (atIndex : chunk[k]? = some x) : holds (i + 64 * j + k) x = true := by
  induction chunks generalizing i j with
  | nil => cases inside
  | cons chunk' chunks ih =>
    rw [allChunks, Bool.and_eq_true] at all
    cases j with
    | zero =>
      cases inside
      exact of_allFrom all.1 atIndex
    | succ j =>
      have later := ih all.2 inside
      rwa [Nat.add_assoc i, Nat.add_comm 64] at later

/-- What holds of all entries of chunks, and of the one for missing ones, holds of each. -/
theorem getD_of_allChunks {chunks : List (List α)} (all : allChunks holds 0 chunks = true)
    {default : α} (none : ∀ i, holds i default = true) (i : Nat) :
    holds i ((chunks.getD (i / 64) []).getD (i % 64) default) = true := by
  rw [List.getD_eq_getElem?_getD, List.getD_eq_getElem?_getD]
  cases inside : chunks[i / 64]? with
  | none => exact none i
  | some chunk =>
    rw [Option.getD_some]
    cases atIndex : chunk[i % 64]? with
    | none => exact none i
    | some x =>
      have held := of_allChunks all inside atIndex
      rwa [Nat.zero_add, Nat.div_add_mod] at held

/-! ### The tokens of the sets -/

/-- All sets of tokens contain tokens only, by evaluation. -/
theorem tokenSets_lt :
    ∃ chunks, tokenSets = .ofLists chunks ∧
      allChunks (fun _ set => set < 2 ^ Symbol.tokenCount) 0 chunks = true :=
  ⟨_, rfl, by decide +kernel⟩

/-- Only a token is something to act at. -/
theorem isToken_of_mem_actions {state : StateId} {symbol : Symbol} {a : Action}
    (mem : a ∈ actions state symbol) : symbol < Symbol.tokenCount := by
  refine Nat.lt_of_not_le fun large => ?_
  rcases actions_eq_nil_or state symbol with none | ⟨d, -, bit, -⟩
  · rw [none] at mem
    cases mem
  · obtain ⟨chunks, same, all⟩ := tokenSets_lt
    have zero : ∀ i : Nat, (fun _ set => decide (set < 2 ^ Symbol.tokenCount)) i 0 = true :=
      fun _ => rfl
    have small := of_decide_eq_true (getD_of_allChunks all zero (d % 1024))
    rw [same, Chunked.get_ofLists, Nat.testBit_lt_two_pow
      (Nat.lt_of_lt_of_le small (Nat.pow_le_pow_right Nat.two_pos large))] at bit
    cases bit

/-! ### The state of an error -/

/-- Does the action leave the state of an error as it is? -/
def Action.staysInError : Action → Bool
  | .recover | .shiftExtra => true
  | _ => false

/-- In the row of the error state there are no other actions, by evaluation. -/
theorem staysInError_packedRow :
    allPairs (fun d => (actionsOf (d >>> 10)).all Action.staysInError) 256
      (packedRow 0).actions = true := by
  decide +kernel

/-- In an error nothing is shifted, completed or accepted. -/
theorem ne_zero_of_mem_actions {state : StateId} {symbol : Symbol} {a : Action}
    (mem : a ∈ actions state symbol) (leaves : a.staysInError = false) : state ≠ 0 := by
  rintro rfl
  rcases actions_eq_nil_or 0 symbol with none | ⟨d, inside, -, equal⟩
  · rw [none] at mem
    cases mem
  · rw [equal] at mem
    have stays := List.all_eq_true.mp (of_allPairs staysInError_packedRow inside) a mem
    rw [leaves] at stays
    cases stays

end JsxDetect.Automaton
