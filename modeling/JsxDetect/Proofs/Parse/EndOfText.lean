import JsxDetect.Proofs.Parse.Rounds

/-!
# The end of the text

What a single version does at the end of the text.  If it has come to the end of a program, the
tree on its stack is the tree of the whole text.

## Main Definitions

* `ReadsEnd`: in a state the parser reads a token of no length at the end of the text

## Main Results

* `Comes.accepted`: the tree of a text that is read without errors

## Design Notes

**Two ways to the end.**  At the end of the text a state reads the token for it from its own
lexicon, or, if this does not accept there, from that of the error state; where a semicolon may be
left out, this comes first.  `ReadsEnd` has one constructor lemma for each.

**One version, then none.**  A version that accepts is halted and leaves a tree.  The rest of the
run does nothing: `condense_halted` drops it, and the loop ends as no version is left.  So the tree
of the text is the tree that this version has left, and `parse_of_finished` is the last step.
-/

namespace JsxDetect

open Token

/-! ### Context-dependent tokens at the end -/

section

variable {cursor : Cursor} (text : cursor.rest = [])

include text

theorem peek_end : cursor.peek = none := by
  rw [Cursor.peek, text]
  rfl

theorem skipWhile_end (p : Char → Bool) : cursor.skipWhile p = cursor := by
  obtain ⟨rest, offset, row⟩ := cursor
  obtain rfl : rest = [] := text
  rfl

theorem skipMark_end : Lexicon.skipMark cursor = cursor :=
  Lexicon.skipMark_of_peek (by rw [peek_end text]; rintro ⟨⟩)

/-- At the end of the text a semicolon may be left out: a token of no length is read. -/
theorem Expected.read_semicolon_end {expected : Expected} (chars : expected.templateChars = false)
    (automatic : expected.automaticSemicolon = true) :
    expected.read cursor = some ⟨168, cursor, cursor⟩ := by
  rw [Expected.read, skipMark_end text, chars, automatic, semicolon, skipWhile_end text,
    peek_end text]
  rfl

omit text in
/-- Inside an error no token depends on the context, as all of them seem to be expected at once
there. -/
theorem Expected.read_error {expected : Expected} (chars : expected.templateChars = true)
    (automatic : expected.automaticSemicolon = true) : expected.read cursor = none := by
  rw [Expected.read, chars, automatic]
  rfl

/-- Nothing else depends on the context there.  A comment of markup has to begin with some
character. -/
theorem Expected.read_markup_end {expected : Expected} (chars : expected.templateChars = false)
    (automatic : expected.automaticSemicolon = false)
    (signature : expected.signatureSemicolon = false) (mark : expected.ternaryMark = false) :
    expected.read cursor = none := by
  have noMark : markupComment cursor = none := by
    rw [markupComment, skipWhile_end text, text]
    rfl
  rw [Expected.read, skipMark_end text, chars, automatic, signature, mark, noMark]
  exact ite_self none

end

namespace Parse

open Automaton Grammar Stack SyntaxTree

/-! ### Tokens at the end -/

/-- In a state the parser reads a token of no length at the end of the text, whatever the place. -/
structure ReadsEnd (state : StateId) (hasAdvanced : Bool) (symbol : Symbol) : Prop where
  reads : ∀ cursor : Cursor, cursor.rest = [] →
    ∀ fuel, lookahead (fuel + 2) state hasAdvanced cursor = leaf symbol cursor cursor cursor

/-- Where only markup comments depend on the context, and the lexicon reads the end. -/
theorem ReadsEnd.end {state : StateId} (outside : state ≠ 0) (markup : (row state).expected = 2)
    (ends : (lexiconOf (row state).lexicon).acceptsEnd = true) (hasAdvanced : Bool) :
    ReadsEnd state hasAdvanced Symbol.endOfText := by
  refine ⟨fun cursor text fuel => ?_⟩
  have noContext : contextual state false hasAdvanced cursor = none := by
    refine contextual_of_read ?_
    rw [if_neg Bool.false_ne_true, markup]
    exact Expected.read_markup_end text rfl rfl rfl rfl
  have munches := Lexicon.munches_end ends text
  rw [lookahead_of_munches outside noContext munches, if_neg (by decide)]
  obtain ⟨rest, offset, row⟩ := cursor
  obtain rfl : rest = [] := text
  rfl

/-- Where a semicolon may be left out. -/
theorem ReadsEnd.semicolon {state : StateId} (outside : state ≠ 0)
    (expected : (row state).expected = 4) (moves : goto state 168 ≠ state) :
    ReadsEnd state true 168 := by
  refine ⟨fun cursor text fuel => ?_⟩
  have context : contextual state false true cursor = some ⟨168, cursor, cursor⟩ := by
    have read : (expectedOf 4).read cursor = some ⟨168, cursor, cursor⟩ :=
      Expected.read_semicolon_end text rfl rfl
    rw [contextual, if_neg Bool.false_ne_true, expected, if_neg (by decide), read]
    dsimp only
    rw [if_neg]
    rw [Bool.and_eq_true, not_and]
    intro _
    rw [Bool.not_true, Bool.false_or, Bool.false_or, decide_eq_true_eq]
    exact moves
  have searched : search state true cursor (fuel + 2) false none cursor = .token ⟨168, cursor, cursor⟩ false := by
    rw [search, context]
  rw [lookahead, show decide (state = 0) = false from decide_eq_false outside, searched]
  rfl

/-- Where the lexicon does not read the end, that of the error state does.  One more unit of fuel is
spent, for the second attempt. -/
theorem ReadsEnd.error {state : StateId} (outside : state ≠ 0) (markup : (row state).expected = 2)
    (stays : (lexiconOf (row state).lexicon).acceptsEnd = false)
    (silent : (Thread.best (lexiconOf (row state).lexicon).starts).isNone = true)
    (hasAdvanced : Bool) : ReadsEnd state hasAdvanced Symbol.endOfText := by
  refine ⟨fun cursor text fuel => ?_⟩
  have noContext : contextual state false hasAdvanced cursor = none := by
    refine contextual_of_read ?_
    rw [if_neg Bool.false_ne_true, markup]
    exact Expected.read_markup_end text rfl rfl rfl rfl
  have noContext' : contextual state true hasAdvanced cursor = none := by
    refine contextual_of_read ?_
    have errorSet : (row 0).expected = 1 := by decide +kernel
    rw [if_pos rfl, errorSet]
    exact Expected.read_error rfl rfl
  -- The first search finds nothing, and is made again in the error state.
  have nothing : ((lexiconOf (row state).lexicon).read cursor).found = none := by
    rw [Lexicon.read, skipMark_end text, text, Lexicon.follow, stays,
      Option.isNone_iff_eq_none.mp silent]
    rfl
  have ends : (lexiconOf (row 0).lexicon).acceptsEnd = true := by decide +kernel
  have munches := Lexicon.munches_end ends text
  have searched : search state hasAdvanced cursor (fuel + 2) false none cursor =
      .token ⟨Symbol.endOfText, cursor, cursor⟩ false := by
    rw [search, noContext]
    dsimp only
    rw [if_neg Bool.false_ne_true, nothing]
    dsimp only
    rw [Bool.not_false, if_pos rfl, search, noContext']
    dsimp only
    rw [if_pos rfl, munches.found, munches.start]
    obtain ⟨rest, offset, row⟩ := cursor
    obtain rfl : rest = [] := text
    rfl
  rw [lookahead, show decide (state = 0) = false from decide_eq_false outside, searched]
  rfl

/-! ### The tree of the whole text -/

variable {text : List Char}

/-- The token at the end of the text. -/
abbrev endLeaf (cursor : Cursor) : SyntaxTree := leaf Symbol.endOfText cursor cursor cursor

/-- The way down from a node on top of a pile, over all its frames. -/
theorem Pile.popAll_over {stack : Stack} {i n : Nat} {fs : List Frame}
    (pile : Pile text stack i fs) {tree : SyntaxTree}
    (links : (stack.node n).links = [⟨i, some tree⟩]) :
    ∃ below, stack.popAll n = [⟨below, [(fs.map Frame.tree).reverse ++ [tree]]⟩] := by
  have enough : fs.length < stack.size := Nat.lt_of_le_of_lt pile.length_le pile.inside
  obtain ⟨below, walked⟩ := pile.walk_bottom enough [tree] (if tree.extra then 0 else 1)
  refine ⟨below, ?_⟩
  rw [Stack.popAll, Pile.walk_stay (t := ()) _ links, Path.over_some rfl]
  · have count : (if tree.extra = true then 0 else 0 + 1) = if tree.extra = true then 0 else 1 := rfl
    dsimp only
    rw [count, walked]
  · rw [links]
    rfl

theorem consume_accept {p : Progress} {v : Nat} (token : SyntaxTree)
    (action : actions (p.state v) token.symbol = [.accept]) (fuel : Nat) :
    Progress.consume v (fuel + 1) token p = p.accept v token := by
  rw [Progress.consume, action, Progress.act]

/-- **A version has read a whole text**, and there is one way down from it: the tree on this way
competes for the whole text, and the version is halted. -/
theorem accept_eq {p : Progress} {v below : Nat} (inside : v < p.versions.length)
    {token tree : SyntaxTree} {trees : List SyntaxTree}
    (popped : Stack.popAll
      (Array.push p.stack (p.stack.nodeOver (p.version v).node (some token) 1)) p.stack.size =
        [⟨below, [trees]⟩])
    (whole : Progress.wholeTree trees = some tree) :
    p.accept v token = Progress.finish
      ⟨Array.push p.stack (p.stack.nodeOver (p.version v).node (some token) 1),
        p.versions.set v { p.version v with node := p.stack.size, status := .halted },
        p.finished, p.accepted⟩ tree := by
  have pushed : p.push v (some token) 1 =
      ⟨Array.push p.stack (p.stack.nodeOver (p.version v).node (some token) 1),
        p.versions.set v { p.version v with node := p.stack.size }, p.finished, p.accepted⟩ := rfl
  have moved : (p.push v (some token) 1).version v = { p.version v with node := p.stack.size } := by
    rw [pushed, Progress.version, List.getD_eq_getElem?_getD, List.getElem?_set_self inside]
    rfl
  have kept : ([Popped.mk below [trees]].flatMap (·.paths)).filterMap Progress.wholeTree = [tree] := by
    rw [List.flatMap_singleton, List.filterMap_cons_some whole]
    rfl
  rw [Progress.accept, moved]
  dsimp only
  rw [pushed, popped, kept, List.foldl_cons, List.foldl_nil, Progress.halt, Progress.setStatus,
    Progress.setVersion]
  have after : (Progress.finish ⟨Array.push p.stack (p.stack.nodeOver (p.version v).node (some token) 1),
      p.versions.set v { p.version v with node := p.stack.size }, p.finished, p.accepted⟩ tree).version v =
        { p.version v with node := p.stack.size } := moved
  rw [after]
  exact congrArg (fun versions => Progress.finish ⟨_, versions, p.finished, p.accepted⟩ tree)
    (List.set_set ..)

theorem endLeaf_clean (cursor : Cursor) : (endLeaf cursor).Clean false := by
  have same : (endLeaf cursor).withExtra true = endLeaf cursor := by
    rw [endLeaf, leaf, withExtra, decide_eq_true (rfl : Symbol.endOfText = Symbol.endOfText)]
  rw [← same]
  exact .leaf (by decide +kernel) true

/-- **The tree of the whole text**, when its end follows a tree without errors, and there are others
before it without errors and JSX. -/
theorem wholeTree_clean {earlier : List SyntaxTree} {root last : SyntaxTree} {jsx : Bool}
    (before : ∀ t ∈ earlier, t.Clean false) (clean : root.Clean jsx) (solid : root.extra = false)
    (ended : last.Clean false) (extra : last.extra = true) :
    ∃ tree, Progress.wholeTree (earlier ++ [root, last]) = some tree ∧ tree.Clean jsx := by
  have costs : ∀ c ∈ earlier ++ root.children ++ [last], SyntaxTree.cost c = 0 := by
    intro c mem
    rcases List.mem_append.mp mem with others | isLast
    · rcases List.mem_append.mp others with other | below
      · exact (before c other).cost
      · exact clean.parts c below
    · rw [List.mem_singleton.mp isLast]
      exact ended.cost
  obtain ⟨beforeClean, noJsx⟩ := allClean_false before
  refine ⟨_, Progress.wholeTree_eq earlier solid extra, cost_ofChildren clean.sound costs _, costs,
    clean.sound, ?_⟩
  have first := clean.first
  rw [Rose.nodes_eq, List.findSome?_cons, jsxKind_eq_kindOf] at first
  rw [first_ofChildren, Rose.nodesOfAll_append, Rose.nodesOfAll_append, List.findSome?_append,
    List.findSome?_append, beforeClean.first, noJsx, Rose.nodesOfAll_cons, Rose.nodesOfAll_nil,
    List.append_nil, ended.first, ← first]
  change (kindOf root.label.symbol).or _ = _
  cases kindOf root.label.symbol with
  | some kind => rfl
  | none => exact Option.or_none

/-! ### The end of a program -/

/-- What a version does before the end of the text leads to a program: some phrases are completed,
and then the end is accepted. -/
structure Ends (slots : List Slot) (jsx : Bool) : Prop where
  grouped : ∃ steps ≤ enoughGroups, ∃ state bonus,
    Groups [] Symbol.endOfText steps slots [⟨state, jsx⟩, ⟨1, false⟩] bonus ∧
    actions state Symbol.endOfText = [.accept] ∧ state ≠ 0

/-- The phrases are computed, so this is seen by evaluation. -/
theorem Ends.of_groups {slots : List Slot} {jsx : Bool} {state : StateId}
    (grouped : (groups [] Symbol.endOfText enoughGroups slots).1 = [⟨state, jsx⟩, ⟨1, false⟩])
    (accepts : actions state Symbol.endOfText = [.accept] ∧ state ≠ 0) : Ends slots jsx := by
  obtain ⟨steps, few, grouping⟩ := groups_groups [] Symbol.endOfText enoughGroups slots
  rw [grouped] at grouping
  exact ⟨steps, few, state, _, grouping, accepts⟩

namespace Progress

/-- Halted versions are dropped, and no cost is left. -/
theorem condense_halted {p : Progress} (halted : ∀ w ∈ p.versions, w.status = .halted) (fuel : Nat) :
    p.condense fuel = (none, { p with versions := [] }) := by
  have settled : ∀ (versions : List Version) (p : Progress), p.versions = versions →
      (∀ w ∈ versions, w.status = .halted) →
      settleAll versions.length 0 none p = (none, { p with versions := [] }) := by
    intro versions
    induction versions with
    | nil =>
      rintro ⟨stack, _, finished, accepted⟩ rfl _
      rfl
    | cons w versions ih =>
      rintro ⟨stack, _, finished, accepted⟩ rfl halted
      have first : (Progress.version ⟨stack, w :: versions, finished, accepted⟩ 0).status = .halted :=
        halted w List.mem_cons_self
      rw [List.length_cons, settleAll, if_neg (by exact Nat.not_le.mpr (Nat.succ_pos _)), first]
      exact ih ⟨stack, versions, finished, accepted⟩ rfl
        fun u mem => halted u (List.mem_cons_of_mem _ mem)
  rw [condense, settled p.versions p rfl halted]
  rfl

/-- **A round** after which nothing goes on.  What was finished is the result, whatever fuel is
left. -/
theorem run_of_finished {budget last last' : Nat} {p q : Progress} {tree : SyntaxTree}
    (advanced : advanceAll budget budget 0 last p = (last', q))
    (halted : ∀ w ∈ q.versions, w.status = .halted) (finished : q.finished = some tree)
    (fuel : Nat) : (run budget (fuel + 1) last p).finished = some tree := by
  rw [run, advanced]
  dsimp only
  rw [condense_halted halted, finished]
  dsimp only
  rw [Option.any_some, Option.all_none, Bool.or_true, if_pos rfl]

/-- At the end of the text a version reads a token of no length, and consumes it. -/
theorem advance_end {p : Progress} {v : Nat} {cursor : Cursor} (place : (p.top v).place = cursor)
    (atEnd : cursor.rest = []) {symbol : Symbol}
    (reads : ReadsEnd (p.state v) (p.hasAdvanced v) symbol) {budget : Nat} (enough : 1 < budget) :
    p.advance budget v = consume v budget (leaf symbol cursor cursor cursor) p := by
  obtain ⟨more, rfl⟩ : ∃ more, budget = more + 2 := ⟨budget - 2, by omega⟩
  rw [advance, ← state, place, reads.reads cursor atEnd]

end Progress

open Progress

/-- At the end of the text a single version on known slots reads a token of no length. -/
theorem Stands.readingEnd {stack : Stack} {i : Nat} {slots : List Slot} {cursor : Cursor}
    (stands : Stands text stack i slots cursor) (atEnd : cursor.rest = []) {symbol : Symbol}
    (reads : ReadsEnd (topSlot slots) true symbol) {budget : Nat} (enough : 1 < budget) :
    (among stack [going i]).advance budget 0 =
      consume 0 budget (leaf symbol cursor cursor cursor) (among stack [going i]) := by
  have sound := stands.sound (p := among stack [going i]) (v := 0) rfl rfl
  refine advance_end (p := among stack [going i]) (v := 0) stands.place atEnd ?_ enough
  rw [sound.hasAdvanced, show (among stack [going i]).state 0 = topSlot slots from stands.state]
  exact reads

/-- **The end of a program**: the version leaves a tree without errors, whose JSX is that of the
slots. -/
theorem Stands.finish {stack : Stack} {i : Nat} {slots : List Slot} {jsx : Bool} {cursor : Cursor}
    (stands : Stands text stack i slots cursor) (atEnd : cursor.rest = [])
    (reads : ReadsEnd (topSlot slots) true Symbol.endOfText) (ends : Ends slots jsx)
    {budget fuel : Nat} (enough : 64 ≤ budget) (positive : 0 < fuel) :
    ∃ stack' version tree,
      advanceVersion budget 0 fuel cursor.offset (among stack [going i]) =
        (cursor.offset, ⟨stack', [version], some tree, 1⟩) ∧
      version.status = .halted ∧ tree.Clean jsx := by
  obtain ⟨steps, few, state, bonus, grouped, accepts, outside⟩ := ends.grouped
  obtain ⟨fs, pile, shown⟩ := stands.pile
  have sound := stands.sound (p := among stack [going i]) (v := 0) rfl rfl
  have alone : OthersAmong (among stack [going i]) 0 [] :=
    fun w inside other => absurd (Nat.lt_one_iff.mp inside) other
  obtain ⟨more, rfl⟩ : ∃ more, budget = more + 1 + steps :=
    ⟨budget - steps - 1, by have : enoughGroups = 62 := rfl; omega⟩
  obtain ⟨q, moved, consumed⟩ := consume_of_groups sound.active (Nat.le_add_left 1 _) pile shown
    alone (endLeaf cursor) grouped (more + 1)
  obtain ⟨stack', i', same, -, stands', -⟩ := moved.among Nat.one_pos rfl outside
  obtain rfl : q = among stack' [going i'] := same
  obtain ⟨gs, pile', shows'⟩ := stands'.pile
  -- the program and the beginning below it: nothing else is on the stack
  cases shows' with
  | @above root _ gs _ _ clean rest =>
    cases rest with
    | above _ _ none => cases none
    | beginning =>
      have links : Stack.node (Array.push stack' (stack'.nodeOver i' (some (endLeaf cursor)) 1))
          stack'.size = stack'.nodeOver i' (some (endLeaf cursor)) 1 := node_push_size _ _
      obtain ⟨below, popped⟩ := (pile'.prolong (Prolongs.push stack' _)).popAll_over
        (congrArg StackNode.links links)
      obtain ⟨tree, whole, cleanTree⟩ :=
        wholeTree_clean (List.forall_mem_nil _) clean (pile'.solid root List.mem_cons_self)
          (endLeaf_clean cursor) rfl
      have accepted := accept_eq (p := among stack' [going i']) (v := 0) Nat.one_pos popped whole
      have reached : (among stack' [going i']).state 0 = state := stands'.state
      have advanced : (among stack [going i]).advance (more + 1 + steps) 0 =
          (among stack' [going i']).accept 0 (endLeaf cursor) := by
        rw [stands.readingEnd atEnd reads (by omega), consumed,
          consume_accept _ (by rw [reached]; exact accepts)]
      rw [accepted] at advanced
      have place : StackNode.place _ = cursor := congrArg StackNode.place links
      exact ⟨_, _, tree, advanceVersion_of_stop cursor.offset sound.active advanced
        Bool.false_ne_true place (by omega) positive, rfl, cleanTree⟩

theorem parse_of_finished {tree : SyntaxTree}
    (finished : (run (budgetFor text.length) (budgetFor text.length) 0 (start text)).finished =
      some tree) : parse text = tree := by
  unfold parse
  simp only [finished]

/-- **The tree of a text without errors.**  It has the JSX of the slots on top, and the end of the
text is accepted without any other version. -/
theorem Comes.accepted {slots : List Slot} {jsx : Bool} (comes : Comes text slots [])
    (reads : ReadsEnd (topSlot slots) true Symbol.endOfText) (ends : Ends slots jsx) :
    (parse text).Clean jsx := by
  obtain ⟨fuel, cursor, stack, i, runs, enough, -, chars, stands⟩ := comes
  have budget := le_budgetFor text
  obtain ⟨stack', version, tree, advanced, halted, clean⟩ :=
    stands.finish chars reads ends budget (show 0 < budgetFor text.length by omega)
  have all : advanceAll (budgetFor text.length) (budgetFor text.length) 0 cursor.offset
      (among stack [going i]) = (cursor.offset, ⟨stack', [version], some tree, 1⟩) :=
    (advanceAll_of_inside Nat.one_pos advanced (by omega)).trans
      (advanceAll_of_outside (Nat.le_refl 1) _)
  have finished := run_of_finished all
    (fun w mem => (List.mem_singleton.mp mem).symm ▸ halted) rfl (fuel - 1)
  rw [Nat.sub_add_cancel (by omega), ← runs] at finished
  rw [parse_of_finished finished]
  exact clean

/-- The same when a semicolon is left out at the end.  Its token completes the statement, and the
end of the text comes behind it. -/
theorem Comes.accepted_of_semicolon {known after deeper : List Slot} {bonus : Int} {jsx : Bool}
    (comes : Comes text (known ++ deeper) []) (nonempty : known ≠ [])
    (semicolon : ReadsEnd (topSlot known) true 168) (turns : Turns [] 168 known after bonus)
    (reads : ReadsEnd (topSlot after) true Symbol.endOfText) (ends : Ends (after ++ deeper) jsx) :
    (parse text).Clean jsx := by
  obtain ⟨fuel, cursor, stack, i, runs, enough, -, chars, stands⟩ := comes
  have budget := le_budgetFor text
  have after_ne := turns.ne_nil
  have turns := turns.append nonempty deeper
  have outside := turns.outside
  have sound := stands.sound (p := among stack [going i]) (v := 0) rfl rfl
  have alone : OthersAmong (among stack [going i]) 0 [] :=
    fun w inside other => absurd (Nat.lt_one_iff.mp inside) other
  rw [← topSlot_append nonempty deeper] at semicolon
  rw [← topSlot_append after_ne deeper] at reads
  obtain ⟨fs, pile, shown⟩ := stands.pile
  have moved := consume_of_turns sound.active (Nat.le_add_left 1 _) pile shown alone
    (leaf 168 cursor cursor cursor) (.leaf (by decide) false) rfl turns
    (Nat.lt_of_lt_of_le (by decide) budget)
  rw [← stands.readingEnd chars semicolon (by omega)] at moved
  obtain ⟨stack', i', same, -, stands', -⟩ := moved.among Nat.one_pos rfl outside
  have place : (((among stack [going i]).advance (budgetFor text.length) 0).top 0).place = cursor :=
    moved.place
  obtain ⟨stack'', version, tree, advanced, halted, clean⟩ :=
    stands'.finish chars reads ends budget (show 0 < budgetFor text.length - 1 by omega)
  have both : advanceVersion (budgetFor text.length) 0 (budgetFor text.length) cursor.offset
      (among stack [going i]) = (cursor.offset, ⟨stack'', [version], some tree, 1⟩) := by
    have stays := advanceVersion_of_behind cursor.offset sound.active rfl place (by omega)
      (budgetFor text.length - 1)
    rw [Nat.sub_add_cancel (by omega), same] at stays
    exact stays.trans advanced
  have all : advanceAll (budgetFor text.length) (budgetFor text.length) 0 cursor.offset
      (among stack [going i]) = (cursor.offset, ⟨stack'', [version], some tree, 1⟩) :=
    (advanceAll_of_inside Nat.one_pos both (by omega)).trans
      (advanceAll_of_outside (Nat.le_refl 1) _)
  have finished := run_of_finished all
    (fun w mem => (List.mem_singleton.mp mem).symm ▸ halted) rfl (fuel - 1)
  rw [Nat.sub_add_cancel (by omega), ← runs] at finished
  rw [parse_of_finished finished]
  exact clean

end Parse

end JsxDetect
