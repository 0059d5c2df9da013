import JsxDetect.Proofs.Parse.ProgressInvariant
import JsxDetect.Proofs.Token.Contextual
import JsxDetect.Parse.Lookahead

/-!
# The next token keeps the invariant

What `lookahead` gives lies in the text.  A token with the symbol of `<` was read by the one rule
with that symbol, and so ends behind such a character.

## Main Results

* `lookahead_ok`: the next token is as the invariant asks

## Design Notes

**Only one token matters.**  Of all that the lexers do, the invariant asks one thing: a token with
the symbol of `<` has the character `<` before its end.  The tables of the lexers are built from one
list of rules, so this is a check of that list, done once by evaluation; the search itself is
followed only as far as to see that it never goes back.
-/

namespace JsxDetect.Grammar

open Token Automaton

/-! ### The rules of the tokens -/

theorem symbol_of_mem_tokens : ∀ rule ∈ tokens, rule.symbol < Symbol.tokenCount := by
  decide

/-- The symbol of `<` has one rule, which asks for this character. -/
theorem pattern_of_lessThan :
    ∀ rule ∈ tokens, rule.symbol = lessThan → rule.pattern = .literal ['<'] := by
  decide +kernel

theorem mem_tokens_of_lexicon {acceptsEnd : Bool} {ranks : List Nat} {rule : Rule}
    (mem : rule ∈ (lexicon acceptsEnd ranks).rules) : rule ∈ tokens := by
  obtain ⟨rank, -, found⟩ := List.mem_filterMap.mp mem
  exact List.mem_of_find?_eq_some found

theorem eq_lexicon_of_mem :
    ∀ l ∈ lexicons.toList, ∃ acceptsEnd ranks, l = lexicon acceptsEnd ranks := by
  rw [lexicons]
  repeat refine List.forall_mem_cons.mpr ⟨⟨_, _, rfl⟩, ?_⟩
  exact List.forall_mem_nil _

/-- The rules of every lexicon are those of the grammar. -/
theorem mem_tokens_of_lexiconOf {number : Nat} {rule : Rule}
    (mem : rule ∈ (lexiconOf number).rules) : rule ∈ tokens := by
  rw [lexiconOf, Array.getD_eq_getD_getElem?] at mem
  cases found : lexicons[number]? with
  | none =>
    rw [found] at mem
    cases mem
  | some l =>
    rw [found] at mem
    rw [← Array.getElem?_toList] at found
    obtain ⟨acceptsEnd, ranks, rfl⟩ := eq_lexicon_of_mem l (List.mem_of_getElem? found)
    exact mem_tokens_of_lexicon mem

/-- A keyword is a token, and no `<`: words are read as names first, and looked up afterwards. -/
theorem symbol_of_keyword {word : List Char} {symbol : Symbol}
    (found : keyword? word = some symbol) : symbol < Symbol.tokenCount ∧ symbol ≠ lessThan := by
  have checked : ∀ k ∈ keywords, k.2 < Symbol.tokenCount ∧ k.2 ≠ lessThan := by decide +kernel
  obtain ⟨k, find, rfl⟩ := Option.map_eq_some_iff.mp found
  exact checked k (List.mem_of_find?_eq_some find)

end JsxDetect.Grammar

namespace JsxDetect.Parse

open Automaton Grammar Token

variable {text : List Char}

/-! ### What is found -/

/-- What was found lies in the text behind a place. -/
def Found.Sound (before : Cursor) : Found → Prop
  | .token lexeme named =>
    before.Reaches lexeme.stop ∧ lexeme.symbol < Symbol.tokenCount ∧
      (named = true → lexeme.symbol = Symbol.identifier) ∧
      (lexeme.symbol = lessThan → ∃ chars, before.rest = chars ++ '<' :: lexeme.stop.rest)
  | .skipped _ stop => before.Reaches stop

/-- The text skipped so far lies behind a place. -/
def SkippedBehind (before : Cursor) (skipped : Option (Cursor × Cursor)) : Prop :=
  ∀ start stop, skipped = some (start, stop) → before.Reaches stop

/-- If text was skipped before, then it is what is found, and it lies behind the beginning as well.
-/
theorem Found.sound_of_skipped {before : Cursor} {skipped : Option (Cursor × Cursor)}
    {found : Found} :
    SkippedBehind before skipped → found.Sound before → Found.Sound before
      (match skipped with
        | some (start, stop) => .skipped start stop
        | none => found) := by
  intro behind sound
  cases skipped with
  | none => exact sound
  | some range =>
    obtain ⟨start, stop⟩ := range
    exact behind start stop rfl

/-- What is read in the context of a state is no `<`, and lies behind the place where the search is.
-/
theorem sound_of_contextual {before cursor : Cursor} {state : StateId} {inError hasAdvanced : Bool}
    {lexeme : Lexeme} (reaches : before.Reaches cursor)
    (found : contextual state inError hasAdvanced cursor = some lexeme) :
    Found.Sound before (.token lexeme false) := by
  have sound : lexeme.Sound cursor := by
    unfold contextual at found
    dsimp only at found
    generalize (row (if inError then 0 else state)).expected = number at found
    split at found
    · cases found
    · split at found
      · cases found
      · next read =>
        split at found
        · cases found
        · cases found
          exact Expected.read_sound read
  have token : 171 < Symbol.tokenCount := by decide
  have tag : lessThan < 168 := by decide
  refine ⟨reaches.trans sound.stop, Nat.lt_of_le_of_lt sound.symbol.2 token,
    fun named => (by cases named), fun same => ?_⟩
  exact absurd (same ▸ sound.symbol.1) (Nat.not_le.mpr tag)

/-- What a lexicon reads lies behind the place where the search is, and a `<` was read by its one
rule. -/
theorem sound_of_reading {before cursor : Cursor} {number : Nat} {symbol : Symbol}
    {start stop : Cursor} (reaches : before.Reaches cursor)
    (found : ((lexiconOf number).read cursor).found = some (symbol, stop)) :
    Found.Sound before (.token ⟨symbol, start, stop⟩ (symbol = Symbol.identifier)) := by
  have finds := ((lexiconOf number).read_sound cursor).found symbol stop found
  refine ⟨reaches.trans finds.reaches, ?_, of_decide_eq_true, fun same => ?_⟩
  · rcases finds.token with rfl | ⟨rule, mem, rfl, -⟩
    · exact (by decide : 0 < Symbol.tokenCount)
    · exact symbol_of_mem_tokens rule (mem_tokens_of_lexiconOf mem)
  · have noEnd : lessThan ≠ 0 := by decide
    rcases finds.token with zero | ⟨rule, mem, rfl, spaces, body, last, rest, -, steps, done⟩
    · exact absurd (same.symm.trans zero) noEnd
    · rw [pattern_of_lessThan rule (mem_tokens_of_lexiconOf mem) same] at steps
      obtain rfl := steps.literal_nullable done
      obtain ⟨chars, rest', text', rfl⟩ := reaches
      rw [Cursor.behind_rest] at rest
      refine ⟨chars ++ spaces, ?_⟩
      rw [text', rest]
      simp only [List.append_assoc, List.cons_append, List.nil_append]

/-- What the search finds lies in the text.  The induction is on its steps, each of which goes on
from a place behind the one where the search began. -/
theorem search_sound (state : StateId) (hasAdvanced : Bool) (before : Cursor) (fuel : Nat)
    (inError : Bool) (skipped : Option (Cursor × Cursor)) {cursor : Cursor}
    (behind : SkippedBehind before skipped) (reaches : before.Reaches cursor) :
    Found.Sound before (search state hasAdvanced before fuel inError skipped cursor) := by
  induction fuel generalizing inError skipped cursor with
  | zero =>
    cases skipped with
    | none => exact reaches
    | some range => exact behind range.1 range.2 rfl
  | succ fuel ih =>
    rw [search]
    dsimp only
    cases context : contextual state inError hasAdvanced cursor with
    | some lexeme =>
      dsimp only
      exact Found.sound_of_skipped behind (sound_of_contextual reaches context)
    | none =>
      dsimp only
      generalize (row (if inError then 0 else state)).lexicon = number
      have sound := (lexiconOf number).read_sound cursor
      cases found : ((lexiconOf number).read cursor).found with
      | some token =>
        dsimp only
        exact Found.sound_of_skipped behind (sound_of_reading reaches found)
      | none =>
        dsimp only
        split
        · exact ih true _ (fun _ _ same => by cases same) (.refl _)
        · have reached := reaches.trans sound.reached
          have goesOn {start next : Cursor} (there : before.Reaches next) :
              Found.Sound before (search state hasAdvanced before fuel true
                (some (start, next)) next) :=
            ih true _ (fun _ _ same => by cases same; exact there) there
          split
          · split
            · cases skipped with
              | none => exact reaches.trans sound.start
              | some range => exact behind range.1 range.2 rfl
            · exact goesOn (reached.trans (Cursor.reaches_next _))
          · exact goesOn reached

/-! ### The leaf -/

/-- The symbol of a name is that of a keyword, or of names in general: no `<` in either case. -/
theorem nameSymbol_cases (state : StateId) (start stop : Cursor) :
    nameSymbol state start stop < Symbol.tokenCount ∧ nameSymbol state start stop ≠ lessThan := by
  have identifier : Symbol.identifier < Symbol.tokenCount ∧ Symbol.identifier ≠ lessThan := by
    decide
  rw [nameSymbol]
  split
  · exact identifier
  · split
    · next found =>
      split
      · exact symbol_of_keyword found
      · exact identifier
    · exact identifier

/-- **The next token** is as the invariant asks, in whatever state and at whatever place of the
text. -/
theorem lookahead_ok {fuel : Nat} {state : StateId} {hasAdvanced : Bool} {cursor : Cursor}
    (inText : cursor.rest <:+ text) :
    TokenOk text (lookahead fuel state hasAdvanced cursor) := by
  have sound := search_sound state hasAdvanced cursor fuel (state = 0) none
    (fun _ _ same => by cases same) (Cursor.Reaches.refl cursor)
  rw [lookahead]
  cases found : search state hasAdvanced cursor fuel (state = 0) none cursor with
  | skipped start stop =>
    rw [found] at sound
    have noTag : Symbol.error ≠ lessThan := by decide
    have noEnd : Symbol.error ≠ Symbol.endOfText := by decide
    exact ⟨rfl, rfl, .inr rfl, fun same => absurd same noTag, sound.suffix.trans inText,
      fun same => absurd same noEnd⟩
  | token lexeme named =>
    rw [found] at sound
    obtain ⟨reaches, token, isName, read⟩ := sound
    cases named with
    | true =>
      have name := nameSymbol_cases state lexeme.start lexeme.stop
      exact ⟨rfl, rfl, .inl name.1, fun same => absurd same name.2,
        reaches.suffix.trans inText, decide_eq_true⟩
    | false =>
      refine ⟨rfl, rfl, .inl token, fun same => ?_, reaches.suffix.trans inText,
        decide_eq_true⟩
      refine ⟨_, Rose.mem_nodes_iff.mpr (.inl rfl), ?_⟩
      exact ⟨same, rfl, inText, read same⟩

end JsxDetect.Parse
