import JsxDetect.Proofs.Parse.EndOfText
import JsxDetect.Proofs.Token.Contextual

/-!
# The next token behind line breaks

Where a line ends a semicolon may have been left out, unless the next line carries on the statement.
The lemmas here tell what the parser reads behind blanks of any kind, line feeds included, in
states where a semicolon may be left out and in others.

## Main Definitions

* `Clear`: a character that begins no comment
* `CarriesOn`: a character that carries on the statement of the line before
* `Takes`: from a place on the parser reads some characters as a token

## Main Results

* `contextual_none`, `contextual_cases`: what there is before a token of those that depend on the
  context
* `Takes.of_munches`: the lexicon of the state decides
* `Takes.of_error`: where that reads nothing, the lexicon of the error state does

## Design Notes

**Beyond a plain line.**  The module on the next token speaks of blanks without line feeds, where a
semicolon is never left out.  Here a line may end, and the answer depends on the first character
behind it: `CarriesOn` lists those before which the parser does not end the statement.  That it does
end it before any other character is not claimed; `contextual_cases` leaves both open, and what
follows treats both.

**`Takes` instead of `Reads`.**  A semicolon that was left out has no length and depends on the
blanks behind it, so its statement is about a place with the whole text that is left.  `Takes` fixes
the cursor for this reason.  It also needs one more unit of fuel, because the lexicon of the error
state may be asked.
-/

namespace JsxDetect

open Token

/-! ### Characters -/

/-- A character that begins neither a comment nor an end of one, when others follow. -/
structure Clear (d : Char) (more : List Char) : Prop where
  dark : Token.isSpace d = false
  narrow : d.toNat < 0x80
  noOpen : d = '<' → more.head? ≠ some '!'
  noClose : d = '-' → more.head? ≠ some '-'

/-- A character that carries on the statement of the line before.  Two of them do only if they are
not doubled, and one only in front of an equals sign. -/
def CarriesOn (d : Char) (more : List Char) : Prop :=
  continuesStatement d = true ∨ (d = '+' ∨ d = '-') ∧ more.head? ≠ some d ∨
    d = '!' ∧ more.head? = some '='

namespace Clear

variable {cursor : Cursor} {blank more : List Char} {d : Char}
  (clear : Clear d more) (space : ∀ b ∈ blank, b ∈ spaces) (text : cursor.rest = blank ++ d :: more)

include clear

theorem ne_of_wide {e : Char} (wide : 0x80 ≤ e.toNat) : d ≠ e := by
  rintro rfl
  exact absurd clear.narrow (Nat.not_lt.mpr wide)

include space text

theorem skipMark : Lexicon.skipMark cursor = cursor := by
  have noMark : (d :: more).head? ≠ some '\ufeff' := fun same =>
    clear.ne_of_wide (show 0x80 ≤ '\ufeff'.toNat by decide) (Option.some.inj same)
  exact Lexicon.skipMark_of_peek (Lexicon.peek_ne_mark space noMark text)

/-- No comment comes. -/
theorem markupComment : Token.markupComment cursor = none := by
  have spacing : ∀ b ∈ spaces, (Token.isSpace b || b == '\u2028' || b == '\u2029') = true :=
    List.all_eq_true.mp (by decide)
  have stops : (Token.isSpace d || d == '\u2028' || d == '\u2029') = false := by
    have lines : d ≠ '\u2028' := clear.ne_of_wide (by decide)
    have paragraphs : d ≠ '\u2029' := clear.ne_of_wide (by decide)
    simp [clear.dark, lines, paragraphs]
  rw [Token.markupComment, skipWhile_space text space spacing stops, Cursor.behind_rest, if_neg]
  rw [Bool.or_eq_true, List.isPrefixOf_iff_prefix, List.isPrefixOf_iff_prefix]
  rintro (opens | closes)
  · obtain ⟨same, rest, opens⟩ := List.cons_prefix_cons.mp opens
    exact clear.noOpen same.symm (by rw [← opens]; rfl)
  · obtain ⟨same, rest, closes⟩ := List.cons_prefix_cons.mp closes
    exact clear.noClose same.symm (by rw [← closes]; rfl)

/-! ### Semicolons -/

omit text in
/-- The gap before it is skipped up to it, and no comment is met. -/
theorem skipGap (slash : d ≠ '/') (comment : Bool) (offset row : Nat) :
    ∃ offset' row', Token.skipGap .blank comment (blank ++ d :: more) offset row =
      ⟨true, ⟨d :: more, offset', row'⟩, comment⟩ := by
  have spacing : ∀ b ∈ spaces, Token.isSpace b = true := List.all_eq_true.mp (by decide)
  induction blank generalizing offset row with
  | nil =>
    refine ⟨offset, row, ?_⟩
    rw [List.nil_append, Token.skipGap, clear.dark, if_neg Bool.false_ne_true, if_neg slash]
  | cons b blank ih =>
    obtain ⟨offset', row', same⟩ := ih (fun c mem => space c (List.mem_cons_of_mem _ mem))
      (offset + Cursor.width b) (if b = '\n' then row + 1 else row)
    refine ⟨offset', row', ?_⟩
    rw [List.cons_append, Token.skipGap, if_pos (spacing b (space b List.mem_cons_self)), same]

omit space text in
theorem refused_line (expected : Expected) (carriesOn : CarriesOn d more) (offset row : Nat) :
    ∃ s k, semicolonBeforeLine expected ⟨true, ⟨d :: more, offset, row⟩, false⟩ = .refused s k := by
  rcases carriesOn with here | ⟨rfl | rfl, differs⟩ | ⟨rfl, same⟩
  · simp [semicolonBeforeLine, Cursor.peek, here]
  all_goals
    simp [semicolonBeforeLine, Cursor.peek, Cursor.next, Cursor.past, continuesStatement, *]

/-- **No semicolon is left out** before a character that carries on the statement, whether or not a
line has ended.  A slash and a brace have rules of their own and are excluded. -/
theorem refused (expected : Expected) (carriesOn : CarriesOn d more) (slash : d ≠ '/')
    (brace : d ≠ '\x7d') : ∃ s k, semicolon expected cursor = .refused s k := by
  have spacing : ∀ b ∈ spaces, Token.isSpace b = true := List.all_eq_true.mp (by decide)
  have noFeed : d ≠ '\n' := by
    rintro rfl
    exact absurd clear.dark (by decide)
  let inLine (b : Char) : Bool := Token.isSpace b && b != '\n'
  have parts : blank = blank.takeWhile inLine ++ blank.dropWhile inLine :=
    List.takeWhile_append_dropWhile.symm
  have skipped : cursor.skipWhile inLine =
      cursor.behind (blank.takeWhile inLine) (blank.dropWhile inLine ++ d :: more) := by
    refine skipWhile_behind (by rw [text, ← List.append_assoc, ← parts]) (fun b mem =>
      List.all_eq_true.mp List.all_takeWhile b mem) (fun b first => ?_)
    cases later : blank.dropWhile inLine with
    | nil =>
      rw [later] at first
      obtain rfl := Option.some.inj first
      change (Token.isSpace d && _) = false
      rw [clear.dark, Bool.false_and]
    | cons e others =>
      rw [later] at first
      obtain rfl := Option.some.inj first
      have stops := List.head?_dropWhile_not inLine blank
      rw [later] at stops
      simpa using stops
  -- Behind the blanks of this line comes the next token, or a line feed.
  rw [semicolon, skipped, Cursor.peek, Cursor.behind_rest]
  cases later : blank.dropWhile inLine with
  | nil =>
    rw [List.nil_append, List.head?_cons]
    split
    · next none => cases none
    · next feed => exact absurd (Option.some.inj feed) noFeed
    · next isBrace => exact absurd (Option.some.inj isBrace) brace
    · exact ⟨_, _, rfl⟩
  | cons e others =>
    have isFeed : e = '\n' := by
      have stops := List.head?_dropWhile_not inLine blank
      rw [later] at stops
      have isSpace := spacing e (space e (parts ▸ List.mem_append_right _ (later ▸ List.mem_cons_self)))
      have : inLine e = false := by simpa using stops
      simpa [inLine, isSpace] using this
    subst isFeed
    rw [List.cons_append, List.head?_cons]
    dsimp only
    have lower : ∀ b ∈ others, b ∈ spaces := fun b mem =>
      space b (parts ▸ List.mem_append_right _ (later ▸ List.mem_cons_of_mem _ mem))
    obtain ⟨offset, row, gap⟩ := clear.skipGap lower slash false
      ((cursor.behind (blank.takeWhile inLine) ('\n' :: (others ++ d :: more))).next.offset)
      ((cursor.behind (blank.takeWhile inLine) ('\n' :: (others ++ d :: more))).next.row)
    have rest : (cursor.behind (blank.takeWhile inLine) ('\n' :: (others ++ d :: more))).next.rest =
        others ++ d :: more := by
      rw [Cursor.next, Cursor.behind_rest]
      rfl
    rw [rest, gap]
    exact clear.refused_line expected carriesOn offset row

/-! ### What depends on the context -/

theorem read_markup {expected : Expected} (chars : expected.templateChars = false)
    (automatic : expected.automaticSemicolon = false)
    (signature : expected.signatureSemicolon = false) (mark : expected.ternaryMark = false) :
    expected.read cursor = none := by
  rw [Expected.read, clear.skipMark space text, chars, automatic, signature, mark,
    clear.markupComment space text]
  exact ite_self none

variable {expected : Expected} (chars : expected.templateChars = false)
  (automatic : expected.automaticSemicolon = true) (noMark : '?' ∉ cursor.rest)

include chars automatic noMark

/-- Where a semicolon could be left out, nothing else depends on the context. -/
theorem read_eq : expected.read cursor =
    match semicolon expected cursor with
    | .inserted => some ⟨168, cursor, cursor⟩
    | .refused _ _ => none := by
  rw [Expected.read, clear.skipMark space text, chars, automatic]
  cases answer : semicolon expected cursor with
  | inserted => rfl
  | refused settledAt comment =>
    have later := settledBehind_semicolon expected cursor settledAt comment answer
    have other : (settledAt.peek == some '?') = false := by
      rw [beq_eq_false_iff_ne]
      intro same
      exact noMark (later.suffix.subset (List.mem_of_head? same))
    dsimp only
    rw [other, Bool.and_false]
    rfl

end Clear

namespace Parse

open Automaton Grammar SyntaxTree

/-- The sets of context-dependent tokens that a statement may end with a line in. -/
def breakSets : List Nat := [4, 5]

variable {cursor : Cursor} {blank more : List Char} {d : Char} {state : StateId}
  (clear : Clear d more) (space : ∀ b ∈ blank, b ∈ spaces) (text : cursor.rest = blank ++ d :: more)

include clear space text

/-- **No context-dependent token** where no semicolon may be left out.  The set with the number 2
has comments of markup only. -/
theorem contextual_markup (markup : (row state).expected = 2) :
    contextual state false true cursor = none := by
  refine contextual_of_read ?_
  rw [if_neg Bool.false_ne_true, markup]
  exact clear.read_markup space text rfl rfl rfl rfl

/-- A semicolon left out, or no context-dependent token.  Which of them it is depends on the gap and
on what comes behind. -/
theorem contextual_cases (breaks : (row state).expected ∈ 2 :: breakSets) (noMark : '?' ∉ cursor.rest) :
    contextual state false true cursor = none ∨
      (row state).expected ∈ breakSets ∧ contextual state false true cursor = some ⟨168, cursor, cursor⟩ := by
  rcases List.mem_cons.mp breaks with markup | breaks
  · exact .inl (contextual_markup clear space text markup)
  · have checked : ∀ number ∈ breakSets, (expectedOf number).templateChars = false ∧
        (expectedOf number).automaticSemicolon = true := by decide
    obtain ⟨chars, automatic⟩ := checked _ breaks
    have read := clear.read_eq space text chars automatic noMark
    cases answer : semicolon (expectedOf (row state).expected) cursor with
    | refused settledAt comment =>
      rw [answer] at read
      exact .inl (contextual_of_read (by rw [if_neg Bool.false_ne_true]; exact read))
    | inserted =>
      rw [answer] at read
      rw [contextual, if_neg Bool.false_ne_true, read]
      dsimp only
      split
      · exact .inl rfl
      · split
        · exact .inl rfl
        · exact .inr ⟨breaks, rfl⟩

/-- **No context-dependent token** before a character that carries on the statement.  The text must
be without question marks, as a set of tokens may have the mark of a conditional in it. -/
theorem contextual_none (breaks : (row state).expected ∈ 2 :: breakSets) (noMark : '?' ∉ cursor.rest)
    (carriesOn : CarriesOn d more) (slash : d ≠ '/') (brace : d ≠ '\x7d') :
    contextual state false true cursor = none := by
  rcases List.mem_cons.mp breaks with markup | breaks
  · exact contextual_markup clear space text markup
  · have checked : ∀ number ∈ breakSets, (expectedOf number).templateChars = false ∧
        (expectedOf number).automaticSemicolon = true := by decide
    obtain ⟨chars, automatic⟩ := checked _ breaks
    obtain ⟨s, k, refused⟩ := clear.refused space text (expectedOf (row state).expected) carriesOn
      slash brace
    refine contextual_of_read ?_
    rw [if_neg Bool.false_ne_true, clear.read_eq space text chars automatic noMark, refused]

omit clear space text

/-! ### Tokens -/

/-- From a place on some characters are read as a token, when others follow them.  The place is
given, as a token that was left out depends on where it is. -/
def Takes (state : StateId) (cursor : Cursor) (symbol : Symbol) (taken rest : List Char) : Prop :=
  ∃ start, ∀ fuel, lookahead (fuel + 2) state true cursor =
    leaf symbol cursor start (cursor.behind taken rest)

variable {symbol : Symbol} {token rest : List Char} (outside : state ≠ 0)
  (noContext : contextual state false true cursor = none)

include outside

/-- **A semicolon that was left out.**  It takes no text, so blanks are still to be read behind it.
-/
theorem Takes.omitted (context : contextual state false true cursor = some ⟨168, cursor, cursor⟩)
    {rest : List Char} (text : cursor.rest = rest) : Takes state cursor 168 [] rest := by
  refine ⟨cursor, fun fuel => ?_⟩
  have searched : search state true cursor (fuel + 2) false none cursor = .token ⟨168, cursor, cursor⟩ false := by
    rw [search, context]
  rw [lookahead, show decide (state = 0) = false from decide_eq_false outside, searched, ← text]
  rfl

include noContext

/-- The lexicon of the state decides, if no token depends on the context. -/
theorem Takes.of_munches {found : Symbol}
    (munches : (lexiconOf (row state).lexicon).Munches cursor found blank token rest)
    (named : ∀ start : Cursor, start.rest = token ++ rest →
      (if found = Symbol.identifier then nameSymbol state start (start.behind token rest)
        else found) = symbol) :
    Takes state cursor symbol (blank ++ token) rest := by
  refine ⟨cursor.behind blank (token ++ rest), fun fuel => ?_⟩
  rw [lookahead_of_munches outside noContext munches, named _ (Cursor.behind_rest ..),
    ← Cursor.behind_append]

/-- Where the lexicon of the state reads nothing, that of the error state decides.  No name is read
in this way, since it would be looked up for the state. -/
theorem Takes.of_error (nothing : ((lexiconOf (row state).lexicon).read cursor).found = none)
    (munches : (lexiconOf (row 0).lexicon).Munches cursor symbol blank token rest)
    (noName : symbol ≠ Symbol.identifier) : Takes state cursor symbol (blank ++ token) rest := by
  refine ⟨cursor.behind blank (token ++ rest), fun fuel => ?_⟩
  have noContext' : contextual state true true cursor = none := by
    refine contextual_of_read ?_
    have errorSet : (row 0).expected = 1 := by decide +kernel
    rw [if_pos rfl, errorSet]
    exact Expected.read_error rfl rfl
  have searched : search state true cursor (fuel + 2) false none cursor =
      .token ⟨symbol, cursor.behind blank (token ++ rest),
        (cursor.behind blank (token ++ rest)).behind token rest⟩ false := by
    rw [search, noContext]
    dsimp only
    rw [if_neg Bool.false_ne_true, nothing]
    dsimp only
    rw [Bool.not_false, if_pos rfl, search, noContext']
    dsimp only
    rw [if_pos rfl, munches.found, munches.start]
    dsimp only
    rw [decide_eq_false noName]
  rw [lookahead, show decide (state = 0) = false from decide_eq_false outside, searched,
    Cursor.behind_append]
  rfl

end Parse

namespace Token.Lexicon

variable (lexicon : Lexicon) in
/-- Does no token of the lexicon begin with a character of some ranges?  It is evaluated on the
first threads, and uniformly on each range. -/
def readsNothing (ranges : List (Char × Char)) : Bool :=
  lexicon.canBeLoose && !CharSet.inRanges '\ufeff' ranges && lexicon.beginnings.all fun threads =>
    (Thread.best threads).isNone && ranges.all fun range =>
      uniform threads range && (lexicon.ahead threads true range.1).isNone

/-- **Nothing is read** before such a character, whatever follows it.  The parser then asks the
lexicon of the error state. -/
theorem read_nothing {lexicon : Lexicon} {ranges : List (Char × Char)}
    (nothing : lexicon.readsNothing ranges = true) {blank more : List Char} {d : Char}
    (skips : blank ≠ [] → lexicon.skipsBlanks = true) (space : ∀ b ∈ blank, b ∈ spaces)
    (begins : CharSet.inRanges d ranges = true) {cursor : Cursor}
    (text : cursor.rest = blank ++ d :: more) :
    (lexicon.read cursor).found = none := by
  rw [readsNothing, Bool.and_eq_true, Bool.and_eq_true, Bool.not_eq_true'] at nothing
  have noMark : (d :: more).head? ≠ some '\ufeff' := by
    intro head
    rw [Option.some.inj head, nothing.1.2] at begins
    cases begins
  obtain ⟨threads, mem, same⟩ := read_behind nothing.1.1 skips space noMark text
  have checked := List.all_eq_true.mp nothing.2 threads mem
  rw [Bool.and_eq_true] at checked
  obtain ⟨range, inRange, above, below⟩ := exists_range begins
  have stops := List.all_eq_true.mp checked.2 range inRange
  rw [Bool.and_eq_true] at stops
  obtain ⟨uniform, stops⟩ := stops
  rw [← ahead_of_uniform uniform above below] at stops
  rw [same, followFrom_of_none (Cursor.behind_rest ..) (Option.isNone_iff_eq_none.mp stops), lastFound,
    Option.isNone_iff_eq_none.mp checked.1]

end Token.Lexicon

end JsxDetect
