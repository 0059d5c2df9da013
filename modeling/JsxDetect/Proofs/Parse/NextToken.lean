import JsxDetect.Parse.Lookahead
import JsxDetect.Proofs.Token.Munch

/-!
# The next token of a plain text

In a *plain* text, without the characters that begin context-dependent tokens, the next token
is the one that the lexicon of the state reads.  What the parser reads then depends on the state
and on the characters that are left, not on the place.

## Main Definitions

* `plain`: a character that begins no context-dependent token and continues none
* `Reads`: in a state the parser reads a token from some characters, and others are left

## Main Results

* `Expected.read_plain`: no context-dependent token before a token of a plain line
* `Reads.name`, `Reads.keyword`, `Reads.of_munches`

## Design Notes

**A text, not a place.**  `Reads` speaks of every cursor with the given characters before it.  So it
can be used before it is known where a token begins, and a text is read by writing down its tokens.
Row, column and offset do not decide anything on a plain line.

**What is checked and what is proved.**  For each kind of token a boolean function evaluates one
lexicon on ranges of characters (`readsClass`, `readsFixed`, `leadsTo`), and a lemma here turns it
into `Reads` for all words and all texts behind.  The lists of lexicons, such as `nameLexicons`, are
those that the states in question use.

**Words.**  A word is read as a name by the lexicon and looked up among the keywords afterwards, and
it is a keyword only in states that can use one.  `wordSymbol` is this rule, and a word that is no
keyword anywhere is a name everywhere.
-/

namespace JsxDetect

open Token

/-! ### Context-dependent tokens -/

/-- A character that neither begins a context-dependent token nor continues one.  Excluded are
quasi-quotes, marks, escapes and the line separators beyond ASCII. -/
def plain (c : Char) : Bool :=
  !(['\x60', '\\', '$', '!', '?', '-', '\u2028', '\u2029', '\ufeff'].contains c)

theorem plain_of_letter {c : Char} (letter : isLetter c = true) : plain c = true :=
  forall_letter (p := fun c => plain c = true) (by decide +kernel) letter

theorem ne_of_plain {c d : Char} (holds : plain c = true) (fails : plain d = false) : c ≠ d := by
  rintro rfl
  rw [holds] at fails
  cases fails

/-- Skipping stops behind the longest beginning that may be skipped. -/
theorem skipWhile_behind {p : Char → Bool} {blank rest : List Char} {cursor : Cursor}
    (text : cursor.rest = blank ++ rest) (skips : ∀ b ∈ blank, p b = true)
    (stops : ∀ c, rest.head? = some c → p c = false) :
    cursor.skipWhile p = cursor.behind blank rest := by
  have walk : ∀ (blank : List Char) (cursor : Cursor), cursor.rest = blank ++ rest →
      (∀ b ∈ blank, p b = true) →
      Cursor.skipWhile.go p cursor.rest cursor.offset cursor.row = cursor.behind blank rest := by
    intro blank
    induction blank with
    | nil =>
      intro cursor text _
      obtain ⟨chars, offset, row⟩ := cursor
      obtain rfl : chars = rest := text
      cases chars with
      | nil => rfl
      | cons c chars =>
        rw [Cursor.skipWhile.go, stops c rfl]
        rfl
    | cons b blank ih =>
      intro cursor text skips
      rw [text, List.cons_append, Cursor.skipWhile.go, skips b List.mem_cons_self, if_pos rfl,
        Cursor.behind_cons,
        ← ih (cursor.past b (blank ++ rest)) rfl fun c mem => skips c (List.mem_cons_of_mem _ mem)]
      rfl
  exact walk blank cursor text skips

section

variable {cursor : Cursor} {blank more : List Char} {c : Char}
  (text : cursor.rest = blank ++ c :: more) (space : ∀ b ∈ blank, b ∈ spaces)
  (allPlain : ∀ d ∈ blank ++ c :: more, plain d = true) (dark : Token.isSpace c = false)

include text allPlain

/-- There is no end of a template, however far it is looked for. -/
theorem templateEnd_plain (seen : Bool) (offset row : Nat) :
    templateEnd seen cursor.rest offset row = none := by
  have walk : ∀ (chars : List Char), (∀ d ∈ chars, plain d = true) → ∀ (seen : Bool)
      (offset row : Nat), templateEnd seen chars offset row = none := by
    intro chars
    induction chars with
    | nil => exact fun _ _ _ _ => rfl
    | cons d chars ih =>
      intro allPlain seen offset row
      have here := allPlain d List.mem_cons_self
      have noQuote : d ≠ '\x60' := ne_of_plain here (by decide)
      have noEscape : d ≠ '\\' := ne_of_plain here (by decide)
      have noDollar : d ≠ '$' := ne_of_plain here (by decide)
      rw [templateEnd, if_neg (by simp [noQuote, noEscape]), if_neg (by simp [noDollar])]
      exact ih (fun e mem => allPlain e (List.mem_cons_of_mem _ mem)) _ _ _
  exact walk cursor.rest (text ▸ allPlain) seen offset row

include space

omit allPlain in
theorem skipWhile_space {p : Char → Bool} (spacing : ∀ b ∈ spaces, p b = true)
    (stops : p c = false) : cursor.skipWhile p = cursor.behind blank (c :: more) :=
  skipWhile_behind text (fun b mem => spacing b (space b mem))
    (fun _ same => Option.some.inj same ▸ stops)

include dark

theorem conditionalMark_plain : conditionalMark cursor = none := by
  have spacing : ∀ b ∈ spaces, Token.isSpace b = true := List.all_eq_true.mp (by decide)
  have noMark : c ≠ '?' :=
    ne_of_plain (allPlain c (List.mem_append_right _ List.mem_cons_self)) (by decide)
  rw [conditionalMark, skipWhile_space text space spacing dark, if_pos]
  rw [Cursor.peek, Cursor.behind_rest]
  exact fun same => noMark (Option.some.inj same)

/-- There is no comment of markup, as it begins with a mark or a dash. -/
theorem markupComment_plain : markupComment cursor = none := by
  have spacing : ∀ b ∈ spaces, (Token.isSpace b || b == '\u2028' || b == '\u2029') = true :=
    List.all_eq_true.mp (by decide)
  have here := allPlain c (List.mem_append_right _ List.mem_cons_self)
  have stops : (Token.isSpace c || c == '\u2028' || c == '\u2029') = false := by
    have lines : c ≠ '\u2028' := ne_of_plain here (by decide)
    have paragraphs : c ≠ '\u2029' := ne_of_plain here (by decide)
    simp [dark, lines, paragraphs]
  rw [markupComment, skipWhile_space text space spacing stops, Cursor.behind_rest, if_neg]
  rw [Bool.or_eq_true, List.isPrefixOf_iff_prefix, List.isPrefixOf_iff_prefix]
  rintro (opens | closes)
  · obtain ⟨-, opens⟩ := List.cons_prefix_cons.mp opens
    have mark : '!' ∈ more := opens.subset List.mem_cons_self
    exact ne_of_plain (allPlain '!' (List.mem_append_right _ (List.mem_cons_of_mem _ mark)))
      (by decide) rfl
  · obtain ⟨same, -⟩ := List.cons_prefix_cons.mp closes
    exact ne_of_plain here (by decide) same.symm

/-- No semicolon may be left out before a token on the same line, unless it is a brace.  The cursor
may have been moved by looking, and what is read next begins there. -/
theorem semicolon_sameLine (line : '\n' ∉ blank) (noBrace : c ≠ '\x7d') (expected : Expected) :
    semicolon expected cursor = .refused (cursor.behind blank (c :: more)) false := by
  have spacing : ∀ b ∈ spaces, Token.isSpace b = true := List.all_eq_true.mp (by decide)
  have noFeed : c ≠ '\n' := by
    rintro rfl
    cases dark
  have skipped : cursor.skipWhile (fun c => Token.isSpace c && c != '\n') = cursor.behind blank (c :: more) := by
    refine skipWhile_behind text (fun b mem => ?_) (fun d same => ?_)
    · have other : b ≠ '\n' := fun same => line (same ▸ mem)
      rw [spacing b (space b mem), Bool.true_and, bne_iff_ne]
      exact other
    · rw [← Option.some.inj same, dark, Bool.false_and]
  rw [semicolon, skipped, Cursor.peek, Cursor.behind_rest, List.head?_cons]
  split
  · next none => cases none
  · next feed => exact absurd (Option.some.inj feed) noFeed
  · next brace => exact absurd (Option.some.inj brace) noBrace
  · rfl

/-- **No context-dependent token** before a token of a plain line, whatever the state expects.  A
semicolon could be left out only before a brace, and that is excluded. -/
theorem Expected.read_plain (line : '\n' ∉ blank) (noBrace : c ≠ '\x7d') (expected : Expected) :
    expected.read cursor = none := by
  have noMark : (c :: more).head? ≠ some '\ufeff' := fun same =>
    ne_of_plain (allPlain c (List.mem_append_right _ List.mem_cons_self)) (by decide)
      (Option.some.inj same)
  rw [Expected.read, Lexicon.skipMark_of_peek (Lexicon.peek_ne_mark space noMark text)]
  split
  · split
    · rfl
    · rw [templateEnd_plain text allPlain]
      rfl
  · split
    · rw [semicolon_sameLine text space allPlain dark line noBrace]
      have other : c ≠ '?' :=
        ne_of_plain (allPlain c (List.mem_append_right _ List.mem_cons_self)) (by decide)
      have peek : ((cursor.behind blank (c :: more)).peek == some '?') = false := by
        rw [Cursor.peek, Cursor.behind_rest, List.head?_cons, beq_eq_false_iff_ne]
        exact fun same => other (Option.some.inj same)
      dsimp only
      rw [peek, Bool.and_false]
      rfl
    · split
      · exact conditionalMark_plain text space allPlain dark
      · split
        · exact markupComment_plain text space allPlain dark
        · rfl

end

namespace Parse

open Automaton Grammar

/-! ### Names -/

/-- What a word is read as in a state. -/
def wordSymbol (state : StateId) (word : List Char) : Symbol :=
  if word.length > longestKeyword then Symbol.identifier
  else
    match keyword? word with
    | some symbol => if acts state symbol then symbol else Symbol.identifier
    | none => Symbol.identifier

theorem wordSymbol_of_none (state : StateId) {word : List Char} (free : keyword? word = none) :
    wordSymbol state word = Symbol.identifier := by
  rw [wordSymbol, free]
  exact ite_self _

theorem wordSymbol_of_some {state : StateId} {word : List Char} {symbol : Symbol}
    (keyword : keyword? word = some symbol) (known : acts state symbol = true)
    (short : word.length ≤ longestKeyword) : wordSymbol state word = symbol := by
  rw [wordSymbol, if_neg (Nat.not_lt.mpr short), keyword]
  dsimp only
  rw [if_pos known]

/-- A word is a name, or a keyword that the state can use. -/
theorem wordSymbol_cases (state : StateId) (word : List Char) :
    wordSymbol state word = Symbol.identifier ∨
      ∃ k ∈ keywords, wordSymbol state word = k.2 ∧ acts state k.2 = true := by
  rw [wordSymbol]
  split
  · exact .inl rfl
  · split
    · next symbol found =>
      obtain ⟨k, search, rfl⟩ := Option.map_eq_some_iff.mp found
      split
      · next known => exact .inr ⟨k, List.mem_of_find?_eq_some search, rfl, known⟩
      · exact .inl rfl
    · exact .inl rfl

/-- A word has as many bytes as letters; its length in bytes decides whether it is looked up at all.
-/
theorem bytesTo_behind_letters {cursor : Cursor} {word rest : List Char}
    (letters : ∀ c ∈ word, isLetter c = true) :
    cursor.bytesTo (cursor.behind word rest) = word.length := by
  have walk : ∀ (word : List Char) (cursor : Cursor), (∀ c ∈ word, isLetter c = true) →
      (cursor.behind word rest).offset = cursor.offset + word.length := by
    intro word
    induction word with
    | nil => exact fun _ _ => rfl
    | cons c word ih =>
      intro cursor letters
      have narrow : Cursor.width c = 1 := by
        have letter := letters c List.mem_cons_self
        simp only [isLetter, Bool.or_eq_true, Bool.and_eq_true, decide_eq_true_eq] at letter
        have lower : 'z'.toNat = 122 := rfl
        have upper : 'Z'.toNat = 90 := rfl
        exact if_pos (by omega)
      rw [Cursor.behind_cons, ih _ fun d mem => letters d (List.mem_cons_of_mem _ mem),
        List.length_cons]
      have offset : (cursor.past c (word ++ rest)).offset = cursor.offset + Cursor.width c := rfl
      omega
  rw [Cursor.bytesTo, walk word cursor letters]
  omega

theorem nameSymbol_eq {state : StateId} {start : Cursor} {word rest : List Char}
    (letters : ∀ c ∈ word, isLetter c = true) (text : start.rest = word ++ rest) :
    nameSymbol state start (start.behind word rest) = wordSymbol state word := by
  rw [nameSymbol, bytesTo_behind_letters letters, Cursor.lexeme_behind text]
  rfl

/-! ### Tokens -/

/-- The characters of a plain text. -/
def Plain (chars : List Char) : Prop := ∀ c ∈ chars, plain c = true

/-- In a state the parser reads some characters as a token, when others follow them.  Blanks before
the token belong to the characters taken. -/
structure Reads (state : StateId) (taken : List Char) (symbol : Symbol) (rest : List Char) :
    Prop where
  nonempty : taken ≠ []
  reads : ∀ cursor : Cursor, cursor.rest = taken ++ rest → ∃ start : Cursor,
    ∀ fuel, lookahead (fuel + 1) state true cursor =
      SyntaxTree.leaf symbol cursor start (cursor.behind taken rest)

theorem contextual_of_read {state : StateId} {inError hasAdvanced : Bool} {cursor : Cursor}
    (nothing : (expectedOf (row (if inError then 0 else state)).expected).read cursor = none) :
    contextual state inError hasAdvanced cursor = none := by
  rw [contextual, nothing]
  exact ite_self none

/-- Where there is no context-dependent token, the lexicon of the state decides.  A name is then
looked up. -/
theorem lookahead_of_munches {state : StateId} (outside : state ≠ 0) {hasAdvanced : Bool}
    {cursor : Cursor} (noContext : contextual state false hasAdvanced cursor = none) {symbol : Symbol}
    {blank token rest : List Char}
    (munches : (lexiconOf (row state).lexicon).Munches cursor symbol blank token rest) (fuel : Nat) :
    lookahead (fuel + 1) state hasAdvanced cursor =
      SyntaxTree.leaf
        (if symbol = Symbol.identifier then
          nameSymbol state (cursor.behind blank (token ++ rest))
            ((cursor.behind blank (token ++ rest)).behind token rest)
        else symbol)
        cursor (cursor.behind blank (token ++ rest))
        ((cursor.behind blank (token ++ rest)).behind token rest) := by
  have searched : search state hasAdvanced cursor (fuel + 1) false none cursor =
      .token ⟨symbol, cursor.behind blank (token ++ rest),
        (cursor.behind blank (token ++ rest)).behind token rest⟩ (symbol = Symbol.identifier) := by
    rw [search, noContext]
    dsimp only
    rw [if_neg Bool.false_ne_true, munches.found, munches.start]
  rw [lookahead, show decide (state = 0) = false from decide_eq_false outside, searched]
  dsimp only
  by_cases named : symbol = Symbol.identifier
  · rw [if_pos named, if_pos (decide_eq_true named)]
  · rw [if_neg named, if_neg (by rw [decide_eq_false named]; exact Bool.false_ne_true)]

section

variable {state : StateId} {blank rest : List Char}

variable (outside : state ≠ 0) {symbol : Symbol} {c : Char} {token : List Char}
  (space : ∀ b ∈ blank, b ∈ spaces) (line : '\n' ∉ blank)
  (allPlain : Plain (blank ++ (c :: token ++ rest))) (dark : Token.isSpace c = false)
  (noBrace : c ≠ '\x7d')

include outside space line allPlain dark noBrace

/-- Before a token of a plain line the lexicon of the state decides; `named` is what a name is
read as. -/
theorem Reads.of_munches (found : Symbol)
    (munches : ∀ cursor : Cursor, cursor.rest = blank ++ (c :: token ++ rest) →
      (lexiconOf (row state).lexicon).Munches cursor found blank (c :: token) rest)
    (named : ∀ start : Cursor, start.rest = c :: token ++ rest →
      (if found = Symbol.identifier then nameSymbol state start (start.behind (c :: token) rest)
        else found) = symbol) :
    Reads state (blank ++ c :: token) symbol rest := by
  refine ⟨List.append_ne_nil_of_right_ne_nil _ (List.cons_ne_nil c token), fun cursor text => ?_⟩
  rw [List.append_assoc] at text
  refine ⟨cursor.behind blank (c :: token ++ rest), fun fuel => ?_⟩
  have noContext : contextual state false true cursor = none :=
    contextual_of_read (Expected.read_plain text space allPlain dark line noBrace _)
  rw [lookahead_of_munches outside noContext (munches cursor text), named _ (Cursor.behind_rest ..),
    Cursor.behind_append]

end

/-! ### Names and fixed texts -/

/-- What may follow a name. -/
def nameEnders : List (Char × Char) :=
  [(' ', ' '), ('\x09', '\n'), ('<', '<'), ('>', '>'), ('(', ')'), (',', ','), ('[', '['),
    (']', ']'), (':', ';')]

/-- The lexicons that the states before names read with. -/
def nameLexicons : List Nat := [1, 8, 10]

/-- Each of these lexicons reads a run of letters as a name, by evaluation. -/
theorem nameLexicons_read : ∀ number ∈ nameLexicons,
    (lexiconOf number).skipsBlanks = true ∧
      (lexiconOf number).readsClass letters letters nameEnders Symbol.identifier = true := by
  decide +kernel

theorem dark_of_letter {c : Char} (letter : isLetter c = true) :
    Token.isSpace c = false ∧ c ≠ '\x7d' :=
  forall_letter (p := fun c => Token.isSpace c = false ∧ c ≠ '\x7d') (by decide +kernel) letter

section

variable {state : StateId} {blank word rest : List Char} (outside : state ≠ 0)
  (known : (row state).lexicon ∈ nameLexicons) (space : ∀ b ∈ blank, b ∈ spaces)
  (line : '\n' ∉ blank) (isWord : IsWord word) (next : Lexicon.Follows rest nameEnders)
  (allPlain : Plain (blank ++ (word ++ rest)))

include outside known space line isWord next allPlain

/-- **A word**, which is a name or a keyword as the state has it.  It must be followed by something
that ends a name. -/
theorem Reads.ofWord : Reads state (blank ++ word) (wordSymbol state word) rest := by
  obtain ⟨nonempty, letters⟩ := isWord
  cases word with
  | nil => exact absurd rfl nonempty
  | cons c token =>
    obtain ⟨skips, reads⟩ := nameLexicons_read _ known
    have letter := letters c List.mem_cons_self
    refine .of_munches outside space line allPlain
      (dark_of_letter letter).1 (dark_of_letter letter).2 Symbol.identifier (fun cursor text => ?_)
      (fun start text => (if_pos rfl).trans (nameSymbol_eq letters text))
    exact Lexicon.munches_class reads (fun _ => skips) space (inRanges_letters letter)
      (fun d mem => inRanges_letters (letters d (List.mem_cons_of_mem _ mem))) next text

/-- **A name**, in any state that reads names at all: a word that is no keyword is a name there. -/
theorem Reads.name (free : keyword? word = none) :
    Reads state (blank ++ word) Symbol.identifier rest :=
  wordSymbol_of_none state free ▸
    Reads.ofWord outside known space line isWord next allPlain

/-- **A keyword** that the state can use.  Words that are longer than all keywords are not looked
up, hence the bound. -/
theorem Reads.keyword {symbol : Symbol} (keyword : keyword? word = some symbol)
    (short : word.length ≤ longestKeyword) (acts : acts state symbol = true) :
    Reads state (blank ++ word) symbol rest :=
  wordSymbol_of_some keyword acts short ▸ Reads.ofWord outside known space line isWord next allPlain

end

/-- **A fixed text** that is no name.  What may follow it is given by ranges, and the lexicon must
not go on with any of them. -/
theorem Reads.fixed {state : StateId} (outside : state ≠ 0) {symbol : Symbol}
    (noName : symbol ≠ Symbol.identifier) {c : Char} {token : List Char}
    {enders : List (Char × Char)}
    (reads : (lexiconOf (row state).lexicon).readsFixed (c :: token) symbol enders = true)
    (dark : Token.isSpace c = false) (noBrace : c ≠ '\x7d') {blank rest : List Char}
    (skips : blank ≠ [] → (lexiconOf (row state).lexicon).skipsBlanks = true)
    (space : ∀ b ∈ blank, b ∈ spaces) (line : '\n' ∉ blank)
    (next : Lexicon.Follows rest enders) (allPlain : Plain (blank ++ (c :: token ++ rest))) :
    Reads state (blank ++ c :: token) symbol rest :=
  .of_munches outside space line allPlain dark noBrace _
    (fun _ text => Lexicon.munches_fixed reads skips space next text) (fun _ _ => if_neg noName)

/-- The lexicons that skip blanks. -/
def looseLexicons : List Nat := [0, 1, 2, 3, 4, 5, 6, 7, 8, 9, 10, 11, 12, 14, 15]

/-- All of these lexicons skip blanks, by evaluation.  The lexicon of text between tags is not among
them. -/
theorem looseLexicons_skip : ∀ number ∈ looseLexicons, (lexiconOf number).skipsBlanks = true := by
  decide +kernel

/-- A token with a fixed text, and what may follow it where some lexicons read it. -/
structure FixedToken where
  first : Char
  others : List Char
  symbol : Symbol
  enders : List (Char × Char)
  lexicons : List Nat
  deriving DecidableEq

namespace FixedToken

/-- The text of the token. -/
def text (t : FixedToken) : List Char := t.first :: t.others

/-- The token is what the lexicons read. -/
def sound (t : FixedToken) : Bool :=
  t.symbol != Symbol.identifier && !Token.isSpace t.first && t.first != '\x7d' &&
    t.lexicons.all fun number => (lexiconOf number).readsFixed t.text t.symbol t.enders

/-- In a state that reads with one of the lexicons the token is read, if what follows is one of the
characters in `enders`. -/
theorem reads {t : FixedToken} (sound : t.sound = true) {state : StateId} (outside : state ≠ 0)
    (known : (row state).lexicon ∈ t.lexicons) {blank rest : List Char}
    (loose : blank ≠ [] → (row state).lexicon ∈ looseLexicons) (space : ∀ b ∈ blank, b ∈ spaces)
    (line : '\n' ∉ blank) (next : Lexicon.Follows rest t.enders)
    (allPlain : Plain (blank ++ (t.text ++ rest))) :
    Reads state (blank ++ t.text) t.symbol rest := by
  simp only [FixedToken.sound, Bool.and_eq_true, Bool.not_eq_true', bne_iff_ne] at sound
  obtain ⟨⟨⟨noName, dark⟩, noBrace⟩, all⟩ := sound
  exact .fixed outside noName (List.all_eq_true.mp all _ known) dark noBrace
    (fun differs => looseLexicons_skip _ (loose differs)) space line next allPlain

end FixedToken

/-! ### Tags -/

/-- A fixed text with which a longer token begins.  The longer one is not there, because what
follows differs from the rest of it. -/
theorem Reads.shorter {state : StateId} (outside : state ≠ 0) {symbol : Symbol}
    (noName : symbol ≠ Symbol.identifier) {c : Char} {token : List Char}
    {enders : List (Char × Char)}
    (reads : (lexiconOf (row state).lexicon).readsFixed (c :: token) symbol enders = true)
    {d e : Char} {longer : List Char}
    (leads : (lexiconOf (row state).lexicon).leadsTo (c :: token) d e longer = true)
    (dark : Token.isSpace c = false) (noBrace : c ≠ '\x7d') {blank rest : List Char}
    (skips : blank ≠ [] → (lexiconOf (row state).lexicon).skipsBlanks = true)
    (space : ∀ b ∈ blank, b ∈ spaces) (line : '\n' ∉ blank) (differs : ¬ e :: longer <+: rest)
    (allPlain : Plain (blank ++ (c :: token ++ d :: rest))) :
    Reads state (blank ++ c :: token) symbol (d :: rest) :=
  .of_munches outside space line allPlain dark noBrace _
    (fun _ text => Lexicon.munches_shorter reads leads skips space differs text)
    (fun _ _ => if_neg noName)

/-- The letters but one. -/
def lettersButT : List (Char × Char) := [('a', 's'), ('u', 'z'), ('A', 'Z')]

theorem inRanges_lettersButT {c : Char} (letter : isLetter c = true) (other : c ≠ 't') :
    CharSet.inRanges c lettersButT = true := by
  have all := forall_letter
    (p := fun c => c ≠ 't' → CharSet.inRanges c lettersButT = true) (by decide +kernel) letter
  exact all other

/-- The word that is no name behind `<`. -/
def templateWord : List Char := ['t', 'e', 'm', 'p', 'l', 'a', 't', 'e']

/-- The lexicons that the states before `<` read with. -/
def lessThanLexicons : List Nat := [1, 16]

/-- Each of these lexicons reads `<` before a letter, but where the letter could begin the keyword
of a longer token. -/
theorem lessThanLexicons_read : ∀ number ∈ lessThanLexicons,
    (lexiconOf number).readsFixed ['<'] 96 lettersButT = true ∧
      ((lexiconOf number).readsFixed ['<'] 96 [('t', 't')] = true ∨
        (lexiconOf number).leadsTo ['<'] 't' 'e' ['m', 'p', 'l', 'a', 't', 'e', '>'] = true) := by
  decide +kernel

/-- A word and what follows it do not begin with another word and what follows that: different words
differ before either ends, or one ends where the other has a letter. -/
theorem not_prefix_of_ne {word other rest : List Char} {c : Char} (isWord : IsWord word)
    (isOther : IsWord other) (differs : word ≠ other) (dark : isLetter c = false)
    (next : ∀ d, rest.head? = some d → isLetter d = false) : ¬ other ++ [c] <+: word ++ rest := by
  rintro ⟨more, same⟩
  have stops : ∀ chars : List Char, (∀ d, chars.head? = some d → isLetter d = false) →
      chars.takeWhile isLetter = [] := by
    intro chars dark
    cases chars with
    | nil => rfl
    | cons d chars => rw [List.takeWhile_cons, dark d rfl]; rfl
  have taken : ∀ word : List Char, IsWord word → ∀ chars : List Char,
      (∀ d, chars.head? = some d → isLetter d = false) →
      (word ++ chars).takeWhile isLetter = word := by
    intro word isWord chars dark
    rw [List.takeWhile_append_of_pos isWord.letters, stops chars dark, List.append_nil]
  have left := taken other isOther (c :: more) (fun d head => Option.some.inj head ▸ dark)
  rw [List.append_assoc] at same
  rw [show c :: more = [c] ++ more from rfl, same, taken word isWord rest next] at left
  exact differs left

/-- **The beginning of a tag.**  The word behind it is known only to differ from the one that is
part of a longer token. -/
theorem Reads.lessThan {state : StateId} (outside : state ≠ 0)
    (known : (row state).lexicon ∈ lessThanLexicons) {blank word rest : List Char}
    (skips : blank ≠ [] → (lexiconOf (row state).lexicon).skipsBlanks = true)
    (space : ∀ b ∈ blank, b ∈ spaces) (line : '\n' ∉ blank) (isWord : IsWord word)
    (noTemplate : word ≠ templateWord) (next : ∀ d, rest.head? = some d → isLetter d = false)
    (allPlain : Plain (blank ++ '<' :: (word ++ rest))) :
    Reads state (blank ++ ['<']) 96 (word ++ rest) := by
  obtain ⟨other, letterT⟩ := lessThanLexicons_read _ known
  cases word with
  | nil => exact absurd rfl isWord.nonempty
  | cons c word =>
    have letter := isWord.letters c List.mem_cons_self
    by_cases isT : c = 't'
    · subst isT
      rcases letterT with whole | leads
      · refine .fixed outside (by decide) whole (by decide) (by decide) skips space line ?_ allPlain
        rintro _ ⟨⟩
        decide
      · refine .shorter outside (by decide) other leads (by decide) (by decide) skips space line ?_
          allPlain
        intro begins
        exact not_prefix_of_ne isWord (show IsWord templateWord from ⟨by decide, by decide⟩)
          noTemplate (show isLetter '>' = false by decide) next (List.cons_prefix_cons.mpr ⟨rfl, begins⟩)
    · refine .fixed outside (by decide) other (by decide) (by decide) skips space line ?_ allPlain
      rintro _ ⟨⟩
      exact inRanges_lettersButT letter isT

/-- The symbol of the text of an element. -/
def elementText : Symbol := 49

/-- A run of letters is text there, by evaluation. -/
theorem elementText_reads :
    (lexiconOf 16).readsClass letters letters [('<', '<')] elementText = true := by
  decide +kernel

/-- **A word between tags** is read as text.  No blanks come before it, as they would be part of the
text. -/
theorem Reads.betweenTags {state : StateId} (outside : state ≠ 0)
    (known : (row state).lexicon = 16) {word rest : List Char} (isWord : IsWord word)
    (next : Lexicon.Follows rest [('<', '<')]) (allPlain : Plain (word ++ rest)) :
    Reads state ([] ++ word) elementText rest := by
  cases word with
  | nil => exact absurd rfl isWord.nonempty
  | cons c word =>
    have letter := isWord.letters c List.mem_cons_self
    refine .of_munches outside (by decide) (by decide) allPlain
      (dark_of_letter letter).1 (dark_of_letter letter).2 elementText (fun cursor text => ?_)
      (fun start text => if_neg (by decide))
    rw [known]
    exact Lexicon.munches_class elementText_reads (fun differs => absurd rfl differs) (by decide)
      (inRanges_letters letter)
      (fun d mem => inRanges_letters (isWord.letters d (List.mem_cons_of_mem _ mem))) next text

end Parse

end JsxDetect
