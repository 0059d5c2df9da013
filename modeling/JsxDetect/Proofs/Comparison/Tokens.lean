import JsxDetect.Proofs.Comparison.Region
import JsxDetect.Proofs.Parse.LineBreaks

/-!
# The tokens of a chain

At each station a version reads one of the tokens of its site, and comes to the station that
`Station.after` tells.  In a state behind a type the lexicon may not know the next token; then it is
read in the error state, and the version stops before it.

## Main Results

* `Chain.lookahead_eq`: the next token of a version at a station

## Design Notes

**Three steps for a token.**  The `..._read` theorems evaluate lexicons on finitely many beginnings.
The `clear_of_...` theorems say that the first character of a token begins no comment and carries on
a statement, so that no semicolon is left out before it.  The `next_...` theorems put both together
for one kind of station, and `Station.next` is the case distinction over stations.

**Why the error state occurs.**  Behind a type the lexicon does not know some of the operators and
numerals.  The parser then reads the token with the lexicon of its error state, which is not yet an
error: the version is stopped only when the token turns out to be of no use to it.  `Next` does not
tell these cases apart, as both give the same token.
-/

namespace JsxDetect.Comparison

open Automaton Grammar Parse Token SyntaxTree

/-! ### The lexicons of the states -/

/-- How the tokens of a head are read: by which lexicons, and whether a semicolon may be left out
before them. -/
def lexed (site : Site) (state : StateId) : Bool :=
  let lexicon := (row state).lexicon
  let expected := (row state).expected
  state != 0 && match site with
  | .begin | .named | .ended => lexicon == 1 && expected == 2
  | .equals => lexicon == 1 && expected == 5
  | .before _ => [1, 3, 8, 12].contains lexicon &&
      (expected == 2 || breakStates.contains state && breakSets.contains expected)
  | .behind none => [1, 6, 11, 12].contains lexicon && (2 :: breakSets).contains expected
  | .behind (some _) => (if state ∈ wholeStates then [6, 12] else [1, 11]).contains lexicon &&
      (2 :: breakSets).contains expected
  | .within _ => [1, 8, 12].contains lexicon && (2 :: breakSets).contains expected

/-- All heads are read as `lexed` says, by evaluation. -/
theorem heads_lexed : ∀ site ∈ Site.all, ∀ state ∈ site.heads, lexed site state = true := by
  decide

/-- The blanks of a chain. -/
def blankRanges : List (Char × Char) := [(' ', ' '), ('\x09', '\n')]

/-- What may follow an operand. -/
def operandEnders : List (Char × Char) := (';', ';') :: blankRanges

/-- What follows the first character of an operator. -/
def firstEnders (o : Operator) : List (Char × Char) :=
  if o.long then (o.text.tail.take 1).map fun c => (c, c) else blankRanges

/-- The operators are read as a whole where one may stand, and by their first or second character
elsewhere, by evaluation.  The remainder sign is the one that some of the lexicons do not know. -/
theorem operators_read : ∀ o ∈ Operator.all,
    (∀ number ∈ [6, 12], (lexiconOf number).readsFixed o.text o.symbol blankRanges = true) ∧
    (∀ number ∈ [1, 11], (lexiconOf number).readsFixed (o.text.take 1) o.first (firstEnders o) = true ∨
      o = .remainder) ∧
    (∀ number ∈ [1, 8, 12], o.begun ≠ [] →
      (lexiconOf number).readsFixed o.text.tail o.second blankRanges = true) := by
  decide

theorem remainder_read : (∀ number ∈ [1, 11], (lexiconOf number).readsNothing [('%', '%')] = true) ∧
    (lexiconOf (row 0).lexicon).readsFixed ['%'] 94 blankRanges = true := by
  decide

theorem semicolon_read : ∀ number ∈ [1, 6, 11, 12],
    (lexiconOf number).readsFixed [';'] 26 [] = true := by
  decide

theorem names_read : ∀ number ∈ [1, 3, 8, 12],
    (lexiconOf number).readsClass letters letters operandEnders Symbol.identifier = true := by
  decide

/-- Lexicons that read a numeral, with or without more than its one digit `0`. -/
theorem numerals_read : (∀ number ∈ [0, 1, 3, 8],
    (lexiconOf number).readsClass [('1', '9')] [('0', '9')] operandEnders 119 = true ∧
      (lexiconOf number).readsFixed ['0'] 119 operandEnders = true) ∧
    (lexiconOf 12).readsNothing [('0', '9')] = true ∧ (row 0).lexicon = 0 := by
  decide

/-! ### Characters -/

theorem inRanges_blank {b : Char} (space : b ∈ spaces) : CharSet.inRanges b blankRanges = true :=
  List.all_eq_true.mp (show spaces.all (CharSet.inRanges · blankRanges) = true by decide) b space

theorem Gap.head (gap : Gap) (rest : List Char) : ∃ b ∈ spaces, (gap.chars ++ rest).head? = some b := by
  obtain ⟨chars, nonempty, blank⟩ := gap
  cases chars with
  | nil => exact absurd rfl nonempty
  | cons b chars => exact ⟨b, blank b List.mem_cons_self, rfl⟩

theorem Gap.follows (gap : Gap) (rest : List Char) :
    Lexicon.Follows (gap.chars ++ rest) blankRanges := by
  obtain ⟨b, space, head⟩ := gap.head rest
  intro d first
  rw [head] at first
  rw [← Option.some.inj first]
  exact inRanges_blank space

theorem follows_textOf (steps : List Step) : Lexicon.Follows (textOf steps) operandEnders := by
  cases steps with
  | nil =>
    rintro _ ⟨⟩
    decide
  | cons s steps => exact (s.before.follows _).mono fun _ mem => List.mem_cons_of_mem _ mem

theorem clear_of_letter {d : Char} (letter : isLetter d = true) (more : List Char) : Clear d more := by
  have known := forall_letter
    (p := fun d => Token.isSpace d = false ∧ d.toNat < 0x80 ∧ d ≠ '<' ∧ d ≠ '-') (by decide) letter
  exact ⟨known.1, known.2.1, fun same => absurd same known.2.2.1, fun same => absurd same known.2.2.2⟩

/-- A digit begins no comment. -/
theorem clear_of_digit {d : Char} (digit : isDigit d = true) (more : List Char) : Clear d more := by
  rw [isDigit, Bool.and_eq_true, decide_eq_true_eq, decide_eq_true_eq] at digit
  have low : '0'.toNat = 48 := rfl
  have high : '9'.toNat = 57 := rfl
  have dark : Token.isSpace d = false := by
    have tab : '\x09'.toNat = 9 := rfl
    have feed : '\x0d'.toNat = 13 := rfl
    have blank : ' '.toNat = 32 := rfl
    have noBlank : d ≠ ' ' := by
      rintro rfl
      omega
    rw [Token.isSpace, beq_false_of_ne noBlank, Bool.false_or, Bool.and_eq_false_iff,
      decide_eq_false_iff_not, decide_eq_false_iff_not]
    omega
  refine ⟨dark, by omega, ?_, ?_⟩
  · rintro rfl
    exact absurd digit (by decide)
  · rintro rfl
    exact absurd digit (by decide)

/-- A sign of an operator, with the rest of the operator or a blank behind it. -/
theorem clear_of_sign {d e : Char} {more : List Char}
    (sign : d ∈ ['<', '>', '=', '!', '&', '|', '+', '-', '*', '%']) (head : more.head? = some e)
    (mild : e ∈ ['=', '&', '|'] ++ spaces) (equals : d = '!' → e = '=') :
    Clear d more ∧ CarriesOn d more ∧ d ≠ '/' ∧ d ≠ '\x7d' := by
  have fixed : ∀ d ∈ ['<', '>', '=', '!', '&', '|', '+', '-', '*', '%'],
      Token.isSpace d = false ∧ d.toNat < 0x80 ∧ d ≠ '/' ∧ d ≠ '\x7d' ∧
        (continuesStatement d = true ∨ (d = '+' ∨ d = '-') ∨ d = '!') := by decide
  have others : ∀ e ∈ ['=', '&', '|'] ++ spaces, e ≠ '!' ∧ e ≠ '-' ∧ e ≠ '+' := by decide
  obtain ⟨dark, narrow, slash, brace, continues⟩ := fixed d sign
  obtain ⟨noMark, noMinus, noPlus⟩ := others e mild
  refine ⟨⟨dark, narrow, fun _ same => ?_, fun _ same => ?_⟩, ?_, slash, brace⟩
  · rw [head] at same
    exact noMark (Option.some.inj same)
  · rw [head] at same
    exact noMinus (Option.some.inj same)
  · rcases continues with here | either | isMark
    · exact .inl here
    · refine .inr (.inl ⟨either, fun same => ?_⟩)
      rw [head] at same
      rcases either with rfl | rfl
      · exact noPlus (Option.some.inj same)
      · exact noMinus (Option.some.inj same)
    · exact .inr (.inr ⟨isMark, by rw [head, equals isMark]⟩)

/-- The `=` of the declaration. -/
theorem equals_clear (rest : List Char) : Clear '=' (' ' :: rest) ∧ CarriesOn '=' (' ' :: rest) ∧
    '=' ≠ '/' ∧ '=' ≠ '\x7d' :=
  clear_of_sign (by decide) rfl (by decide) (by decide)

/-- The first character of an operator begins no comment and carries on the statement, since no
operator of a chain is doubled in the way that an increment is. -/
theorem Operator.clear (o : Operator) (gap : Gap) (rest : List Char) : ∃ d others,
    o.text = d :: others ∧ Clear d (others ++ (gap.chars ++ rest)) ∧
      CarriesOn d (others ++ (gap.chars ++ rest)) ∧ d ≠ '/' ∧ d ≠ '\x7d' := by
  obtain ⟨b, space, head⟩ := gap.head rest
  have blank : b ∈ ['=', '&', '|'] ++ spaces := List.mem_append_right _ space
  cases o
  case less | greater | meet | join | plus | minus | times | remainder =>
    exact ⟨_, _, rfl, clear_of_sign (by decide) head blank
      fun same => absurd same (by decide)⟩
  all_goals exact ⟨_, _, rfl, clear_of_sign (e := _) (by decide) rfl (by decide) (by decide)⟩

/-- The second character of a longer operator. -/
theorem Operator.clear_tail {o : Operator} (begun : o.begun ≠ []) (gap : Gap) (rest : List Char) :
    ∃ d, o.text.tail = [d] ∧ Clear d (gap.chars ++ rest) ∧ CarriesOn d (gap.chars ++ rest) ∧
      d ≠ '/' ∧ d ≠ '\x7d' := by
  obtain ⟨b, space, head⟩ := gap.head rest
  have blank : b ∈ ['=', '&', '|'] ++ spaces := List.mem_append_right _ space
  cases o <;> first
    | exact ⟨_, rfl, clear_of_sign (by decide) head blank
      fun same => absurd same (by decide)⟩
    | exact absurd rfl begun

/-! ### Tokens -/

section

variable {state : StateId} {cursor : Cursor} {blank rest : List Char} (outside : state ≠ 0)
  (noContext : contextual state false true cursor = none) (space : ∀ b ∈ blank, b ∈ spaces)

include outside noContext space

/-- A fixed text is taken, with the blanks before it, if the lexicon reads it before what follows.
-/
theorem takes_fixed {chars : List Char} {symbol : Symbol} {enders : List (Char × Char)}
    (loose : (row state).lexicon ∈ looseLexicons)
    (reads : (lexiconOf (row state).lexicon).readsFixed chars symbol enders = true)
    (next : Lexicon.Follows rest enders) (noName : symbol ≠ Symbol.identifier)
    (text : cursor.rest = blank ++ (chars ++ rest)) : Takes state cursor symbol (blank ++ chars) rest :=
  .of_munches outside noContext
    (Lexicon.munches_fixed reads (fun _ => looseLexicons_skip _ loose) space next text)
    fun _ _ => if_neg noName

/-- A name is taken, or a keyword that the state can use. -/
theorem takes_name {word : List Char} (known : (row state).lexicon ∈ [1, 3, 8, 12])
    (isWord : IsWord word) (next : Lexicon.Follows rest operandEnders)
    (text : cursor.rest = blank ++ (word ++ rest)) :
    Takes state cursor (wordSymbol state word) (blank ++ word) rest := by
  obtain ⟨nonempty, isLetters⟩ := isWord
  cases word with
  | nil => exact absurd rfl nonempty
  | cons c word =>
    have loose : ∀ number ∈ [1, 3, 8, 12], number ∈ looseLexicons := by decide
    exact .of_munches outside noContext (Lexicon.munches_class (names_read _ known)
      (fun _ => looseLexicons_skip _ (loose _ known)) space
      (inRanges_letters (isLetters c List.mem_cons_self))
      (fun d mem => inRanges_letters (isLetters d (List.mem_cons_of_mem _ mem))) next text)
      fun start text => (if_pos rfl).trans (nameSymbol_eq isLetters text)

/-- A numeral, which some states read only in the error state. -/
theorem takes_numeral {digits : List Char} (known : (row state).lexicon ∈ [1, 3, 8, 12])
    (isNumeral : IsNumeral digits) (next : Lexicon.Follows rest operandEnders)
    (text : cursor.rest = blank ++ (digits ++ rest)) :
    Takes state cursor 119 (blank ++ digits) rest := by
  obtain ⟨numerals, silent, errorLexicon⟩ := numerals_read
  obtain ⟨nonempty, all, noZero⟩ := isNumeral
  have digit : ∀ d ∈ digits, CharSet.inRanges d [('0', '9')] = true := by
    intro d mem
    have isDigit := all d mem
    rw [Token.isDigit, Bool.and_eq_true, decide_eq_true_eq, decide_eq_true_eq] at isDigit
    exact Lexicon.inRanges_of_mem List.mem_cons_self isDigit.1 isDigit.2
  have munches : ∀ number ∈ [0, 1, 3, 8], (lexiconOf number).Munches cursor 119 blank digits rest := by
    intro number mem
    have loose : ∀ number ∈ [0, 1, 3, 8], number ∈ looseLexicons := by decide
    have skips := fun (_ : blank ≠ []) => looseLexicons_skip _ (loose _ mem)
    obtain ⟨one, zero⟩ := numerals number mem
    by_cases isZero : digits = ['0']
    · subst isZero
      exact Lexicon.munches_fixed zero skips space next text
    · cases digits with
      | nil => exact absurd rfl nonempty
      | cons d digits =>
        have first : CharSet.inRanges d [('1', '9')] = true := by
          have other : d ≠ '0' := fun same => isZero (noZero (congrArg some same))
          have isDigit := all d List.mem_cons_self
          rw [Token.isDigit, Bool.and_eq_true, decide_eq_true_eq, decide_eq_true_eq] at isDigit
          have differs : d.toNat ≠ '0'.toNat := fun same => other (Char.toNat_inj.mp same)
          have low : '0'.toNat = 48 := rfl
          have one : '1'.toNat = 49 := rfl
          exact Lexicon.inRanges_of_mem List.mem_cons_self (show '1'.toNat ≤ d.toNat by omega) isDigit.2
        exact Lexicon.munches_class one skips space first
          (fun e mem => digit e (List.mem_cons_of_mem _ mem)) next text
  rcases List.mem_append.mp (show (row state).lexicon ∈ [1, 3, 8] ++ [12] from known) with reads | isTwelve
  · exact .of_munches outside noContext (munches _ (List.mem_cons_of_mem _ reads)) fun _ _ => rfl
  · have twelve := List.mem_singleton.mp isTwelve
    cases digits with
    | nil => exact absurd rfl nonempty
    | cons d digits =>
      refine .of_error outside noContext ?_ (errorLexicon ▸ munches 0 (by decide)) (by decide)
      rw [twelve]
      exact Lexicon.read_nothing silent (fun _ => looseLexicons_skip _ (by decide)) space
        (digit d List.mem_cons_self) text

end

/-! ### Stations -/

/-- The `=` is read in front of a blank, and the lexicon of these states accepts the end of the
text. -/
theorem equals_read : (lexiconOf 1).readsFixed ['='] 8 blankRanges = true ∧
    (lexiconOf 1).acceptsEnd = true := by
  decide

/-- The word that begins the declaration. -/
def constWord : List Char := ['c', 'o', 'n', 's', 't']

/-- The first word of the declaration is a keyword in the first state, and the second one is none
anywhere. -/
theorem const_read : wordSymbol 1 constWord = 19 ∧ keyword? ['o', 'k'] = none := by
  decide

theorem follows_space (rest : List Char) : Lexicon.Follows (' ' :: rest) operandEnders := by
  rintro _ ⟨⟩
  decide

theorem Operator.take_of_short {o : Operator} (short : o.long = false) : o.text.take 1 = o.text := by
  cases o <;> first | rfl | exact absurd short (by decide)

theorem Operator.follows_first {o : Operator} (long : o.long = true) (rest : List Char) :
    Lexicon.Follows (o.text.tail ++ rest) (firstEnders o) := by
  cases o <;> first
    | exact absurd long (by decide)
    | (rintro _ ⟨⟩; decide)

/-- An operand begins with a character that carries no context. -/
theorem Operand.clear (x : Operand) (rest : List Char) :
    ∃ d more, x.chars ++ rest = d :: more ∧ Clear d more := by
  cases x with
  | name word isWord free =>
    cases word with
    | nil => exact absurd rfl isWord.nonempty
    | cons d word => exact ⟨d, _, rfl, clear_of_letter (isWord.letters d List.mem_cons_self) _⟩
  | numeral digits isNumeral =>
    cases digits with
    | nil => exact absurd rfl isNumeral.nonempty
    | cons d digits => exact ⟨d, _, rfl, clear_of_digit (isNumeral.all d List.mem_cons_self) _⟩

namespace Station

/-- From a place on a version at a station reads a token, and what is left is the text of the
station where this ends. -/
structure Next (σ : Station) (state : StateId) (cursor : Cursor) (token : Symbol) : Prop where
  reads : σ.reads state token
  takes : ∃ taken, σ.rest = taken ++ (σ.after token).rest ∧
    Takes state cursor token taken (σ.after token).rest

variable {state : StateId} {cursor : Cursor}

/-- In front of an operand the token is the operand, or a semicolon that was left out where a line
has ended behind a `>`. -/
theorem next_before {prev : Option Operator} {gap : Gap} {x : Operand} {steps : List Step}
    (head : state ∈ (Site.before prev).heads) (text : cursor.rest = (before prev gap x steps).rest)
    (noMark : '?' ∉ cursor.rest) : ∃ token, (before prev gap x steps).Next state cursor token := by
  have lexed := heads_lexed _ (Site.mem_all (.before prev)) state head
  rw [Comparison.lexed, Bool.and_eq_true, bne_iff_ne, Bool.and_eq_true, List.contains_iff_mem,
    Bool.or_eq_true, beq_iff_eq, Bool.and_eq_true, List.contains_iff_mem, List.contains_iff_mem] at lexed
  obtain ⟨outside, known, breaks⟩ := lexed
  have tokens : ∀ token ∈ [1, 119], token ∈ (Site.before prev).tokens state := by
    intro token mem
    change token ∈ if state ∈ breakStates then [1, 119, 168] else [1, 119]
    split
    · exact List.mem_append_left [168] mem
    · exact mem
  have follows := follows_textOf steps
  -- the operand, if no semicolon was left out
  have operand (noContext : contextual state false true cursor = none) :
      (before prev gap x steps).Next state cursor x.symbol := by
    have after : (before prev gap x steps).after x.symbol = behind prev x steps := by
      cases x <;> rfl
    refine ⟨⟨?_, .inr rfl⟩, gap.chars ++ x.chars, ?_, ?_⟩
    · cases x with
      | name => exact tokens _ List.mem_cons_self
      | numeral => exact tokens _ (List.mem_cons_of_mem _ List.mem_cons_self)
    · rw [after]
      exact (List.append_assoc ..).symm
    · rw [after]
      cases x with
      | name word isWord free =>
        have takes := takes_name outside noContext gap.blank known isWord follows text
        rwa [wordSymbol_of_none state free] at takes
      | numeral digits isNumeral =>
        exact takes_numeral outside noContext gap.blank known isNumeral follows text
  obtain ⟨d, more, begins, clear⟩ := x.clear (textOf steps)
  have whole : cursor.rest = gap.chars ++ d :: more := text.trans (congrArg (gap.chars ++ ·) begins)
  have sets : (row state).expected ∈ 2 :: breakSets :=
    breaks.elim (fun markup => markup ▸ List.mem_cons_self) fun both => List.mem_cons_of_mem _ both.2
  rcases contextual_cases clear gap.blank whole sets noMark with noContext | ⟨isBreak, omitted⟩
  · exact ⟨_, operand noContext⟩
  · refine ⟨168, ⟨?_, .inl rfl⟩, [], rfl, .omitted outside omitted text⟩
    have mayBreak : state ∈ breakStates := by
      rcases breaks with markup | both
      · rw [markup] at isBreak
        exact absurd isBreak (by decide)
      · exact both.1
    change 168 ∈ if state ∈ breakStates then [1, 119, 168] else [1, 119]
    rw [if_pos mayBreak]
    decide

/-- What is left behind the first character of an operator. -/
theorem after_begun (prev : Option Operator) (x : Operand) (s : Step) (steps : List Step) : ∃ left,
    s.operator.text ++ (s.behind.chars ++ (s.operand.chars ++ textOf steps)) =
      s.operator.text.take 1 ++ left ∧
    ((behind prev x (s :: steps)).after s.operator.first).rest = left ∧
    Lexicon.Follows left (firstEnders s.operator) := by
  cases long : s.operator.long with
  | false =>
    refine ⟨s.behind.chars ++ (s.operand.chars ++ textOf steps), ?_, ?_, ?_⟩
    · rw [s.operator.take_of_short long]
    · rw [← Operator.symbol_of_short long, (after_whole prev x s steps).1]
      rfl
    · rw [firstEnders, if_neg (by rw [long]; exact Bool.false_ne_true)]
      exact s.behind.follows _
  | true =>
    refine ⟨s.operator.text.tail ++ (s.behind.chars ++ (s.operand.chars ++ textOf steps)), ?_, ?_,
      s.operator.follows_first long _⟩
    · rw [← List.append_assoc (s.operator.text.take 1), ← List.drop_one, List.take_append_drop]
    · rw [(after_first long prev x steps).1]
      rfl

/-- Behind an operand the token is the operator or its first character, as the state reads it. -/
theorem next_behind {prev : Option Operator} {x : Operand} {s : Step} {steps : List Step}
    (head : state ∈ (Site.behind (some s.operator)).heads)
    (text : cursor.rest = (behind prev x (s :: steps)).rest) (noMark : '?' ∉ cursor.rest) :
    ∃ token, (behind prev x (s :: steps)).Next state cursor token := by
  have lexed := heads_lexed _ (Site.mem_all (.behind (some s.operator))) state head
  rw [Comparison.lexed, Bool.and_eq_true, bne_iff_ne, Bool.and_eq_true, List.contains_iff_mem,
    List.contains_iff_mem] at lexed
  obtain ⟨outside, known, sets⟩ := lexed
  obtain ⟨whole, first, -⟩ := operators_read _ (Operator.mem_all s.operator)
  obtain ⟨d, others, begins, clear, carriesOn, slash, brace⟩ :=
    s.operator.clear s.behind (s.operand.chars ++ textOf steps)
  have begun : cursor.rest = s.before.chars ++
      d :: (others ++ (s.behind.chars ++ (s.operand.chars ++ textOf steps))) := by
    rw [text]
    change s.before.chars ++ (s.operator.text ++ _) = _
    rw [begins]
    rfl
  have noContext := contextual_none clear s.before.blank begun sets noMark carriesOn slash brace
  have names : ∀ o : Operator, o.symbol ≠ Symbol.identifier ∧ o.first ≠ Symbol.identifier := by
    intro o
    cases o <;> decide
  have tokens : ∀ token, (token ∈ if state ∈ wholeStates then [s.operator.symbol] else [s.operator.first]) →
      (behind prev x (s :: steps)).reads state token := fun token mem => ⟨mem, trivial⟩
  by_cases inside : state ∈ wholeStates
  · rw [if_pos inside] at known
    refine ⟨s.operator.symbol, tokens _ (by rw [if_pos inside]; exact List.mem_singleton.mpr rfl),
      s.before.chars ++ s.operator.text, ?_, ?_⟩
    · rw [(after_whole prev x s steps).1]
      exact (List.append_assoc ..).symm
    · rw [(after_whole prev x s steps).1]
      have loose : ∀ number ∈ [6, 12], number ∈ looseLexicons := by decide
      exact takes_fixed outside noContext s.before.blank (loose _ known) (whole _ known)
        (s.behind.follows _) (names _).1 text
  · rw [if_neg inside] at known
    have loose : ∀ number ∈ [1, 11], number ∈ looseLexicons := by decide
    have reads := tokens s.operator.first (by rw [if_neg inside]; exact List.mem_singleton.mpr rfl)
    obtain ⟨left, parts, isLeft, follows⟩ := after_begun prev x s steps
    have text : cursor.rest = s.before.chars ++ (s.operator.text.take 1 ++ left) := by
      rw [text, ← parts]
      rfl
    have rest : (behind prev x (s :: steps)).rest = s.before.chars ++ s.operator.text.take 1 ++ left := by
      rw [List.append_assoc, ← parts]
      rfl
    refine ⟨s.operator.first, reads, s.before.chars ++ s.operator.text.take 1, by rw [isLeft]; exact rest, ?_⟩
    rw [isLeft]
    rcases first _ known with isRead | isRemainder
    · exact takes_fixed outside noContext s.before.blank (loose _ known) isRead follows (names _).2 text
    · rw [isRemainder] at text follows ⊢
      refine .of_error outside noContext ?_ ?_ (by decide)
      · exact Lexicon.read_nothing (remainder_read.1 _ known) (fun _ => looseLexicons_skip _ (loose _ known))
          s.before.blank (by decide) text
      · have errorLoose : (row 0).lexicon ∈ looseLexicons := by decide
        exact Lexicon.munches_fixed remainder_read.2 (fun _ => looseLexicons_skip _ errorLoose)
          s.before.blank follows text

/-- At the stations of the beginning there is one lexicon, and no semicolon may be left out. -/
theorem lexed_plain {site : Site} (isPlain : site ∈ [.begin, .named, .ended])
    (head : state ∈ site.heads) :
    state ≠ 0 ∧ (row state).lexicon = 1 ∧ (row state).expected = 2 := by
  have lexed := heads_lexed _ site.mem_all state head
  rcases List.mem_cons.mp isPlain with rfl | isPlain
  · simpa [Comparison.lexed] using lexed
  · rcases List.mem_cons.mp isPlain with rfl | isPlain
    · simpa [Comparison.lexed] using lexed
    · obtain rfl := List.mem_singleton.mp isPlain
      simpa [Comparison.lexed] using lexed

/-- There a word is read by its rule. -/
theorem next_word {σ : Station} (isPlain : σ.site ∈ [Site.begin, .named, .ended])
    (head : state ∈ σ.site.heads) (text : cursor.rest = σ.rest) {blank word rest : List Char}
    (space : ∀ b ∈ blank, b ∈ spaces) (isWord : IsWord word) (parts : σ.rest = blank ++ (word ++ rest))
    (follows : Lexicon.Follows rest operandEnders) :
    Takes state cursor (wordSymbol state word) (blank ++ word) rest := by
  obtain ⟨outside, one, markup⟩ := lexed_plain isPlain head
  cases word with
  | nil => exact absurd rfl isWord.nonempty
  | cons d word =>
    have clear := clear_of_letter (isWord.letters d List.mem_cons_self) (word ++ rest)
    exact takes_name outside (contextual_markup clear space (text.trans parts) markup) space
      (by rw [one]; decide) isWord follows (text.trans parts)

/-- The `=` of the declaration. -/
theorem next_equals {c : Chain} (head : state ∈ Site.equals.heads)
    (text : cursor.rest = (equals c).rest) (noMark : '?' ∉ cursor.rest) :
    ∃ token, (equals c).Next state cursor token := by
  have space : ∀ b ∈ [' '], b ∈ spaces := by decide
  obtain ⟨sign, -⟩ := equals_read
  obtain rfl := List.mem_singleton.mp head
  have lexed := heads_lexed _ Site.equals.mem_all _ head
  rw [Comparison.lexed, Bool.and_eq_true, bne_iff_ne, Bool.and_eq_true, beq_iff_eq, beq_iff_eq] at lexed
  obtain ⟨outside, one, five⟩ := lexed
  obtain ⟨clear, carriesOn, slash, brace⟩ := equals_clear (c.operand.chars ++ textOf c.steps)
  have noContext := contextual_none clear space text (by rw [five]; decide) noMark carriesOn slash
    brace
  refine ⟨8, ⟨List.mem_singleton.mpr rfl, trivial⟩, [' '] ++ ['='], rfl, ?_⟩
  exact takes_fixed outside noContext space (by rw [one]; decide) (by rw [one]; exact sign)
    (by rintro _ ⟨⟩; decide) (by decide) text

/-- The semicolon at the end of the chain.  Where a semicolon could have been left out, none has
been, as no line has ended before it. -/
theorem next_last {prev : Option Operator} {x : Operand} (head : state ∈ (Site.behind none).heads)
    (text : cursor.rest = (behind prev x []).rest) (noMark : '?' ∉ cursor.rest) :
    ∃ token, (behind prev x []).Next state cursor token := by
  have noBlank : ∀ b ∈ ([] : List Char), b ∈ spaces := List.forall_mem_nil _
  have lexed := heads_lexed _ (Site.mem_all (.behind none)) state head
  rw [Comparison.lexed, Bool.and_eq_true, bne_iff_ne, Bool.and_eq_true, List.contains_iff_mem,
    List.contains_iff_mem] at lexed
  obtain ⟨outside, known, sets⟩ := lexed
  have clear : Clear ';' [] := ⟨by decide, by decide, nofun, nofun⟩
  have noContext := contextual_none clear noBlank text sets noMark (.inl (by decide)) (by decide)
    (by decide)
  have loose : ∀ number ∈ [1, 6, 11, 12], number ∈ looseLexicons := by decide
  exact ⟨26, ⟨List.mem_singleton.mpr rfl, trivial⟩, [';'], rfl, takes_fixed outside noContext noBlank
    (loose _ known) (semicolon_read _ known) nofun (by decide) text⟩

/-- The second character of an operator whose first one was read alone. -/
theorem next_within {o : Operator} (long : o.long = true) {gap : Gap} {x : Operand}
    {steps : List Step} (head : state ∈ (Site.within o).heads)
    (text : cursor.rest = (within o long gap x steps).rest) (noMark : '?' ∉ cursor.rest) :
    ∃ token, (within o long gap x steps).Next state cursor token := by
  have noBlank : ∀ b ∈ ([] : List Char), b ∈ spaces := List.forall_mem_nil _
  have begun : o.begun ≠ [] := by
    intro none
    cases o <;> first
      | exact absurd none (List.cons_ne_nil _ _)
      | exact absurd head List.not_mem_nil
  have lexed := heads_lexed _ (Site.mem_all (.within o)) state head
  rw [Comparison.lexed, Bool.and_eq_true, bne_iff_ne, Bool.and_eq_true, List.contains_iff_mem,
    List.contains_iff_mem] at lexed
  obtain ⟨outside, known, sets⟩ := lexed
  obtain ⟨-, -, reads⟩ := operators_read _ (Operator.mem_all o)
  obtain ⟨d, one, clear, carriesOn, slash, brace⟩ :=
    Operator.clear_tail begun gap (x.chars ++ textOf steps)
  have parts : cursor.rest = [] ++ d :: (gap.chars ++ (x.chars ++ textOf steps)) := by
    rw [text, rest, one]
    rfl
  have noContext := contextual_none clear noBlank parts sets noMark carriesOn slash brace
  have loose : ∀ number ∈ [1, 8, 12], number ∈ looseLexicons := by decide
  have after : (within o long gap x steps).after o.second = before (some o) gap x steps := by
    rw [Station.after, show (within o long gap x steps).steps o.second = 1 from
      if_neg o.symbols_ne.2.2]
    rfl
  have noName : o.second ≠ Symbol.identifier := by
    cases o <;> decide
  refine ⟨o.second, ⟨List.mem_singleton.mpr rfl, trivial⟩, o.text.tail, by rw [after]; rfl, ?_⟩
  rw [after]
  exact takes_fixed outside noContext noBlank (loose _ known) (reads _ known begun)
    (gap.follows _) noName text

/-- Behind the chain the end of the text is read. -/
theorem next_ended (head : state ∈ Site.ended.heads) (text : cursor.rest = []) :
    ∃ token, Station.ended.Next state cursor token := by
  obtain ⟨-, ends⟩ := equals_read
  obtain ⟨outside, one, markup⟩ := lexed_plain (by decide) head
  refine ⟨0, ⟨List.mem_singleton.mpr rfl, trivial⟩, [], rfl, cursor, fun fuel => ?_⟩
  rw [(ReadsEnd.end outside markup (by rw [one]; exact ends) true).reads cursor text fuel]
  obtain ⟨chars, offset, row⟩ := cursor
  obtain rfl : chars = [] := text
  rfl

/-- **The next token** at a station, in each of its heads.  There is no station at which a head
could not read anything. -/
theorem next {σ : Station} (head : state ∈ σ.site.heads) (text : cursor.rest = σ.rest)
    (noMark : '?' ∉ cursor.rest) : ∃ token, σ.Next state cursor token := by
  match σ with
  | begin c =>
    obtain ⟨const, -⟩ := const_read
    obtain rfl := List.mem_singleton.mp head
    have takes := next_word List.mem_cons_self head text (List.forall_mem_nil _)
      (show IsWord constWord from ⟨by decide, by decide⟩)
      (show _ = [] ++ (constWord ++ (named c).rest) from rfl) (follows_space _)
    rw [const] at takes
    exact ⟨19, ⟨List.mem_singleton.mpr rfl, trivial⟩, _, rfl, takes⟩
  | named c =>
    obtain ⟨-, free⟩ := const_read
    obtain rfl := List.mem_singleton.mp head
    have takes := next_word (List.mem_cons_of_mem _ List.mem_cons_self) head text
      (show ∀ b ∈ [' '], b ∈ spaces by decide)
      (show IsWord ['o', 'k'] from ⟨by decide, by decide⟩)
      (show _ = [' '] ++ (['o', 'k'] ++ (equals c).rest) from rfl) (follows_space _)
    rw [wordSymbol_of_none _ free] at takes
    exact ⟨1, ⟨List.mem_singleton.mpr rfl, trivial⟩, _, rfl, takes⟩
  | equals c => exact next_equals head text noMark
  | before prev gap x steps => exact next_before head text noMark
  | behind prev x (s :: steps) => exact next_behind head text noMark
  | behind prev x [] => exact next_last head text noMark
  | within o long gap x steps => exact next_within long head text noMark
  | ended => exact next_ended head text

end Station

namespace Chain

variable {c : Chain} {i : Nat} {state : StateId}

/-- **The next token** of a version at a station, as the parser reads it.  Its cursor is that of the
station where it ends, with row and offset. -/
theorem lookahead_eq (fits : c.fits state i) : ∃ token start, (c.station i).reads state token ∧
    ∀ fuel, lookahead (fuel + 2) state true (c.place i) =
      leaf token (c.place i) start (c.place (c.reach i token)) := by
  have noMark : '?' ∉ (c.place i).rest := by
    rw [place_rest]
    intro mem
    have known := c.isOfChain_of_mem _ ((rest_suffix (Nat.zero_le i)).subset mem)
    cases known
  obtain ⟨token, reads, taken, rest, start, looks⟩ := Station.next fits.head place_rest noMark
  refine ⟨token, start, reads, fun fuel => ?_⟩
  rw [looks fuel, ← station_reach, place_behind (by rw [rest, station_reach])]

end Chain

end JsxDetect.Comparison
