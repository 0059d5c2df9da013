import JsxDetect.Proofs.Detection.Answer
import JsxDetect.Proofs.Parse.BrokenEnd

/-!
# Elements that are not all closed

A text that opens elements inside each other, and closes some of them.  The parser comes to its
end with a stack as deep as the nesting; there is JSX on it for each element that was closed.

## Main Definitions

* `nested`: the text
* `OpenElements.opened`: the states below so many open elements

## Main Results

* `OpenElements.BehindTag.tag`, `OpenElements.closed_tag`: one more tag
* `jsx_iff_closed`: there is JSX if a tag is closed

## Design Notes

**Slots.**  A stack is described by its states and whether the tree on each has JSX.  The nesting
depth is a variable: `opened depth` is the part below, which is never looked into, and the checks
evaluate what happens on the few slots above it.  So four finite checks, `atOpenings`, `atContent`,
`atClosings` and `atEnd`, cover all depths, and the inductions are over the lists of tags.

**Two readings at the beginning.**  Behind the first `<` a name may be that of a tag or of a type,
so there are two versions until the word inside stops the second one.  `BehindTag` has this case for
the outermost tag; all other tags have one reading.

**How the text may end.**  With all elements closed the text is a program, and its tree is accepted.
Otherwise its end is an error, inside an element, behind content or behind the closing tag of an
inner element; in each case what is on the stack is kept in the error, and its JSX with it.
-/

namespace JsxDetect

open Token Automaton Grammar Parse SyntaxTree

/-! ### The text -/

/-- A word that may be the name of an element. -/
structure IsTagName (name : List Char) : Prop where
  word : IsWord name
  free : keyword? name = none
  noTemplate : name ≠ templateWord

instance (name : List Char) : Decidable (IsTagName name) :=
  decidable_of_iff
    ((name ≠ [] ∧ ∀ c ∈ name, isLetter c = true) ∧ keyword? name = none ∧ name ≠ templateWord)
    ⟨fun ⟨⟨nonempty, letters⟩, free, noTemplate⟩ => ⟨⟨nonempty, letters⟩, free, noTemplate⟩,
      fun tag => ⟨⟨tag.word.nonempty, tag.word.letters⟩, tag.free, tag.noTemplate⟩⟩

/-- An opening tag. -/
def opening (name : List Char) : List Char := '<' :: (name ++ ['>'])

/-- A closing tag. -/
def closing (name : List Char) : List Char := '<' :: '/' :: (name ++ ['>'])

theorem opening_append (name rest : List Char) :
    opening name ++ rest = '<' :: (name ++ '>' :: rest) := by
  rw [opening, List.cons_append, List.append_assoc]
  rfl

theorem closing_append (name rest : List Char) :
    closing name ++ rest = '<' :: '/' :: (name ++ '>' :: rest) := by
  rw [closing, List.cons_append, List.cons_append, List.append_assoc]
  rfl

/-- The text before the first tag. -/
def beforeTags : List Char := ['c', 'o', 'n', 's', 't', ' ', 'a', ' ', '=', ' ']

/-- Elements inside each other, around a word, some of them closed. -/
def nested (openings : List (List Char)) (word : List Char) (closings : List (List Char)) :
    List Char :=
  beforeTags ++ openings.flatMap opening ++ word ++ closings.flatMap closing

/-- What holds of letters and of the other characters of tags holds of all characters. -/
theorem nested_all {openings closings : List (List Char)} {word : List Char} {p : Char → Bool}
    (ofLetter : ∀ c, isLetter c = true → p c = true)
    (ofOther : ∀ c ∈ ['<', '/', '>', '=', ' '], p c = true)
    (tags : ∀ name ∈ openings ++ closings, IsTagName name) (isWord : IsWord word) :
    ∀ c ∈ nested openings word closings, p c = true := by
  have ofWord : ∀ {word : List Char}, IsWord word → ∀ c ∈ word, p c = true :=
    fun isWord c mem => ofLetter c (isWord.letters c mem)
  have ofBefore : ∀ c ∈ beforeTags, isLetter c = true ∨ c ∈ ['<', '/', '>', '=', ' '] := by decide
  intro c mem
  simp only [nested, opening, closing, List.mem_append, List.mem_flatMap, List.mem_cons,
    List.not_mem_nil, or_false] at mem
  rcases mem with ((before | ⟨name, inside, rfl | named | rfl⟩) | here) |
    ⟨name, inside, rfl | rfl | named | rfl⟩
  · exact (ofBefore c before).elim (ofLetter c) (ofOther c)
  · exact ofOther _ (by decide)
  · exact ofWord (tags name (List.mem_append_left _ inside)).word c named
  · exact ofOther _ (by decide)
  · exact ofWord isWord c here
  · exact ofOther _ (by decide)
  · exact ofOther _ (by decide)
  · exact ofWord (tags name (List.mem_append_right _ inside)).word c named
  · exact ofOther _ (by decide)

/-! ### The states -/

namespace OpenElements

/-- A state without JSX before it. -/
abbrev bare (state : StateId) : Slot := ⟨state, false⟩

/-- The states before the first tag. -/
def floor : List Slot := [bare 426, bare 3340, bare 3338, bare 1]

/-- The states below the content of an element inside so many others. -/
def opened : Nat → List Slot
  | 0 => bare 3023 :: floor
  | depth + 1 => bare 3101 :: opened depth

/-- The state behind content inside so many elements. -/
def contentState : Nat → StateId
  | 0 => 3025
  | _ + 1 => 3102

/-- The states of which one is below the content of an element. -/
def openStates : List StateId := [3023, 3101]

theorem opened_eq (depth : Nat) :
    ∃ state ∈ openStates, ∃ below, opened depth = bare state :: below := by
  cases depth with
  | zero => exact ⟨3023, by decide, floor, rfl⟩
  | succ depth => exact ⟨3101, by decide, opened depth, rfl⟩

/-- The slots behind content, with JSX in it or without. -/
def inside (jsx : Bool) (depth : Nat) : List Slot := ⟨contentState depth, jsx⟩ :: opened depth

/-- The slots before the name in a closing tag. -/
def closingName (jsx : Bool) : Nat → List Slot
  | 0 => bare 3763 :: inside jsx 0
  | depth + 1 => bare 4246 :: inside jsx (depth + 1)

/-- The slots behind a closing tag. -/
def closed (jsx : Bool) : Nat → List Slot
  | 0 => bare 2156 :: bare 4493 :: closingName jsx 0
  | depth + 1 => bare 4196 :: bare 4990 :: closingName jsx (depth + 1)

/-! ### The tokens -/

def equals : FixedToken := ⟨'=', [], 8, [(' ', ' ')], [1]⟩

def tagEnd : FixedToken := ⟨'>', [], 51, ('<', '<') :: letters, [1, 15]⟩

def closingStart : FixedToken := ⟨'<', ['/'], 54, letters, [16]⟩

/-- The tokens are read by the lexicons named, by evaluation. -/
theorem tokens_sound : ∀ t ∈ [equals, tagEnd, closingStart], t.sound = true := by
  decide +kernel

/-! ### What the automaton does -/

/-- The second reading of the first tag, with the name as a type. -/
def strayFirst : List Slot := [bare 3782, bare 4457, bare 3339] ++ floor

/-- Up to the first tag and at opening tags. -/
structure AtOpenings : Prop where
  isConst : keyword? ['c', 'o', 'n', 's', 't'] = some 19
  constActs : acts 1 19 = true
  const : Comes.takes 19 nameLexicons [bare 1] [bare 3338, bare 1] = true
  declared : Comes.takes Symbol.identifier nameLexicons [bare 3338] [bare 3340, bare 3338] = true
  equals : Comes.takes equals.symbol equals.lexicons [bare 3340] [bare 426, bare 3340] = true
  looseName : (row 3340).lexicon ∈ looseLexicons
  first : Comes.takes 96 lessThanLexicons [bare 426] [bare 3339, bare 426] = true
  looseValue : (row 426).lexicon ∈ looseLexicons
  firstName : Comes.takes Symbol.identifier nameLexicons [bare 3339] [bare 2731, bare 3339] = true
  endsTag : (row 2731).lexicon ∈ tagEnd.lexicons
  endsType : (row 4457).lexicon ∈ tagEnd.lexicons
  stray : topSlot (regroup 358 1 [bare 2731, bare 3339]) = 4457
  action : actions 2731 tagEnd.symbol = [.reduce 358 1 0, .shift 3779 false]
  strayTurn : turn [3779] tagEnd.symbol (regroup 358 1 [bare 2731, bare 3339]) =
    some ([bare 3782, bare 4457, bare 3339], 0)
  innerName : Comes.takes Symbol.identifier nameLexicons [bare 3614] [bare 2892, bare 3614] = true
  innerEnd : Comes.takes tagEnd.symbol tagEnd.lexicons [bare 2892, bare 3614]
    [bare 3779, bare 2892, bare 3614] = true
  beginsTag : (row 3779).lexicon ∈ lessThanLexicons
  beginsStray : (row 3782).lexicon ∈ lessThanLexicons
  strayStalls : stall [3614] 96 [bare 3782, bare 4457, bare 3339] =
    some ([bare 3782, bare 4457, bare 3339], 0)
  second : turn [3782] 96 [bare 3779, bare 2731, bare 3339, bare 426] =
    some ([bare 3614, bare 3023, bare 426], -1)
  inner : ∀ state ∈ openStates, Comes.takes 96 lessThanLexicons
    [bare 3779, bare 2892, bare 3614, bare state] [bare 3614, bare 3101, bare state] = true

/-- What the automaton does up to the opening tags, by evaluation. -/
theorem atOpenings : AtOpenings := by
  constructor <;> decide +kernel

/-- At the word inside. -/
structure AtContent : Prop where
  strayName : (stall [3025] Symbol.identifier strayFirst).isSome = true
  strayKeyword : ∀ k ∈ keywords, acts 3782 k.2 = true →
    (stall [3025] k.2 strayFirst).isSome = true
  strayLexicon : (row 3782).lexicon ∈ nameLexicons
  lexicon : (row 3779).lexicon = 16
  first : turn [3782] elementText [bare 3779, bare 2731, bare 3339, bare 426] =
    some ([bare 3025, bare 3023, bare 426], -1)
  inner : ∀ state ∈ openStates, Comes.takes elementText [16]
    [bare 3779, bare 2892, bare 3614, bare state] [bare 3102, bare 3101, bare state] = true

/-- What it does at the word inside, by evaluation. -/
theorem atContent : AtContent := by
  constructor <;> decide +kernel

/-- At closing tags. -/
structure AtClosings : Prop where
  outerName : Comes.takes Symbol.identifier nameLexicons [bare 3763] [bare 4493, bare 3763] = true
  outerEnd : Comes.takes tagEnd.symbol tagEnd.lexicons [bare 4493] [bare 2156, bare 4493] = true
  innerName : Comes.takes Symbol.identifier nameLexicons [bare 4246] [bare 4990, bare 4246] = true
  innerEnd : Comes.takes tagEnd.symbol tagEnd.lexicons [bare 4990] [bare 4196, bare 4990] = true
  outerContent : ∀ jsx, Comes.takes closingStart.symbol closingStart.lexicons [⟨3025, jsx⟩]
    [bare 3763, ⟨3025, jsx⟩] = true
  innerContent : ∀ jsx, Comes.takes closingStart.symbol closingStart.lexicons [⟨3102, jsx⟩]
    [bare 4246, ⟨3102, jsx⟩] = true
  outerClosed : ∀ jsx, Comes.takes closingStart.symbol closingStart.lexicons
    [bare 4196, bare 4990, bare 4246, ⟨3102, jsx⟩, bare 3101, bare 3023]
    [bare 3763, ⟨3025, true⟩, bare 3023] = true
  innerClosed : ∀ jsx, Comes.takes closingStart.symbol closingStart.lexicons
    [bare 4196, bare 4990, bare 4246, ⟨3102, jsx⟩, bare 3101, bare 3101]
    [bare 4246, ⟨3102, true⟩, bare 3101] = true

/-- What it does at closing tags, by evaluation, with JSX before them or without. -/
theorem atClosings : AtClosings := by
  constructor <;> decide +kernel

/-- At the end of the text. -/
structure AtEnd : Prop where
  floor : ∀ s ∈ [bare 3023, bare 426, bare 3340, bare 3338],
    acts s.state Symbol.endOfText = false ∧ s.jsx = false
  inner : acts (bare 3101).state Symbol.endOfText = false ∧ (bare 3101).jsx = false
  contents : ∀ state ∈ [3025, 3102], acts state Symbol.endOfText = false ∧ lacks state = false
  stuck : ∀ state ∈ [3025, 3102, 4196], state ≠ 0 ∧ (row state).expected = 2 ∧
    (lexiconOf (row state).lexicon).acceptsEnd = false ∧
    (Thread.best (lexiconOf (row state).lexicon).starts).isNone = true ∧
    actions state Symbol.endOfText = []
  content : ∀ state ∈ [3025, 3102], ∀ jsx,
    completions maxVersions [⟨state, jsx⟩] = some [⟨state, jsx⟩]
  outerClosed : ∀ jsx, completions maxVersions
    [bare 4196, bare 4990, bare 4246, ⟨3102, jsx⟩, bare 3101, bare 3023] =
      some [⟨3025, true⟩, bare 3023]
  innerClosed : ∀ jsx, completions maxVersions
    [bare 4196, bare 4990, bare 4246, ⟨3102, jsx⟩, bare 3101, bare 3101] =
      some [⟨3102, true⟩, bare 3101]
  semicolon : ∀ jsx, turn [] 168 (closed jsx 0) =
    some ([bare 780, ⟨4293, true⟩, bare 3338, bare 1], 0)
  semicolonExpected : (row 2156).expected = 4
  semicolonMoves : goto 2156 168 ≠ 2156
  markup : (row 780).expected = 2
  ends : (lexiconOf (row 780).lexicon).acceptsEnd = true
  grouped : (groups [] Symbol.endOfText enoughGroups
    [bare 780, ⟨4293, true⟩, bare 3338, bare 1]).1 = [⟨5357, true⟩, bare 1]
  accepts : actions 5357 Symbol.endOfText = [.accept] ∧ (5357 : StateId) ≠ 0

/-- What it does at the end of the text, by evaluation. -/
theorem atEnd : AtEnd := by
  constructor <;> decide +kernel

section

variable {text rest name word : List Char} (allPlain : Plain text)

include allPlain

/-- **The text begins like a declaration.**  Up to the first tag there is one version, and the
states below it stay on the stack to the end. -/
theorem comes_floor (comes : Comes text [bare 1] (beforeTags ++ '<' :: rest)) :
    Comes text floor (' ' :: '<' :: rest) := by
  have const : Comes text [bare 3338, bare 1] ([' '] ++ (['a'] ++ ' ' :: '=' :: ' ' :: '<' :: rest)) :=
    comes.keyword [bare 1] [bare 3338, bare 1] [] [] allPlain (by decide) (by decide)
      ['c', 'o', 'n', 's', 't'] atOpenings.const ⟨by decide, by decide⟩ atOpenings.isConst
      (by decide) atOpenings.constActs (by rintro _ ⟨⟩; decide)
  have name : Comes text [bare 3340, bare 3338, bare 1] ([' '] ++ (equals.text ++ ' ' :: '<' :: rest)) :=
    const.name [bare 3338] [bare 3340, bare 3338] [bare 1] [' '] allPlain (by decide) (by decide)
      ['a'] atOpenings.declared ⟨by decide, by decide⟩
      rfl (by rintro _ ⟨⟩; decide)
  exact name.fixed [bare 3340] [bare 426, bare 3340] [bare 3338, bare 1] [' '] allPlain
    (by decide) (by decide) equals
    (tokens_sound _ (by decide)) atOpenings.equals (.inr atOpenings.looseName)
    (by rintro _ ⟨⟩; decide)

/-- Behind the first opening tag there is a second reading of it, with the name as a type. -/
def behindFirst : List Slot := [bare 3779, bare 2731, bare 3339] ++ floor

/-- Behind an opening tag inside so many others. -/
def BehindTag (text : List Char) : Nat → List Char → Prop
  | 0, chars => Forks text behindFirst strayFirst chars
  | depth + 1, chars => Comes text ([bare 3779, bare 2892, bare 3614] ++ opened depth) chars

/-- **The first opening tag.**  Behind its name there are two readings, as the name may be that of a
type; the second one is kept beside the first. -/
theorem firstTag (comes : Comes text floor (' ' :: (opening name ++ rest)))
    (tag : IsTagName name) (next : Lexicon.Follows rest tagEnd.enders) :
    BehindTag text 0 rest := by
  have begun : Comes text (bare 3339 :: floor) ([] ++ (name ++ '>' :: rest)) := by
    refine Comes.lessThan [bare 426] [bare 3339, bare 426] [bare 3340, bare 3338, bare 1] [' ']
      allPlain (by decide) (by decide) name ?_ atOpenings.first (.inr atOpenings.looseValue)
      tag.word tag.noTemplate ?_
    · rw [opening_append] at comes
      exact comes
    · rintro _ ⟨⟩
      decide
  have named : Comes text ([bare 2731, bare 3339] ++ floor) (tagEnd.text ++ rest) :=
    begun.name [bare 3339] [bare 2731, bare 3339] floor [] allPlain (by decide) (by decide) name
      atOpenings.firstName tag.word tag.free (by rintro _ ⟨⟩; decide)
  have tagPlain := named.plain allPlain
  have reads : Reads 2731 ([] ++ tagEnd.text) tagEnd.symbol rest :=
    FixedToken.reads (tokens_sound _ (by decide)) (by decide) atOpenings.endsTag
      (fun differs => absurd rfl differs) (by decide) (by decide) next tagPlain
  have strayReads : Reads 4457 ([] ++ tagEnd.text) tagEnd.symbol rest :=
    FixedToken.reads (tokens_sound _ (by decide)) (by decide) atOpenings.endsType
      (fun differs => absurd rfl differs) (by decide) (by decide) next tagPlain
  exact named.fork [bare 2731, bare 3339] [bare 3782, bare 4457, bare 3339] floor (by decide) reads
    (by decide) atOpenings.action ⟨by decide, by decide, by decide, by decide, by decide⟩
    (by decide) (by rw [atOpenings.stray]; decide) (by rw [atOpenings.stray]; exact strayReads)
    (by decide) (.of_turn atOpenings.strayTurn) (by decide) (by decide)

/-- Behind the name of an inner element. -/
theorem innerName {depth : Nat}
    (comes : Comes text (bare 3614 :: opened depth) (name ++ '>' :: rest)) (tag : IsTagName name)
    (next : Lexicon.Follows rest tagEnd.enders) :
    BehindTag text (depth + 1) rest := by
  have named : Comes text ([bare 2892, bare 3614] ++ opened depth) (tagEnd.text ++ rest) :=
    comes.name [bare 3614] [bare 2892, bare 3614] (opened depth) [] allPlain (by decide)
      (by decide) name atOpenings.innerName tag.word tag.free
      (by rintro _ ⟨⟩; decide)
  exact named.fixed [bare 2892, bare 3614] [bare 3779, bare 2892, bare 3614] (opened depth) []
    allPlain (by decide) (by decide) tagEnd (tokens_sound _ (by decide)) atOpenings.innerEnd
    (.inl rfl) next

/-- **An inner opening tag**, behind the outermost one or another.  If it is behind the outermost
one, then the second reading stops at its `<`. -/
theorem BehindTag.tag {depth : Nat} (behind : BehindTag text depth (opening name ++ rest))
    (tag : IsTagName name) (next : Lexicon.Follows rest tagEnd.enders) :
    BehindTag text (depth + 1) rest := by
  have dark : ∀ d, ('>' :: rest).head? = some d → isLetter d = false := by
    rintro _ ⟨⟩
    decide
  rw [opening_append] at behind
  refine innerName allPlain ?_ tag next
  cases depth with
  | zero =>
    have forks : Forks text ([bare 3779, bare 2731, bare 3339, bare 426] ++
        [bare 3340, bare 3338, bare 1]) strayFirst ([] ++ ['<'] ++ (name ++ '>' :: rest)) := behind
    have forkPlain := forks.plain allPlain
    have reads : Reads 3779 ([] ++ ['<']) 96 (name ++ '>' :: rest) :=
      Reads.lessThan (by decide) atOpenings.beginsTag (fun differs => absurd rfl differs) (by decide)
        (by decide) tag.word tag.noTemplate dark forkPlain
    have strayReads : Reads 3782 ([] ++ ['<']) 96 (name ++ '>' :: rest) :=
      Reads.lessThan (by decide) atOpenings.beginsStray (fun differs => absurd rfl differs) (by decide)
        (by decide) tag.word tag.noTemplate dark forkPlain
    exact forks.step [bare 3779, bare 2731, bare 3339, bare 426] [bare 3614, bare 3023, bare 426]
      [bare 3340, bare 3338, bare 1] (by decide) reads (by decide) (.of_turn atOpenings.second)
      strayReads rfl (Stalls.append (.of_stall atOpenings.strayStalls) (by decide) floor)
  | succ depth =>
    obtain ⟨state, known, below, same⟩ := opened_eq depth
    rw [opened, same]
    rw [BehindTag, same] at behind
    exact Comes.lessThan [bare 3779, bare 2892, bare 3614, bare state]
      [bare 3614, bare 3101, bare state] below [] allPlain (by decide) (by decide) name behind
      (atOpenings.inner state known) (.inl rfl) tag.word tag.noTemplate dark

omit allPlain in
/-- The second reading of the first tag stops at every word. -/
theorem stray_stalls (word : List Char) :
    ∃ after bonus, Stalls [3025] (wordSymbol 3782 word) strayFirst after bonus := by
  have stalls : (stall [3025] (wordSymbol 3782 word) strayFirst).isSome = true := by
    rcases wordSymbol_cases 3782 word with isName | ⟨k, mem, isKeyword, known⟩
    · rw [isName]
      exact atContent.strayName
    · rw [isKeyword]
      exact atContent.strayKeyword k mem known
  obtain ⟨⟨after, bonus⟩, same⟩ := Option.isSome_iff_exists.mp stalls
  exact ⟨after, bonus, .of_stall same⟩

/-- **The word inside.**  It is text of the innermost element, and from here on there is one
reading. -/
theorem BehindTag.content {depth : Nat} (behind : BehindTag text depth (word ++ rest))
    (isWord : IsWord word) (next : Lexicon.Follows rest [('<', '<')]) :
    Comes text (inside false depth) rest := by
  cases depth with
  | zero =>
    have forks : Forks text ([bare 3779, bare 2731, bare 3339, bare 426] ++
        [bare 3340, bare 3338, bare 1]) strayFirst ([] ++ word ++ rest) := behind
    have forkPlain := forks.plain allPlain
    have strayReads : Reads 3782 ([] ++ word) (wordSymbol 3782 word) rest :=
      .ofWord (by decide) atContent.strayLexicon (by decide) (by decide) isWord
        (next.mono (by decide)) forkPlain
    obtain ⟨strayAfter, bonus, stalls⟩ := stray_stalls word
    exact forks.step [bare 3779, bare 2731, bare 3339, bare 426] [bare 3025, bare 3023, bare 426]
      [bare 3340, bare 3338, bare 1] (by decide)
      (.betweenTags (by decide) atContent.lexicon isWord next forkPlain) (by decide)
      (.of_turn atContent.first) strayReads rfl stalls
  | succ depth =>
    obtain ⟨state, known, below, same⟩ := opened_eq depth
    obtain ⟨nonempty, outside, lexicon, token, bonus, turns⟩ :=
      Comes.takes_iff (atContent.inner state known)
    rw [inside, opened, same]
    rw [BehindTag, same] at behind
    exact Comes.step [bare 3779, bare 2892, bare 3614, bare state]
      [bare 3102, bare 3101, bare state] below behind nonempty
      (.betweenTags outside (List.mem_singleton.mp lexicon) isWord next
        (Comes.plain behind allPlain)) token turns

/-! ### Closing tags -/

/-- Behind the name in a closing tag. -/
theorem closingName_tag {jsx : Bool} {depth : Nat}
    (comes : Comes text (closingName jsx depth) (name ++ '>' :: rest)) (tag : IsTagName name)
    (next : Lexicon.Follows rest tagEnd.enders) : Comes text (closed jsx depth) rest := by
  have nameNext : Lexicon.Follows ('>' :: rest) nameEnders := by
    rintro _ ⟨⟩
    decide
  cases depth with
  | zero =>
    have named := Comes.name [bare 3763] [bare 4493, bare 3763] (inside jsx 0) [] allPlain
      (by decide) (by decide) name comes atClosings.outerName tag.word tag.free nameNext
    exact named.fixed [bare 4493] [bare 2156, bare 4493] (closingName jsx 0) [] allPlain
      (by decide) (by decide) tagEnd (tokens_sound _ (by decide)) atClosings.outerEnd (.inl rfl)
      next
  | succ depth =>
    have named := Comes.name [bare 4246] [bare 4990, bare 4246] (inside jsx (depth + 1)) []
      allPlain (by decide) (by decide) name comes atClosings.innerName tag.word tag.free nameNext
    exact named.fixed [bare 4990] [bare 4196, bare 4990] (closingName jsx (depth + 1)) [] allPlain
      (by decide) (by decide) tagEnd (tokens_sound _ (by decide)) atClosings.innerEnd (.inl rfl)
      next

omit allPlain in
theorem follows_word (isWord : IsWord name) : Lexicon.Follows (name ++ rest) letters := by
  intro c head
  cases name with
  | nil => exact absurd rfl isWord.nonempty
  | cons d name =>
    cases head
    exact inRanges_letters (isWord.letters c List.mem_cons_self)

/-- **The first closing tag.**  Its name need not be that of the element it closes: the grammar does
not compare them. -/
theorem inside_tag {jsx : Bool} {depth : Nat}
    (comes : Comes text (inside jsx depth) (closing name ++ rest)) (tag : IsTagName name)
    (next : Lexicon.Follows rest tagEnd.enders) : Comes text (closed jsx depth) rest := by
  refine closingName_tag allPlain ?_ tag next
  rw [closing_append] at comes
  cases depth with
  | zero =>
    exact comes.fixed [⟨3025, jsx⟩] [bare 3763, ⟨3025, jsx⟩] (opened 0) [] allPlain (by decide)
      (by decide) closingStart (tokens_sound _ (by decide)) (atClosings.outerContent jsx)
      (.inl rfl) (follows_word tag.word)
  | succ depth =>
    exact comes.fixed [⟨3102, jsx⟩] [bare 4246, ⟨3102, jsx⟩] (opened (depth + 1)) [] allPlain
      (by decide) (by decide) closingStart (tokens_sound _ (by decide))
      (atClosings.innerContent jsx) (.inl rfl) (follows_word tag.word)

/-- **Another closing tag** completes the element before it, so that there is JSX from here on.  It
becomes part of the content of the one around it. -/
theorem closed_tag {jsx : Bool} {depth : Nat}
    (comes : Comes text (closed jsx (depth + 1)) (closing name ++ rest)) (tag : IsTagName name)
    (next : Lexicon.Follows rest tagEnd.enders) : Comes text (closed true depth) rest := by
  refine closingName_tag allPlain ?_ tag next
  rw [closing_append] at comes
  cases depth with
  | zero =>
    exact comes.fixed [bare 4196, bare 4990, bare 4246, ⟨3102, jsx⟩, bare 3101, bare 3023]
      [bare 3763, ⟨3025, true⟩, bare 3023] floor [] allPlain (by decide) (by decide) closingStart
      (tokens_sound _ (by decide)) (atClosings.outerClosed jsx) (.inl rfl) (follows_word tag.word)
  | succ depth =>
    exact comes.fixed [bare 4196, bare 4990, bare 4246, ⟨3102, jsx⟩, bare 3101, bare 3101]
      [bare 4246, ⟨3102, true⟩, bare 3101] (opened depth) [] allPlain (by decide) (by decide)
      closingStart (tokens_sound _ (by decide)) (atClosings.innerClosed jsx) (.inl rfl)
      (follows_word tag.word)

/-! ### Several tags -/

omit allPlain in
/-- What follows an opening tag in such a text. -/
theorem follows_openings (names : List (List Char)) (isWord : IsWord word) :
    Lexicon.Follows (names.flatMap opening ++ (word ++ rest)) tagEnd.enders := by
  cases names with
  | nil =>
    exact (follows_word isWord).mono fun range mem => List.mem_cons_of_mem _ mem
  | cons name names =>
    rintro _ ⟨⟩
    decide

/-- **The other opening tags**, by induction on the list of their names. -/
theorem BehindTag.tags {names : List (List Char)} {depth : Nat}
    (behind : BehindTag text depth (names.flatMap opening ++ (word ++ rest)))
    (tags : ∀ name ∈ names, IsTagName name) (isWord : IsWord word) :
    BehindTag text (depth + names.length) (word ++ rest) := by
  induction names generalizing depth with
  | nil => exact behind
  | cons name names ih =>
    rw [List.flatMap_cons, List.append_assoc] at behind
    rw [List.length_cons, Nat.add_comm names.length, ← Nat.add_assoc]
    exact ih (behind.tag allPlain (tags name List.mem_cons_self) (follows_openings names isWord))
      fun other mem => tags other (List.mem_cons_of_mem _ mem)

omit allPlain in
/-- What follows a tag before closing tags. -/
theorem follows_closings (names : List (List Char)) (ranges : List (Char × Char)) :
    Lexicon.Follows (names.flatMap closing) (('<', '<') :: ranges) := by
  cases names with
  | nil => exact fun _ none => by cases none
  | cons name names =>
    rintro _ ⟨⟩
    rfl

/-- **The other closing tags**, by induction on the list of their names.  Whether there is JSX is
known only if there was one before the last. -/
theorem closed_tags {names : List (List Char)} {jsx : Bool} {depth : Nat}
    (comes : Comes text (closed jsx (depth + names.length)) (names.flatMap closing))
    (tags : ∀ name ∈ names, IsTagName name) :
    ∃ jsx', Comes text (closed jsx' depth) [] := by
  induction names generalizing jsx with
  | nil => exact ⟨jsx, comes⟩
  | cons name names ih =>
    rw [List.flatMap_cons] at comes
    exact ih (closed_tag allPlain comes (tags name List.mem_cons_self) (follows_closings names _))
      fun other mem => tags other (List.mem_cons_of_mem _ mem)

end

/-! ### The end -/

/-- The states below an open element can do nothing at the end of the text. -/
theorem opened_idle (depth : Nat) :
    ∃ upper, opened depth = upper ++ [bare 1] ∧
      ∀ s ∈ upper, acts s.state Symbol.endOfText = false ∧ s.jsx = false := by
  induction depth with
  | zero => exact ⟨[bare 3023, bare 426, bare 3340, bare 3338], rfl, atEnd.floor⟩
  | succ depth ih =>
    obtain ⟨upper, same, idle⟩ := ih
    refine ⟨bare 3101 :: upper, by rw [opened, same]; rfl, fun s mem => ?_⟩
    rcases List.mem_cons.mp mem with rfl | below
    · exact atEnd.inner
    · exact idle s below

theorem contentState_mem (depth : Nat) : contentState depth ∈ [3025, 3102] := by
  cases depth with
  | zero => exact List.mem_cons_self
  | succ depth => exact List.mem_cons_of_mem _ List.mem_cons_self

section

variable {text : List Char}

/-- **The text ends** where it completes content inside an open element.  What can be completed is
computed on the few slots known; those below can do nothing there. -/
theorem ends_inside (known deeper : List Slot) (depth : Nat) {jsx : Bool} {slots after : List Slot}
    (comes : Comes text slots []) (same : slots = known ++ deeper)
    (stuck : topSlot known ≠ 0 ∧ (row (topSlot known)).expected = 2 ∧
      (lexiconOf (row (topSlot known)).lexicon).acceptsEnd = false ∧
      (Thread.best (lexiconOf (row (topSlot known)).lexicon).starts).isNone = true ∧
      actions (topSlot known) Symbol.endOfText = [])
    (completed : completions maxVersions known = some after) (nonempty : known ≠ [])
    (content : after ++ deeper = inside jsx depth) : Elements (parse text) jsx := by
  obtain ⟨outside, markup, stays, silent, nothing⟩ := stuck
  obtain ⟨steps, few, completes⟩ := Completes.of_completions completed
  obtain ⟨upper, split, idle⟩ := opened_idle depth
  have whole : inside jsx depth = (⟨contentState depth, jsx⟩ :: upper) ++ [bare 1] := by
    rw [inside, split]
    rfl
  obtain ⟨idleContent, complete⟩ := atEnd.contents _ (contentState_mem depth)
  have deeperCompletes := completes.append nonempty deeper
  rw [content, whole, ← same] at deeperCompletes
  rw [← topSlot_append nonempty deeper, ← same] at outside markup stays silent nothing
  -- Nothing can be done at the end, so the tree comes out of an error over all open elements.
  have noName : (isKeyword Symbol.endOfText && acts (topSlot slots) Symbol.identifier) = false :=
    rfl
  have elements := comes.broken (.error outside markup stays silent true)
    ⟨⟨0, Nat.zero_le _, .none⟩, nothing, outside, noName⟩ deeperCompletes (Nat.le_of_lt few)
    complete (List.cons_ne_nil _ _) fun s mem => by
      rcases List.mem_cons.mp mem with rfl | below
      · exact idleContent
      · exact (idle s below).1
  have others : upper.any Slot.jsx = false := by
    rw [List.any_eq_false]
    intro s mem
    rw [(idle s mem).2]
    exact Bool.false_ne_true
  rw [List.any_cons, others, Bool.or_false] at elements
  exact elements

/-- The end of the text after the word. -/
theorem inside_end {jsx : Bool} {depth : Nat} (comes : Comes text (inside jsx depth) []) :
    Elements (parse text) jsx := by
  have stuck := atEnd.stuck (contentState depth)
    (List.mem_append_left [4196] (contentState_mem depth))
  exact ends_inside [⟨contentState depth, jsx⟩] (opened depth) depth comes rfl stuck
    (atEnd.content _ (contentState_mem depth) jsx) (List.cons_ne_nil _ _) rfl

/-- The end of the text after a tag that closes an inner element. -/
theorem closed_end {jsx : Bool} {depth : Nat} (comes : Comes text (closed jsx (depth + 1)) []) :
    Elements (parse text) true := by
  have stuck := atEnd.stuck 4196 (by decide)
  cases depth with
  | zero =>
    exact ends_inside [bare 4196, bare 4990, bare 4246, ⟨3102, jsx⟩, bare 3101, bare 3023] floor 0
      comes rfl stuck (atEnd.outerClosed jsx) (List.cons_ne_nil _ _) rfl
  | succ depth =>
    exact ends_inside [bare 4196, bare 4990, bare 4246, ⟨3102, jsx⟩, bare 3101, bare 3101]
      (opened depth) (depth + 1) comes rfl stuck (atEnd.innerClosed jsx)
      (List.cons_ne_nil _ _) rfl

/-- The end of the text after the outermost element. -/
theorem outermost_end {jsx : Bool} (comes : Comes text (closed jsx 0) []) :
    (parse text).Clean true := by
  have comes : Comes text (closed jsx 0 ++ []) [] := by rwa [List.append_nil]
  have semicolon : ReadsEnd 2156 true 168 :=
    .semicolon (by decide) atEnd.semicolonExpected atEnd.semicolonMoves
  exact comes.accepted_of_semicolon (List.cons_ne_nil _ _) semicolon
    (.of_turn (atEnd.semicolon jsx)) (.end (by decide) atEnd.markup atEnd.ends true)
    (.of_groups atEnd.grouped atEnd.accepts)

end

end OpenElements

/-! ### The answer -/

open OpenElements

/-- The first JSX in the tree of such a text is a paired element if a tag is closed, and otherwise
there is none.  This is before the guard against null characters, so the text is only known to be
plain. -/
theorem elements_nested {openings closings : List (List Char)} {word : List Char}
    (nonempty : openings ≠ []) (tags : ∀ name ∈ openings ++ closings, IsTagName name)
    (isWord : IsWord word) (few : closings.length ≤ openings.length)
    (allPlain : Plain (nested openings word closings)) :
    Elements (parse (nested openings word closings)) (!closings.isEmpty) := by
  obtain ⟨first, names, rfl⟩ := List.exists_cons_of_ne_nil nonempty
  generalize same : nested (first :: names) word closings = text at allPlain ⊢
  have begun : ∀ chars, text = chars → Comes text [bare 1] chars := by
    rintro _ rfl
    exact Comes.start text
  have begun := begun (beforeTags ++ '<' :: (first ++ '>' ::
      (names.flatMap opening ++ (word ++ closings.flatMap closing)))) (by
    rw [← same, nested, List.flatMap_cons, List.append_assoc, List.append_assoc, List.append_assoc,
      opening_append])
  have behindTag : BehindTag text names.length (word ++ closings.flatMap closing) := by
    have behind := firstTag allPlain (opening_append first _ ▸ comes_floor allPlain begun)
      (tags first List.mem_cons_self) (follows_openings names isWord)
    have others := behind.tags allPlain
      (fun name mem => tags name (List.mem_cons_of_mem _ (List.mem_append_left _ mem))) isWord
    rwa [Nat.zero_add] at others
  have content := behindTag.content allPlain isWord (follows_closings closings [])
  cases closings with
  | nil => exact inside_end content
  | cons last closings =>
    rw [List.flatMap_cons] at content
    have tag := fun name mem => tags name (List.mem_append_right _ mem)
    have tagged := inside_tag allPlain content (tag last List.mem_cons_self)
      (follows_closings closings _)
    obtain ⟨depth, deep⟩ : ∃ depth, names.length = depth + closings.length := by
      refine ⟨names.length - closings.length, ?_⟩
      rw [List.length_cons, List.length_cons] at few
      omega
    rw [deep] at tagged
    obtain ⟨jsx, comes⟩ := closed_tags allPlain tagged
      fun name mem => tag name (List.mem_cons_of_mem _ mem)
    cases depth with
    | zero => exact (outermost_end comes).first
    | succ depth => exact closed_end comes

/-- **Unfinished nesting is decided by the closed tags.**  If elements are opened inside each other
around a word, and some of them are closed, then there is JSX in the text exactly if at least one
tag is closed, whatever the names; and it is a paired element. -/
theorem jsx_iff_closed {openings closings : List (List Char)} {word : List Char}
    (nonempty : openings ≠ []) (tags : ∀ name ∈ openings ++ closings, IsTagName name)
    (isWord : IsWord word) (few : closings.length ≤ openings.length) :
    let answer := detect (String.ofList (nested openings word closings))
    (answer.jsx = true ↔ closings ≠ []) ∧ (closings ≠ [] → answer.kind = some .element) := by
  have allPlain : Plain (nested openings word closings) :=
    nested_all (fun c => plain_of_letter) (by decide) tags isWord
  have noNull : '\x00' ∉ nested openings word closings := fun mem => by
    have differs := nested_all (p := (· != '\x00')) (fun c letter => bne_iff_ne.mpr fun same => by
      rw [same] at letter
      cases letter) (by decide) tags isWord _ mem
    cases differs
  have elements := elements_nested nonempty tags isWord few allPlain
  have kind : (detect (String.ofList (nested openings word closings))).kind =
      elementIf (!closings.isEmpty) := by
    rw [detect, String.toList_ofList, detectIn_kind noNull]
    exact elements
  dsimp only
  rw [Detection.jsx, kind]
  cases closings with
  | nil => exact ⟨⟨fun none => (by cases none), fun differs => absurd rfl differs⟩,
      fun differs => absurd rfl differs⟩
  | cons name closings => exact ⟨⟨fun _ => List.cons_ne_nil _ _, fun _ => rfl⟩, fun _ => rfl⟩

/-- The text `const a = <b><c>text</d>`. -/
theorem jsx_half_closed :
    let openings : List (List Char) := [['b'], ['c']]
    let closings : List (List Char) := [['d']]
    let word : List Char := ['t', 'e', 'x', 't']
    (openings ≠ [] ∧ (∀ name ∈ openings ++ closings, IsTagName name) ∧ IsWord word ∧
      closings.length ≤ openings.length) ∧
    (detect (String.ofList (nested openings word closings))).kind = some .element := by
  have names : ∀ name ∈ [['b'], ['c']] ++ [['d']], IsTagName name := by decide +kernel
  have isWord : IsWord ['t', 'e', 'x', 't'] := ⟨by decide, by decide⟩
  exact ⟨⟨by decide, names, isWord, by decide⟩,
    (jsx_iff_closed (by decide) names isWord (by decide)).2 (by decide)⟩

end JsxDetect
