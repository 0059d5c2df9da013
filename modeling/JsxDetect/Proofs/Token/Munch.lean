import JsxDetect.Proofs.Text.Places
import JsxDetect.Token.Contextual

/-!
# The longest token

What `Lexicon.read` finds in a text that is known up to the letters of its words.  Behind each
character of a word the threads are the same, whichever letter it was, so a finite check on a
lexicon tells how it reads every word; a fixed text is followed character by character.

## Main Definitions

* `Lexicon.ahead`: the threads behind one more character
* `Lexicon.Munches`: a lexicon reads blanks and then a token
* `Lexicon.skipsBlanks`, `Lexicon.readsClass`, `Lexicon.readsFixed`: what is to be checked

## Main Results

* `Lexicon.munches_class`, `Lexicon.munches_fixed`, `Lexicon.munches_end`
* `Lexicon.munches_shorter`: a fixed text that begins a longer one, when that does not come

## Design Notes

**Finite checks for all words.**  A lexicon is followed by sets of threads, whose patterns are
derivatives of rules.  Over a range of characters that all of its patterns treat alike, `uniform`,
one character stands for all, and a step can be evaluated.  So "reads every word as a name" becomes
a loop over a few sets of threads, `carries`, which returns to itself, and its proof is an induction
over the word.

**Four shapes of tokens.**  Any characters of a class (`readsClass`), a fixed text (`readsFixed`), a
fixed text with which a longer one begins (`leadsTo`), and the end of the text (`acceptsEnd`).  For
each there is a check, evaluated by the callers for the lexicons that they need, and a theorem
`munches_...` that gives `Munches`.

**Blanks.**  They are skipped before a token, and new threads begin behind each of them.
`followFrom_blanks` shows that it does not matter how many there are: there are two sets of threads
to begin with, `beginnings`, and both are checked.
-/

namespace JsxDetect.Token

/-! ### Ranges of characters -/

/-- The ASCII letters. -/
def letters : List (Char × Char) := [('a', 'z'), ('A', 'Z')]

theorem inRanges_letters {c : Char} (letter : isLetter c = true) :
    CharSet.inRanges c letters = true := by
  rw [letters, CharSet.inRanges, CharSet.inRanges, CharSet.inRanges, Bool.or_false]
  exact letter

/-- What holds of all letters can be checked letter by letter. -/
theorem forall_letter {p : Char → Prop}
    (small : ∀ n < 128, isLetter (Char.ofNat n) = true → p (Char.ofNat n)) {c : Char}
    (letter : isLetter c = true) : p c := by
  have bound : c.toNat < 128 := by
    simp only [isLetter, Bool.or_eq_true, Bool.and_eq_true, decide_eq_true_eq] at letter
    have lower : 'z'.toNat = 122 := rfl
    have upper : 'Z'.toNat = 90 := rfl
    omega
  have found := small c.toNat bound
  rw [Char.ofNat_toNat c] at found
  exact found letter

/-- What is to hold of the characters of a text is decided by looking at those, and not at all
characters that there are. -/
instance (priority := 2000) decidableOnText {p : Char → Prop} [DecidablePred p]
    (text : List Char) : Decidable (∀ c ∈ text, p c) :=
  List.decidableBAll p text

/-- The blanks of a line, and the line feed. -/
def spaces : List Char := [' ', '\x09', '\n']

/-- Is a range within or without each of some ranges? -/
def CharSet.uniformRanges (low high : Char) (ranges : List (Char × Char)) : Bool :=
  ranges.all fun (a, b) =>
    (high.toNat < a.toNat || b.toNat < low.toNat) || (a.toNat ≤ low.toNat && high.toNat ≤ b.toNat)

/-- Does a set contain all characters of a range, or none? -/
def CharSet.uniform (low high : Char) : CharSet → Bool
  | within ranges => uniformRanges low high ranges
  | outside ranges => uniformRanges low high ranges

/-- Does a pattern treat all characters of a range alike? -/
def Pattern.uniform (low high : Char) : Pattern → Bool
  | literal [] => true
  | literal (d :: _) => high.toNat < d.toNat || d.toNat < low.toNat
  | one set => set.uniform low high
  | seq first second => first.uniform low high && (!first.nullable || second.uniform low high)
  | alt left right => left.uniform low high && right.uniform low high
  | star body => body.uniform low high

variable {low high c : Char}

/-- Whether a character is in some ranges is then told by the lower end of its range. -/
theorem CharSet.inRanges_of_uniform {ranges : List (Char × Char)}
    (uniform : uniformRanges low high ranges = true) (above : low.toNat ≤ c.toNat)
    (below : c.toNat ≤ high.toNat) : inRanges c ranges = inRanges low ranges := by
  induction ranges with
  | nil => rfl
  | cons range ranges ih =>
    rw [uniformRanges, List.all_cons, Bool.and_eq_true] at uniform
    have here : (decide (range.1.toNat ≤ c.toNat) && decide (c.toNat ≤ range.2.toNat)) =
        (decide (range.1.toNat ≤ low.toNat) && decide (low.toNat ≤ range.2.toNat)) := by
      have cases := uniform.1
      simp only [Bool.or_eq_true, Bool.and_eq_true, decide_eq_true_eq] at cases
      rw [Bool.eq_iff_iff]
      simp only [Bool.and_eq_true, decide_eq_true_eq]
      omega
    rw [inRanges, inRanges, here, ih uniform.2]

theorem CharSet.contains_of_uniform {set : CharSet} (uniform : set.uniform low high = true)
    (above : low.toNat ≤ c.toNat) (below : c.toNat ≤ high.toNat) :
    set.contains c = set.contains low := by
  cases set with
  | within ranges => exact inRanges_of_uniform uniform above below
  | outside ranges => exact congrArg (!·) (inRanges_of_uniform uniform above below)

/-- What is left of a pattern behind the character is told by the lower end, too, by induction on
the pattern. -/
theorem Pattern.step_of_uniform {p : Pattern} (uniform : p.uniform low high = true)
    (above : low.toNat ≤ c.toNat) (below : c.toNat ≤ high.toNat) : p.step c = p.step low := by
  induction p with
  | literal chars =>
    cases chars with
    | nil => rfl
    | cons d chars =>
      rw [Pattern.uniform, Bool.or_eq_true, decide_eq_true_eq, decide_eq_true_eq] at uniform
      have other : c ≠ d := by rintro rfl; omega
      have other' : low ≠ d := by rintro rfl; omega
      rw [step, step, if_neg other, if_neg other']
  | one set =>
    rw [step, step, CharSet.contains_of_uniform uniform above below]
  | seq first second ihFirst ihSecond =>
    rw [Pattern.uniform, Bool.and_eq_true, Bool.or_eq_true, Bool.not_eq_true'] at uniform
    rw [step, step, ihFirst uniform.1]
    rcases uniform.2 with stays | second
    · rw [stays]
      rfl
    · rw [ihSecond second]
  | alt left right ihLeft ihRight =>
    rw [Pattern.uniform, Bool.and_eq_true] at uniform
    rw [step, step, ihLeft uniform.1, ihRight uniform.2]
  | star body ih =>
    rw [step, step, ih uniform]

/-- A character in some ranges is in one of them. -/
theorem exists_range {ranges : List (Char × Char)} (mem : CharSet.inRanges c ranges = true) :
    ∃ range ∈ ranges, range.1.toNat ≤ c.toNat ∧ c.toNat ≤ range.2.toNat := by
  induction ranges with
  | nil => cases mem
  | cons range ranges ih =>
    rw [CharSet.inRanges, Bool.or_eq_true, Bool.and_eq_true, decide_eq_true_eq,
      decide_eq_true_eq] at mem
    rcases mem with here | later
    · exact ⟨range, List.mem_cons_self, here⟩
    · obtain ⟨found, inside, bounds⟩ := ih later
      exact ⟨found, List.mem_cons_of_mem _ inside, bounds⟩

/-- Nonempty words of ASCII letters. -/
structure IsWord (word : List Char) : Prop where
  nonempty : word ≠ []
  letters : ∀ c ∈ word, isLetter c = true

end JsxDetect.Token

namespace JsxDetect.Cursor

/-- The text between a place and the one behind some characters is these characters. -/
theorem lexeme_behind {cursor : Cursor} {chars rest : List Char} (text : cursor.rest = chars ++ rest) :
    cursor.lexeme (cursor.behind chars rest) = chars := by
  have walk : ∀ (chars : List Char) (cursor : Cursor), 
      lexeme.go (cursor.behind chars rest) (chars ++ rest) cursor.offset = chars := by
    intro chars
    induction chars with
    | nil =>
      intro cursor
      cases rest with
      | nil => rfl
      | cons c rest =>
        rw [List.nil_append, lexeme.go, if_neg]
        exact Nat.lt_irrefl _
    | cons c chars ih =>
      intro cursor
      have later := offset_le_behind (cursor.past c (chars ++ rest)) chars rest
      have pos := width_pos c
      have offset : (cursor.past c (chars ++ rest)).offset = cursor.offset + width c := rfl
      rw [List.cons_append, lexeme.go, behind_cons, if_pos (by omega), ← offset, ih]
  rw [lexeme, text]
  exact walk chars cursor

end JsxDetect.Cursor

namespace JsxDetect.Token.Lexicon

variable (lexicon : Lexicon)

/-! ### One character -/

/-- The threads behind one more character, whether blanks could stand there, and whether the
character was skipped; none if reading stops before it. -/
def ahead (threads : List Thread) (loose : Bool) (c : Char) : Option (List Thread × Bool × Bool) :=
  let moved := threads.flatMap (Thread.step c)
  let blank := loose && blanks.contains c
  if moved.isEmpty && !blank then none
  else if goesOn (Thread.best threads) loose blank moved then
    some (Thread.dedupe moved ++ if blank then lexicon.startsAfterBlank else [], blank,
      moved.isEmpty)
  else none

/-- The last complete token, with the place behind it. -/
def lastFound (threads : List Thread) (here : Cursor) (found : Option (Symbol × Cursor)) :
    Option (Symbol × Cursor) :=
  match Thread.best threads with
  | some r => some (r.symbol, here)
  | none => found

variable {lexicon} {threads : List Thread} {loose onlyBlanks : Bool} {start : Cursor}
  {found : Option (Symbol × Cursor)}

/-- Do some threads treat all characters of a range alike? -/
def uniform (threads : List Thread) (range : Char × Char) : Bool :=
  range.1 == range.2 ||
    (blanks.uniform range.1 range.2 && threads.all fun t => t.remaining.uniform range.1 range.2)

/-- One step of some threads is told by the lower end of a range. -/
theorem ahead_of_uniform {range : Char × Char} (uniform : uniform threads range = true) {c : Char}
    (above : range.1.toNat ≤ c.toNat) (below : c.toNat ≤ range.2.toNat) :
    lexicon.ahead threads loose c = lexicon.ahead threads loose range.1 := by
  rw [Lexicon.uniform, Bool.or_eq_true, beq_iff_eq, Bool.and_eq_true] at uniform
  rcases uniform with single | uniform
  · have same : c = range.1 := by
      apply Char.toNat_inj.mp
      rw [← single] at below
      omega
    rw [same]
  · have step : threads.flatMap (Thread.step c) = threads.flatMap (Thread.step range.1) := by
      rw [List.flatMap_def, List.flatMap_def]
      refine congrArg List.flatten (List.map_congr_left fun t mem => ?_)
      rw [Thread.step, Thread.step,
        Pattern.step_of_uniform (List.all_eq_true.mp uniform.2 t mem) above below]
    rw [ahead, ahead, step, CharSet.contains_of_uniform uniform.1 above below]

variable (lexicon) in
/-- Does reading stop before all characters of some ranges?  No thread goes on over any. -/
def stopsBefore (threads : List Thread) (enders : List (Char × Char)) : Bool :=
  enders.all fun range =>
    uniform threads range && (lexicon.ahead threads false range.1).isNone

/-- Reading stops before each character of such ranges. -/
theorem ahead_of_stopsBefore {enders : List (Char × Char)}
    (stops : lexicon.stopsBefore threads enders = true) {c : Char}
    (mem : CharSet.inRanges c enders = true) : lexicon.ahead threads false c = none := by
  obtain ⟨range, inside, above, below⟩ := exists_range mem
  have checked := List.all_eq_true.mp stops range inside
  rw [Bool.and_eq_true] at checked
  rw [ahead_of_uniform checked.1 above below]
  exact Option.isNone_iff_eq_none.mp checked.2

/-- What follows a token: one of some characters, or nothing. -/
def Follows (rest : List Char) (enders : List (Char × Char)) : Prop :=
  ∀ c, rest.head? = some c → CharSet.inRanges c enders = true

/-- A character between the ends of one of the ranges is in them. -/
theorem inRanges_of_mem {c : Char} {range : Char × Char} {ranges : List (Char × Char)}
    (mem : range ∈ ranges) (above : range.1 ≤ c) (below : c ≤ range.2) :
    CharSet.inRanges c ranges = true := by
  induction ranges with
  | nil => cases mem
  | cons first ranges ih =>
    rw [CharSet.inRanges, Bool.or_eq_true, Bool.and_eq_true, decide_eq_true_eq, decide_eq_true_eq]
    rcases List.mem_cons.mp mem with rfl | later
    · exact .inl ⟨above, below⟩
    · exact .inr (ih later)

theorem Follows.mono {rest : List Char} {ranges more : List (Char × Char)}
    (next : Follows rest ranges) (fewer : ∀ range ∈ ranges, range ∈ more) : Follows rest more := by
  intro c head
  obtain ⟨range, mem, above, below⟩ := exists_range (next c head)
  exact inRanges_of_mem (fewer range mem) above below

variable (lexicon) in
/-- Reading on from a place. -/
def followFrom (threads : List Thread) (loose onlyBlanks : Bool) (start : Cursor)
    (found : Option (Symbol × Cursor)) (cursor : Cursor) : Reading :=
  lexicon.follow threads loose onlyBlanks start found cursor.rest cursor.offset cursor.row

/-- Reading stops where no thread goes on, with what was found last. -/
theorem followFrom_of_none {cursor : Cursor} {c : Char} {rest : List Char}
    (text : cursor.rest = c :: rest) (stops : lexicon.ahead threads loose c = none) :
    lexicon.followFrom threads loose onlyBlanks start found cursor =
      ⟨start, cursor, lastFound threads cursor found⟩ := by
  obtain ⟨chars, offset, row⟩ := cursor
  obtain rfl : chars = c :: rest := text
  rw [ahead] at stops
  rw [followFrom, follow]
  dsimp only at stops ⊢
  split at stops
  · next none => rw [if_pos none]; rfl
  · next some =>
    split at stops
    · cases stops
    · next halts => rw [if_neg some, if_neg halts]; rfl

/-- Where some do, reading goes on behind the character.  If it was skipped, then the token has not
begun. -/
theorem followFrom_of_some {cursor : Cursor} {c : Char} {rest : List Char}
    {threads' : List Thread} {blank skipped : Bool} (text : cursor.rest = c :: rest)
    (goes : lexicon.ahead threads loose c = some (threads', blank, skipped)) :
    lexicon.followFrom threads loose onlyBlanks start found cursor =
      lexicon.followFrom threads' blank (onlyBlanks && skipped)
        (if skipped then cursor.past c rest else start) (lastFound threads cursor found)
        (cursor.past c rest) := by
  obtain ⟨chars, offset, row⟩ := cursor
  obtain rfl : chars = c :: rest := text
  rw [ahead] at goes
  rw [followFrom, follow]
  dsimp only at goes ⊢
  split at goes
  · cases goes
  · next some =>
    split at goes
    · next continues =>
      cases goes
      rw [if_neg some, if_pos continues]
      rfl
    · cases goes

/-! ### Blanks -/

/-- A lexicon reads blanks and then some characters as a token. -/
structure Munches (lexicon : Lexicon) (cursor : Cursor) (symbol : Symbol)
    (blank chars rest : List Char) : Prop where
  start : (lexicon.read cursor).start = cursor.behind blank (chars ++ rest)
  found : (lexicon.read cursor).found =
    some (symbol, (cursor.behind blank (chars ++ rest)).behind chars rest)

variable (lexicon) in
/-- The threads that a token may begin with. -/
def beginnings : List (List Thread) := [lexicon.starts, lexicon.startsAfterBlank]

variable (lexicon) in
/-- May blanks stand before the tokens of the lexicon? -/
def canBeLoose : Bool := lexicon.rules.any fun r => !r.immediate

variable (lexicon) in
/-- Are blanks skipped, because no token begins with one? -/
def skipsBlanks : Bool :=
  lexicon.beginnings.all fun threads =>
    (Thread.best threads).isNone &&
      spaces.all fun c => (threads.flatMap (Thread.step c)).isEmpty

/-- A blank is skipped, and the threads begin anew. -/
theorem ahead_space (skips : lexicon.skipsBlanks = true) (begins : threads ∈ lexicon.beginnings)
    {c : Char} (space : c ∈ spaces) :
    lexicon.ahead threads true c = some (lexicon.startsAfterBlank, true, true) := by
  have checked := List.all_eq_true.mp skips threads begins
  rw [Bool.and_eq_true] at checked
  have still : threads.flatMap (Thread.step c) = [] :=
    List.isEmpty_iff.mp (List.all_eq_true.mp checked.2 c space)
  have blank : blanks.contains c = true :=
    List.all_eq_true.mp (show spaces.all blanks.contains = true by decide) c space
  rw [ahead, still, blank, Option.isNone_iff_eq_none.mp checked.1]
  rfl

/-- Blanks are skipped, and then a token may begin. -/
theorem followFrom_blanks (skips : lexicon.skipsBlanks = true)
    (begins : threads ∈ lexicon.beginnings) {blank rest : List Char}
    (space : ∀ c ∈ blank, c ∈ spaces) {cursor : Cursor} (text : cursor.rest = blank ++ rest) :
    ∃ threads' ∈ lexicon.beginnings,
      lexicon.followFrom threads true true cursor none cursor =
        lexicon.followFrom threads' true true (cursor.behind blank rest) none
          (cursor.behind blank rest) := by
  induction blank generalizing threads cursor with
  | nil =>
    refine ⟨threads, begins, ?_⟩
    rw [Cursor.behind_nil, ← text.trans (List.nil_append rest)]
  | cons c blank ih =>
    have none : Thread.best threads = none := by
      have checked := List.all_eq_true.mp skips threads begins
      rw [Bool.and_eq_true] at checked
      exact Option.isNone_iff_eq_none.mp checked.1
    obtain ⟨threads', begins', same⟩ := ih
      (show lexicon.startsAfterBlank ∈ _ from List.mem_cons_of_mem _ List.mem_cons_self)
      (fun d mem => space d (List.mem_cons_of_mem _ mem))
      (show (cursor.past c (blank ++ rest)).rest = blank ++ rest from rfl)
    refine ⟨threads', begins', ?_⟩
    rw [Cursor.behind_cons, ← same,
      followFrom_of_some text (ahead_space skips begins (space c List.mem_cons_self)), lastFound, none]
    rfl

theorem skipMark_of_peek {cursor : Cursor} (peek : cursor.peek ≠ some '\ufeff') :
    skipMark cursor = cursor := by
  rw [skipMark, if_neg]
  rintro mark
  rw [Bool.and_eq_true, beq_iff_eq] at mark
  exact peek mark.2

/-- No byte order mark comes if neither a blank nor what follows is one. -/
theorem peek_ne_mark {blank rest : List Char} (space : ∀ c ∈ blank, c ∈ spaces)
    (noMark : rest.head? ≠ some '\ufeff') {cursor : Cursor} (text : cursor.rest = blank ++ rest) :
    cursor.peek ≠ some '\ufeff' := by
  rw [Cursor.peek, text]
  cases blank with
  | nil => exact noMark
  | cons c blank =>
    have noSpace : '\ufeff' ∉ spaces := by decide +kernel
    intro same
    exact noSpace (Option.some.inj same ▸ space c List.mem_cons_self)

/-- What is read behind some blanks. -/
theorem read_behind (canBeLoose : lexicon.canBeLoose = true) {blank rest : List Char}
    (skips : blank ≠ [] → lexicon.skipsBlanks = true) (space : ∀ c ∈ blank, c ∈ spaces)
    (noMark : rest.head? ≠ some '\ufeff') {cursor : Cursor} (text : cursor.rest = blank ++ rest) :
    ∃ threads ∈ lexicon.beginnings, lexicon.read cursor =
      lexicon.followFrom threads true true (cursor.behind blank rest) none
        (cursor.behind blank rest) := by
  have unfolded : lexicon.read cursor =
      lexicon.followFrom lexicon.starts true true cursor none cursor := by
    rw [read, skipMark_of_peek (peek_ne_mark space noMark text),
      show (lexicon.rules.any fun r => !r.immediate) = true from canBeLoose]
    rfl
  rw [unfolded]
  cases blank with
  | nil =>
    refine ⟨lexicon.starts, List.mem_cons_self, ?_⟩
    rw [Cursor.behind_nil, ← text.trans (List.nil_append rest)]
  | cons c blank =>
    exact followFrom_blanks (skips (List.cons_ne_nil _ _)) List.mem_cons_self space text

/-! ### Classes of characters -/

variable (lexicon) in
/-- Do the threads carry on over the characters `inside`, whichever come, always with a token
of one symbol complete, and stop before the characters `enders`? -/
def carries (inside enders : List (Char × Char)) (symbol : Symbol) : Nat → List Thread → Bool
  | 0, _ => false
  | fuel + 1, threads =>
    (Thread.best threads).map Rule.symbol == some symbol && lexicon.stopsBefore threads enders &&
      inside.all fun range => uniform threads range &&
        match lexicon.ahead threads false range.1 with
        | some (threads', false, false) =>
          threads' == threads || carries inside enders symbol fuel threads'
        | _ => false

/-- The outcome of reading up to the end of a token. -/
structure Ends (reading : Reading) (start : Cursor) (symbol : Symbol) (stop : Cursor) : Prop where
  start : reading.start = start
  found : reading.found = some (symbol, stop)

variable {inside enders : List (Char × Char)} {symbol : Symbol}

/-- Where a token is complete and nothing goes on, it ends. -/
theorem ends_followFrom {cursor : Cursor} (best : (Thread.best threads).map Rule.symbol = some symbol)
    (stops : lexicon.stopsBefore threads enders = true) (next : Follows cursor.rest enders) :
    Ends (lexicon.followFrom threads false false start found cursor) start symbol cursor := by
  obtain ⟨r, bestRule, rfl⟩ := Option.map_eq_some_iff.mp best
  cases text : cursor.rest with
  | nil =>
    obtain ⟨chars, offset, row⟩ := cursor
    obtain rfl : chars = [] := text
    rw [followFrom, follow, Bool.and_false, bestRule]
    exact ⟨rfl, rfl⟩
  | cons c chars =>
    have stop := ahead_of_stopsBefore stops (next c (by rw [text]; rfl))
    rw [followFrom_of_none text stop, lastFound, bestRule]
    exact ⟨rfl, rfl⟩

/-- A token goes on over characters of the class and ends behind them.  By induction on them; `fuel`
bounds how many sets of threads there are, not how many characters. -/
theorem carries_ends {fuel : Nat}
    (carries : lexicon.carries inside enders symbol fuel threads = true) {chars rest : List Char}
    (all : ∀ c ∈ chars, CharSet.inRanges c inside = true) (next : Follows rest enders)
    {cursor : Cursor} (text : cursor.rest = chars ++ rest) :
    Ends (lexicon.followFrom threads false false start found cursor) start symbol
      (cursor.behind chars rest) := by
  -- on the characters; the check was made once for each range of them that reads alike
  induction chars generalizing threads fuel found cursor with
  | nil =>
    cases fuel with
    | zero => cases carries
    | succ fuel =>
      rw [Lexicon.carries, Bool.and_eq_true, Bool.and_eq_true, beq_iff_eq] at carries
      have text' : cursor.rest = rest := text
      rw [Cursor.behind_nil, ← text']
      exact ends_followFrom carries.1.1 carries.1.2 (text' ▸ next)
  | cons c chars ih =>
    cases fuel with
    | zero => cases carries
    | succ fuel =>
      have whole := carries
      rw [Lexicon.carries, Bool.and_eq_true, Bool.and_eq_true] at carries
      obtain ⟨range, inRange, above, below⟩ := exists_range (all c List.mem_cons_self)
      have moves := List.all_eq_true.mp carries.2 range inRange
      rw [Bool.and_eq_true] at moves
      obtain ⟨uniform, moves⟩ := moves
      rw [← ahead_of_uniform uniform above below] at moves
      split at moves
      · next threads' ahead =>
        obtain ⟨fuel', carries'⟩ :
            ∃ fuel, lexicon.carries inside enders symbol fuel threads' = true := by
          rw [Bool.or_eq_true, beq_iff_eq] at moves
          -- the threads stay the same within the run, or the check goes on with those they become
          rcases moves with rfl | later
          · exact ⟨_, whole⟩
          · exact ⟨_, later⟩
        rw [followFrom_of_some text ahead]
        exact ih carries' (fun d mem => all d (List.mem_cons_of_mem _ mem))
          (show (cursor.past c (chars ++ rest)).rest = chars ++ rest from rfl)
      · cases moves

variable (lexicon) in
/-- Does the lexicon read a character of `first` and any number of characters `inside`, up to
one of `enders`, as one token? -/
def readsClass (first inside enders : List (Char × Char)) (symbol : Symbol) : Bool :=
  lexicon.canBeLoose && !CharSet.inRanges '\ufeff' first && lexicon.beginnings.all fun threads =>
    first.all fun range => uniform threads range &&
      match lexicon.ahead threads true range.1 with
      | some (threads', false, false) => lexicon.carries inside enders symbol 3 threads'
      | _ => false

/-- **A token of any characters of a class**, of which the first may be restricted further.  Names
and numerals are such tokens, and the text of an element. -/
theorem munches_class {first : List (Char × Char)}
    (reads : lexicon.readsClass first inside enders symbol = true) {blank : List Char}
    (skips : blank ≠ [] → lexicon.skipsBlanks = true) (space : ∀ c ∈ blank, c ∈ spaces)
    {c : Char} {chars rest : List Char} (begins : CharSet.inRanges c first = true)
    (all : ∀ d ∈ chars, CharSet.inRanges d inside = true) (next : Follows rest enders)
    {cursor : Cursor} (text : cursor.rest = blank ++ (c :: chars ++ rest)) :
    lexicon.Munches cursor symbol blank (c :: chars) rest := by
  rw [readsClass, Bool.and_eq_true, Bool.and_eq_true, Bool.not_eq_true'] at reads
  have noMark : (c :: chars ++ rest).head? ≠ some '\ufeff' := by
    intro head
    rw [Option.some.inj head, reads.1.2] at begins
    cases begins
  obtain ⟨threads, mem, same⟩ := read_behind reads.1.1 skips space noMark text
  obtain ⟨range, inRange, above, below⟩ := exists_range begins
  have moves := List.all_eq_true.mp (List.all_eq_true.mp reads.2 threads mem) range inRange
  have here : (cursor.behind blank (c :: chars ++ rest)).rest = c :: (chars ++ rest) :=
    Cursor.behind_rest ..
  rw [Bool.and_eq_true] at moves
  obtain ⟨uniform, moves⟩ := moves
  rw [← ahead_of_uniform uniform above below] at moves
  split at moves
  · next threads' ahead =>
    rw [followFrom_of_some here ahead] at same
    have ends : Ends (lexicon.read cursor) (cursor.behind blank (c :: chars ++ rest)) symbol
        (((cursor.behind blank (c :: chars ++ rest)).past c (chars ++ rest)).behind chars rest) := by
      rw [same]
      exact carries_ends moves all next rfl
    exact ⟨ends.start, ends.found⟩
  · cases moves

/-! ### Fixed texts -/

variable (lexicon) in
/-- The threads behind some characters, none of them skipped. -/
def run (threads : List Thread) (loose : Bool) : List Char → Option (List Thread)
  | [] => if loose then none else some threads
  | c :: chars =>
    match lexicon.ahead threads loose c with
    | some (threads', false, false) => run threads' false chars
    | _ => none

/-- Reading goes on behind some characters with the threads that they lead to. -/
theorem followFrom_run {threads' : List Thread} {chars rest : List Char}
    (runs : lexicon.run threads loose chars = some threads') {cursor : Cursor}
    (text : cursor.rest = chars ++ rest) (fresh : loose = false → onlyBlanks = false) :
    ∃ found', lexicon.followFrom threads loose onlyBlanks start found cursor =
      lexicon.followFrom threads' false false start found' (cursor.behind chars rest) := by
  induction chars generalizing threads loose onlyBlanks found cursor with
  | nil =>
    rw [run] at runs
    split at runs
    · cases runs
    · next tight =>
      rw [Bool.not_eq_true] at tight
      cases runs
      have text' : cursor.rest = rest := text
      exact ⟨found, by rw [Cursor.behind_nil, ← text', tight, fresh tight]⟩
  | cons c chars ih =>
    rw [run] at runs
    split at runs
    · next threads'' ahead =>
      rw [followFrom_of_some text ahead]
      exact ih runs (show (cursor.past c (chars ++ rest)).rest = chars ++ rest from rfl)
        fun _ => Bool.and_false onlyBlanks
    · cases runs

variable (lexicon) in
/-- Does the lexicon read a fixed text as one token, if one of `enders` follows or nothing? -/
def readsFixed (chars : List Char) (symbol : Symbol) (enders : List (Char × Char)) : Bool :=
  lexicon.canBeLoose && chars.head? != some '\ufeff' && lexicon.beginnings.all fun threads =>
    match lexicon.run threads true chars with
    | some threads' =>
      (Thread.best threads').map Rule.symbol == some symbol && lexicon.stopsBefore threads' enders
    | none => false

/-- The threads behind a fixed text. -/
theorem read_fixed {chars : List Char}
    (reads : lexicon.readsFixed chars symbol enders = true) {blank rest : List Char}
    (skips : blank ≠ [] → lexicon.skipsBlanks = true) (space : ∀ c ∈ blank, c ∈ spaces)
    {cursor : Cursor} (text : cursor.rest = blank ++ (chars ++ rest)) :
    ∃ threads ∈ lexicon.beginnings, ∃ threads', lexicon.run threads true chars = some threads' ∧
      (Thread.best threads').map Rule.symbol = some symbol ∧
      lexicon.stopsBefore threads' enders = true ∧
      ∃ found, lexicon.read cursor =
        lexicon.followFrom threads' false false (cursor.behind blank (chars ++ rest)) found
          ((cursor.behind blank (chars ++ rest)).behind chars rest) := by
  rw [readsFixed, Bool.and_eq_true, Bool.and_eq_true, bne_iff_ne] at reads
  have checked := List.all_eq_true.mp reads.2
  have noMark : (chars ++ rest).head? ≠ some '\ufeff' := by
    cases chars with
    | nil => cases checked lexicon.starts List.mem_cons_self
    | cons c chars => exact reads.1.2
  obtain ⟨threads, mem, same⟩ := read_behind reads.1.1 skips space noMark text
  have moves := checked threads mem
  split at moves
  · next threads' runs =>
    rw [Bool.and_eq_true, beq_iff_eq] at moves
    rw [same]
    exact ⟨threads, mem, threads', runs, moves.1, moves.2,
      followFrom_run runs (Cursor.behind_rest cursor blank (chars ++ rest))
        fun loose => absurd loose Bool.noConfusion⟩
  · cases moves

/-- **A fixed text**, if what follows does not go on with it.  Signs are such tokens. -/
theorem munches_fixed {chars : List Char}
    (reads : lexicon.readsFixed chars symbol enders = true) {blank rest : List Char}
    (skips : blank ≠ [] → lexicon.skipsBlanks = true) (space : ∀ c ∈ blank, c ∈ spaces)
    (next : Follows rest enders) {cursor : Cursor} (text : cursor.rest = blank ++ (chars ++ rest)) :
    lexicon.Munches cursor symbol blank chars rest := by
  obtain ⟨threads, -, threads', -, best, stops, found, same⟩ := read_fixed reads skips space text
  have ends : Ends (lexicon.read cursor) (cursor.behind blank (chars ++ rest)) symbol
      ((cursor.behind blank (chars ++ rest)).behind chars rest) := by
    rw [same]
    exact ends_followFrom best stops (by rw [Cursor.behind_rest]; exact next)
  exact ⟨ends.start, ends.found⟩

/-! ### A longer text that does not come -/

theorem best_literal {rule : Rule} {c : Char} {chars : List Char} :
    Thread.best [⟨rule, .literal (c :: chars)⟩] = none := rfl

/-- A fixed text that has begun, but does not come, leaves what was found before.  By induction on
what comes. -/
theorem ends_literal {rule : Rule} {c : Char} {chars : List Char} {symbol : Symbol}
    {stop cursor : Cursor}
    (differs : ¬ c :: chars <+: cursor.rest) :
    Ends (lexicon.followFrom [⟨rule, .literal (c :: chars)⟩] false false start
      (some (symbol, stop)) cursor) start symbol stop := by
  induction chars generalizing c cursor with
  | nil =>
    cases text : cursor.rest with
    | nil =>
      obtain ⟨rest, offset, row⟩ := cursor
      obtain rfl : rest = [] := text
      rw [followFrom, follow, Bool.and_false]
      exact ⟨rfl, rfl⟩
    | cons d rest =>
      have other : d ≠ c := by
        rintro rfl
        exact differs ⟨rest, by rw [text]; rfl⟩
      have stops : lexicon.ahead [⟨rule, .literal [c]⟩] false d = none := by
        simp [ahead, Thread.step, Pattern.step, other]
      rw [followFrom_of_none text stops]
      exact ⟨rfl, rfl⟩
  | cons e chars ih =>
    cases text : cursor.rest with
    | nil =>
      obtain ⟨rest, offset, row⟩ := cursor
      obtain rfl : rest = [] := text
      rw [followFrom, follow, Bool.and_false]
      exact ⟨rfl, rfl⟩
    | cons d rest =>
      by_cases same : d = c
      · subst same
        have goes : lexicon.ahead [⟨rule, .literal (d :: e :: chars)⟩] false d =
            some ([⟨rule, .literal (e :: chars)⟩], false, false) := by
          simp [ahead, Thread.step, Pattern.step, goesOn, best_literal, Thread.dedupe]
        rw [followFrom_of_some text goes]
        refine ih fun begins => differs ?_
        rw [text]
        exact List.cons_prefix_cons.mpr ⟨rfl, begins⟩
      · have stops : lexicon.ahead [⟨rule, .literal (c :: e :: chars)⟩] false d = none := by
          simp [ahead, Thread.step, Pattern.step, same]
        rw [followFrom_of_none text stops]
        exact ⟨rfl, rfl⟩

variable (lexicon) in
/-- Is there, behind a fixed text and the first character of a longer one, nothing else to be
read than the rest of the longer one? -/
def leadsTo (chars : List Char) (c d : Char) (longer : List Char) : Bool :=
  lexicon.beginnings.all fun threads =>
    match lexicon.run threads true chars with
    | some threads' =>
      match lexicon.ahead threads' false c with
      | some ([⟨_, .literal left⟩], false, false) => left == d :: longer
      | _ => false
    | none => false

/-- **A fixed text that begins a longer one**, when the longer one does not come.  Both are read up
to where they differ, and the shorter one is taken. -/
theorem munches_shorter {chars : List Char}
    (reads : lexicon.readsFixed chars symbol enders = true) {c d : Char} {longer : List Char}
    (leads : lexicon.leadsTo chars c d longer = true) {blank rest : List Char}
    (skips : blank ≠ [] → lexicon.skipsBlanks = true) (space : ∀ c ∈ blank, c ∈ spaces)
    (differs : ¬ d :: longer <+: rest) {cursor : Cursor}
    (text : cursor.rest = blank ++ (chars ++ c :: rest)) :
    lexicon.Munches cursor symbol blank chars (c :: rest) := by
  obtain ⟨threads, mem, threads', runs, best, -, found, same⟩ := read_fixed reads skips space text
  obtain ⟨r, bestRule, rfl⟩ := Option.map_eq_some_iff.mp best
  have moves := List.all_eq_true.mp leads threads mem
  rw [runs] at moves
  dsimp only at moves
  split at moves
  · next rule left ahead =>
    obtain rfl := beq_iff_eq.mp moves
    rw [followFrom_of_some (Cursor.behind_rest ..) ahead, lastFound, bestRule] at same
    have ends : Ends (lexicon.read cursor) (cursor.behind blank (chars ++ c :: rest)) r.symbol
        ((cursor.behind blank (chars ++ c :: rest)).behind chars (c :: rest)) := by
      rw [same]
      exact ends_literal differs
    exact ⟨ends.start, ends.found⟩
  · cases moves

/-! ### The end -/

/-- **The end of the text**, where the lexicon accepts it.  There are no blanks before it here: they
would have been read with the token before. -/
theorem munches_end (ends : lexicon.acceptsEnd = true) {cursor : Cursor} (text : cursor.rest = []) :
    lexicon.Munches cursor 0 [] [] [] := by
  obtain ⟨rest, offset, row⟩ := cursor
  obtain rfl : rest = [] := text
  have whole : lexicon.read ⟨[], offset, row⟩ =
      ⟨⟨[], offset, row⟩, ⟨[], offset, row⟩, some (0, ⟨[], offset, row⟩)⟩ := by
    rw [read, skipMark_of_peek (by rintro ⟨⟩)]
    dsimp only
    rw [follow, ends]
    rfl
  exact ⟨congrArg Reading.start whole, congrArg Reading.found whole⟩

end JsxDetect.Token.Lexicon
