import JsxDetect.Proofs.Text.Places
import JsxDetect.Token.Lexicon

/-!
# What is read

A token that `Lexicon.read` finds lies in the text: behind some blanks, its characters lead from
the pattern of a rule to one that accepts nothing more.

## Main Definitions

* `Pattern.Steps`: some characters lead from one pattern to another
* `Lexicon.Finds`: a token of the lexicon lies in the text

## Main Results

* `Lexicon.read_sound`: what is read lies in the text

## Design Notes

This is the soundness half of reading: it speaks of all texts and says what a token that was found
is, not which one is found.  The invariant of the loop is `Begun`, that each thread has come from
the pattern of its rule by characters that end where the loop is, with nothing but blanks before
them.  Whatever is recorded as found was complete at some moment, so `Finds` holds of it.  The
parser needs it to know that a `<` in a tree is one of the text.
-/

namespace JsxDetect.Token

/-- Some characters lead from one pattern to another. -/
inductive Pattern.Steps : Pattern → List Char → Pattern → Prop
  | nil (p : Pattern) : Steps p [] p
  | snoc {p q r : Pattern} {chars : List Char} {c : Char} (before : Steps p chars q)
      (step : r ∈ q.step c) : Steps p (chars ++ [c]) r

/-- The characters of a fixed text lead to what is left of it. -/
theorem Pattern.Steps.literal {word chars : List Char} {q : Pattern}
    (steps : Steps (literal word) chars q) : ∃ left, q = .literal left ∧ word = chars ++ left := by
  induction steps with
  | nil => exact ⟨word, rfl, rfl⟩
  | @snoc q r chars c before step ih =>
    obtain ⟨left, rfl, same⟩ := ih
    cases left with
    | nil => cases step
    | cons d left =>
      rw [Pattern.step] at step
      split at step
      · next equal =>
        obtain rfl := List.mem_singleton.mp step
        refine ⟨left, rfl, ?_⟩
        rw [same, equal, List.append_assoc]
        rfl
      · cases step

/-- A fixed text that has been read is the text. -/
theorem Pattern.Steps.literal_nullable {word chars : List Char} {q : Pattern}
    (steps : Steps (.literal word) chars q) (done : q.nullable = true) : chars = word := by
  obtain ⟨left, rfl, same⟩ := steps.literal
  cases left with
  | nil => rw [same, List.append_nil]
  | cons d left => cases done

namespace Lexicon

variable (lexicon : Lexicon) (cursor : Cursor)

/-- A token lies in the text behind some blanks; its place is known. -/
structure Finds (symbol : Symbol) (stop : Cursor) : Prop where
  reaches : cursor.Reaches stop
  /-- It is the end of the text, or the token of a rule. -/
  token : symbol = 0 ∨ ∃ rule ∈ lexicon.rules, rule.symbol = symbol ∧
    ∃ spaces body last, cursor.rest = spaces ++ body ++ stop.rest ∧
      (∀ c ∈ spaces, blanks.contains c = true) ∧ rule.pattern.Steps body last ∧
        last.nullable = true

/-- A token may have begun behind some blanks. -/
structure Begun (before : List Char) (t : Thread) : Prop where
  rule : t.rule ∈ lexicon.rules
  begun : ∃ spaces body, before = spaces ++ body ∧ (∀ c ∈ spaces, blanks.contains c = true) ∧
    t.rule.pattern.Steps body t.remaining

variable {lexicon cursor}

theorem Begun.step {before : List Char} {t u : Thread} {c : Char}
    (begun : lexicon.Begun before t) (mem : u ∈ t.step c) : lexicon.Begun (before ++ [c]) u := by
  obtain ⟨rule, spaces, body, rfl, allBlank, steps⟩ := begun
  obtain ⟨q, step, rfl⟩ := List.mem_map.mp mem
  exact ⟨rule, spaces, body ++ [c], List.append_assoc .., allBlank, steps.snoc step⟩

/-- Dropping threads that occur twice adds none. -/
theorem mem_of_mem_dedupe {t : Thread} {ts : List Thread} (mem : t ∈ Thread.dedupe ts) :
    t ∈ ts := by
  induction ts with
  | nil => cases mem
  | cons u ts ih =>
    rw [Thread.dedupe] at mem
    split at mem
    · exact List.mem_cons_of_mem _ (ih mem)
    · rcases List.mem_cons.mp mem with rfl | later
      · exact List.mem_cons_self
      · exact List.mem_cons_of_mem _ (ih later)

/-- The token taken belongs to a complete thread. -/
theorem mem_of_best {ts : List Thread} {r : Rule} (best : Thread.best ts = some r) :
    ∃ t ∈ ts, t.rule = r ∧ t.complete = true := by
  revert r
  rw [Thread.best]
  -- What was found among the first threads is the rule of one of all threads.
  refine List.foldlRecOn (motive := fun found => ∀ {r : Rule}, found = some r →
    ∃ t ∈ ts, t.rule = r ∧ t.complete = true) ts _ (fun same => by cases same) ?_
  intro found known t mem r same
  split at same
  · next complete =>
    split at same
    · split at same
      · exact known same
      · exact ⟨t, mem, Option.some.inj same, complete⟩
    · exact ⟨t, mem, Option.some.inj same, complete⟩
  · exact known same

/-- A token that is complete lies in the text. -/
theorem finds_of_best {threads : List Thread} {before rest : List Char} {r : Rule}
    (text : cursor.rest = before ++ rest) (begun : ∀ t ∈ threads, lexicon.Begun before t)
    (best : Thread.best threads = some r) :
    lexicon.Finds cursor r.symbol (cursor.behind before rest) := by
  obtain ⟨t, mem, rfl, complete⟩ := mem_of_best best
  obtain ⟨rule, spaces, body, rfl, allBlank, steps⟩ := begun t mem
  refine ⟨Cursor.reaches_behind text, .inr ⟨t.rule, rule, rfl, spaces, body, t.remaining, ?_,
    allBlank, steps, complete⟩⟩
  rw [Cursor.behind_rest]
  exact text

/-- The outcome of reading lies in the text. -/
structure Sound (lexicon : Lexicon) (cursor : Cursor) (reading : Reading) : Prop where
  start : cursor.Reaches reading.start
  reached : cursor.Reaches reading.reached
  found : ∀ symbol stop, reading.found = some (symbol, stop) → lexicon.Finds cursor symbol stop

/-- Blanks go on as long as each character is one. -/
theorem blanks_snoc {loose : Bool} {before : List Char} {c : Char}
    (spaces : loose = true → ∀ d ∈ before, blanks.contains d = true)
    (blank : (loose && blanks.contains c) = true) : ∀ d ∈ before ++ [c], blanks.contains d = true := by
  rw [Bool.and_eq_true] at blank
  intro d mem
  rcases List.mem_append.mp mem with earlier | last
  · exact spaces blank.1 d earlier
  · rw [List.mem_singleton.mp last]
    exact blank.2

/-- At a character the threads go on, and new ones begin if it is a blank. -/
theorem Begun.threads {threads : List Thread} {loose : Bool} {before : List Char} {c : Char}
    (begun : ∀ t ∈ threads, lexicon.Begun before t)
    (spaces : loose = true → ∀ d ∈ before, blanks.contains d = true) :
    ∀ t ∈ Thread.dedupe (threads.flatMap (Thread.step c)) ++
      (if (loose && blanks.contains c) = true then lexicon.startsAfterBlank else []),
        lexicon.Begun (before ++ [c]) t := by
  intro t mem
  rcases List.mem_append.mp mem with moved | fresh
  · obtain ⟨u, inside, step⟩ := List.mem_flatMap.mp (mem_of_mem_dedupe moved)
    exact (begun u inside).step step
  · split at fresh
    · next blank =>
      obtain ⟨r, inside, rfl⟩ := List.mem_map.mp fresh
      exact ⟨(List.mem_filter.mp inside).1, before ++ [c], [], (List.append_nil _).symm,
        blanks_snoc spaces blank, .nil _⟩
    · cases fresh

/-- Following the threads further keeps to the text.  By induction on the characters that are left,
over the invariant that all threads have begun and that what was found lies in the text. -/
theorem follow_sound {threads : List Thread} {loose onlyBlanks : Bool} {start : Cursor}
    {found : Option (Symbol × Cursor)} {before chars : List Char} {offset row : Nat}
    (here : Cursor.mk chars offset row = cursor.behind before chars)
    (text : cursor.rest = before ++ chars) (begun : ∀ t ∈ threads, lexicon.Begun before t)
    (spaces : loose = true → ∀ c ∈ before, blanks.contains c = true)
    (begins : cursor.Reaches start)
    (known : ∀ symbol stop, found = some (symbol, stop) → lexicon.Finds cursor symbol stop) :
    lexicon.Sound cursor (lexicon.follow threads loose onlyBlanks start found chars offset row) := by
  induction chars generalizing threads loose onlyBlanks start found before offset row with
  | nil =>
    have reached : cursor.Reaches ⟨[], offset, row⟩ := here ▸ Cursor.reaches_behind text
    rw [follow]
    refine ⟨begins, reached, fun symbol stop same => ?_⟩
    dsimp only at same
    split at same
    · cases same
      exact ⟨reached, .inl rfl⟩
    · split at same
      · next r best =>
        cases same
        rw [here]
        exact finds_of_best text begun best
      · exact known symbol stop same
  | cons c chars ih =>
    have reached : cursor.Reaches ⟨c :: chars, offset, row⟩ := here ▸ Cursor.reaches_behind text
    have after : Cursor.mk chars (offset + Cursor.width c) (if c = '\n' then row + 1 else row) =
        cursor.behind (before ++ [c]) chars := by
      rw [Cursor.behind_append, List.singleton_append, ← here]
      rfl
    have text' : cursor.rest = before ++ [c] ++ chars := by
      rw [text, List.append_assoc]
      rfl
    rw [follow]
    dsimp only
    -- What was found before this character is the token that is complete here, if there is one.
    have known' {now : Option (Symbol × Cursor)}
        (isNow : ∀ r, Thread.best threads = some r → now = some (r.symbol, ⟨c :: chars, offset, row⟩))
        (isOld : Thread.best threads = none → now = found) :
        ∀ symbol stop, now = some (symbol, stop) → lexicon.Finds cursor symbol stop := by
      intro symbol stop same
      cases best : Thread.best threads with
      | some r =>
        rw [isNow r best] at same
        cases same
        rw [here]
        exact finds_of_best text begun best
      | none =>
        rw [isOld best] at same
        exact known symbol stop same
    split
    · exact ⟨begins, reached, known' (fun r best => by rw [best]) (fun best => by rw [best])⟩
    · split
      · refine ih after text' (Begun.threads begun spaces) (blanks_snoc spaces) ?_
          (known' (fun r best => by rw [best]) (fun best => by rw [best]))
        split
        · rw [after]
          exact Cursor.reaches_behind text'
        · exact begins
      · exact ⟨begins, reached, known' (fun r best => by rw [best]) (fun best => by rw [best])⟩

/-- A byte order mark is a blank. -/
theorem skipMark_eq (cursor : Cursor) :
    ∃ mark, (∀ c ∈ mark, blanks.contains c = true) ∧ cursor.rest = mark ++ (skipMark cursor).rest ∧
      skipMark cursor = cursor.behind mark (skipMark cursor).rest := by
  have none : ∃ mark, (∀ c ∈ mark, blanks.contains c = true) ∧ cursor.rest = mark ++ cursor.rest ∧
      cursor = cursor.behind mark cursor.rest := ⟨[], by simp, rfl, rfl⟩
  rw [skipMark]
  split
  · next marked =>
    obtain ⟨rest, offset, row⟩ := cursor
    cases rest with
    | nil => exact none
    | cons c rest =>
      have mark : c = '\ufeff' := by
        simp only [Cursor.peek, List.head?_cons, Bool.and_eq_true, beq_iff_eq] at marked
        exact Option.some.inj marked.2
      refine ⟨[c], fun d mem => ?_, rfl, rfl⟩
      rw [List.mem_singleton.mp mem, mark]
      decide
  · exact none

theorem reaches_skipMark (cursor : Cursor) : cursor.Reaches (skipMark cursor) := by
  obtain ⟨mark, -, text, same⟩ := skipMark_eq cursor
  rw [same]
  exact Cursor.reaches_behind text

/-- **What is read** lies in the text, whatever the lexicon and the place.  Whether it is the
longest token is not claimed; for that see the checks on lexicons. -/
theorem read_sound (lexicon : Lexicon) (cursor : Cursor) :
    lexicon.Sound cursor (lexicon.read cursor) := by
  have begun : ∀ t ∈ lexicon.starts, lexicon.Begun [] t := by
    intro t mem
    obtain ⟨r, inside, rfl⟩ := List.mem_map.mp mem
    exact ⟨inside, [], [], rfl, by simp, .nil _⟩
  have sound : lexicon.Sound (skipMark cursor) (lexicon.read cursor) :=
    follow_sound rfl rfl begun (by simp) (.refl _) (by simp)
  have mark := reaches_skipMark cursor
  refine ⟨mark.trans sound.start, mark.trans sound.reached, fun symbol stop same => ?_⟩
  obtain ⟨reaches, token⟩ := sound.found symbol stop same
  refine ⟨mark.trans reaches, token.imp_right ?_⟩
  rintro ⟨rule, inside, symbol, spaces, body, last, text, allBlank, steps, done⟩
  obtain ⟨marks, marksBlank, textMark, -⟩ := skipMark_eq cursor
  refine ⟨rule, inside, symbol, marks ++ spaces, body, last, ?_, ?_, steps, done⟩
  · rw [textMark, text]
    simp only [List.append_assoc]
  · intro c mem
    rcases List.mem_append.mp mem with first | second
    · exact marksBlank c first
    · exact allBlank c second

end Lexicon

end JsxDetect.Token
