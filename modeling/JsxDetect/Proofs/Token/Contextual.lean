import JsxDetect.Proofs.Token.Reading
import JsxDetect.Token.Contextual

/-!
# What context-dependent tokens are

A context-dependent token ends in the text behind the place where it was looked for, and is one
of the four symbols that no rule describes.

## Main Results

* `Expected.read_sound`

## Design Notes

Context-dependent tokens are not described by rules but found by code, with several loops and early
ends.  The parser relies on little of it: that a token begins and ends in the text behind the
cursor, and that its symbol is one of the four.  Each function has one lemma for this, and the
places are compared by `Reaches`, so the lemmas compose by transitivity as the functions do by
calls.  Where a semicolon may have been left out no token is found on the way, but a place where the
question was settled, and reading may go on there; this is `SettledBehind`.
-/

namespace JsxDetect.Token

open Cursor

/-- The end of a stretch of template characters lies in the text. -/
theorem reaches_templateEnd {seen : Bool} {chars : List Char} {offset row : Nat} {stop : Cursor}
    (found : templateEnd seen chars offset row = some stop) :
    (Cursor.mk chars offset row).Reaches stop := by
  induction chars generalizing seen offset row with
  | nil => cases found
  | cons c rest ih =>
    have stays : (if seen then some (Cursor.mk (c :: rest) offset row) else none) = some stop →
        (Cursor.mk (c :: rest) offset row).Reaches stop := by
      intro here
      split at here
      · cases here
        exact .refl _
      · cases here
    rw [templateEnd] at found
    split at found
    · exact stays found
    · split at found
      · exact stays found
      · exact (reaches_past c).trans (ih found)

/-- Skipping a gap with its comments leads to a place in the text, whether or not a comment was
closed. -/
theorem reaches_skipGap (gap : Gap) (comment : Bool) (chars : List Char) (offset row : Nat) :
    (Cursor.mk chars offset row).Reaches (skipGap gap comment chars offset row).stop := by
  induction chars generalizing gap comment offset row with
  | nil => exact .refl _
  | cons c rest ih =>
    have moves (gap : Gap) (comment : Bool) := (reaches_past c).trans
      (ih gap comment (offset + width c) (if c = '\n' then row + 1 else row))
    cases gap with
    | blank =>
      rw [skipGap]
      split
      · exact moves _ _
      · split
        · exact moves _ _
        · exact .refl _
    | slash =>
      rw [skipGap]
      split
      · exact moves _ _
      · split
        · exact moves _ _
        · exact .refl _
    | line => exact moves _ _
    | block => exact moves _ _
    | star =>
      rw [skipGap]
      split
      · exact moves _ _
      · exact moves _ _

/-- The place where a question was settled lies behind the place where it was asked. -/
def Semicolon.SettledBehind (cursor : Cursor) (answer : Semicolon) : Prop :=
  ∀ settledAt comment, answer = .refused settledAt comment → cursor.Reaches settledAt

theorem Semicolon.settledBehind_inserted (cursor : Cursor) : SettledBehind cursor .inserted := by
  intro settledAt comment same
  cases same

theorem Semicolon.settledBehind_refused {cursor settledAt : Cursor} (comment : Bool)
    (reaches : cursor.Reaches settledAt) : SettledBehind cursor (.refused settledAt comment) := by
  intro settledAt' comment' same
  cases same
  exact reaches

open Semicolon

/-- Looking for a word, character by character. -/
theorem settledBehind_walk (comment : Bool) (word : List Char) (cursor : Cursor) :
    SettledBehind cursor (semicolonBeforeWord.walk comment word cursor) := by
  induction word generalizing cursor with
  | nil =>
    rw [semicolonBeforeWord.walk]
    split
    · exact settledBehind_inserted _
    · exact settledBehind_refused _ (.refl _)
  | cons c word ih =>
    rw [semicolonBeforeWord.walk]
    split
    · intro settledAt comment same
      exact (reaches_next cursor).trans (ih _ settledAt comment same)
    · exact settledBehind_inserted _

/-- Before a word it may have to be looked at as a whole. -/
theorem settledBehind_word (comment : Bool) (cursor : Cursor) :
    SettledBehind cursor (semicolonBeforeWord comment cursor) := by
  rw [semicolonBeforeWord]
  split
  · exact settledBehind_inserted _
  · dsimp only
    split
    · exact settledBehind_refused _ (reaches_next _)
    · intro settledAt comment same
      exact (reaches_next cursor).trans (settledBehind_walk _ _ _ settledAt comment same)

/-- At the end of a line the next character decides, or the word that it begins. -/
theorem settledBehind_line (expected : Expected) (gap : GapEnd) :
    SettledBehind gap.stop (semicolonBeforeLine expected gap) := by
  rw [semicolonBeforeLine]
  have here := settledBehind_refused gap.comment (Reaches.refl gap.stop)
  have next := settledBehind_refused gap.comment (reaches_next gap.stop)
  have inserted := settledBehind_inserted gap.stop
  dsimp only
  split
  · exact here
  · split
    · exact inserted
    · split
      · exact here
      · split
        · split
          · exact here
          · exact inserted
        · split
          · split
            · exact here
            · exact inserted
          · split
            · split
              · exact inserted
              · exact next
            · split
              · split
                · exact next
                · exact inserted
              · split
                · intro settledAt comment same
                  exact (reaches_next _).trans (settledBehind_word _ _ settledAt comment same)
                · exact inserted

/-- The question as a whole, for any set of tokens that are expected. -/
theorem settledBehind_semicolon (expected : Expected) (cursor : Cursor) :
    SettledBehind cursor (semicolon expected cursor) := by
  rw [semicolon]
  dsimp only
  generalize stopped : cursor.skipWhile (fun c => isSpace c && c != '\n') = stop
  have reaches : cursor.Reaches stop := stopped ▸ reaches_skipWhile _ cursor
  split
  · exact settledBehind_inserted _
  · intro settledAt comment same
    exact (reaches.trans (reaches_next _)).trans ((reaches_skipGap _ _ _ _ _).trans
      (settledBehind_line _ _ settledAt comment same))
  · split
    · exact settledBehind_refused _
        ((reaches.trans (reaches_next _)).trans (reaches_skipWhile _ _))
    · exact settledBehind_inserted _
  · exact settledBehind_refused _ reaches

/-- A context-dependent token as it is found: its place, and its symbol. -/
structure Lexeme.Sound (cursor : Cursor) (lexeme : Lexeme) : Prop where
  start : cursor.Reaches lexeme.start
  stop : cursor.Reaches lexeme.stop
  symbol : 168 ≤ lexeme.symbol ∧ lexeme.symbol ≤ 171

/-- The mark of a conditional lies in the text. -/
theorem conditionalMark_sound {cursor : Cursor} {lexeme : Lexeme}
    (found : conditionalMark cursor = some lexeme) : lexeme.Sound cursor := by
  have mark : (⟨170, cursor.skipWhile isSpace, (cursor.skipWhile isSpace).next⟩ : Lexeme).Sound cursor :=
    ⟨reaches_skipWhile _ _, (reaches_skipWhile _ _).trans (reaches_next _), Nat.le_of_ble_eq_true rfl,
      Nat.le_of_ble_eq_true rfl⟩
  rw [conditionalMark] at found
  dsimp only at found
  split at found
  · cases found
  · split at found
    · cases found
    · split at found
      · split at found
        · cases found
        · split at found
          · split at found
            · cases found
              exact mark
            · cases found
          · cases found
            exact mark
      · cases found
        exact mark

/-- A comment of markup lies in the text. -/
theorem markupComment_sound {cursor : Cursor} {lexeme : Lexeme}
    (found : markupComment cursor = some lexeme) : lexeme.Sound cursor := by
  rw [markupComment] at found
  split at found
  · cases found
    have start := reaches_skipWhile
      (fun c => isSpace c || c == '\u2028' || c == '\u2029') cursor
    refine ⟨start, ?_, Nat.le_of_ble_eq_true rfl, Nat.le_refl _⟩
    exact start.trans ((((reaches_next _).trans (reaches_next _)).trans (reaches_next _)).trans
      (reaches_skipWhile _ _))
  · cases found

/-- **A context-dependent token** lies in the text, whichever of them were expected.  Which of them
is read is left open. -/
theorem Expected.read_sound {expected : Expected} {cursor : Cursor} {lexeme : Lexeme}
    (found : expected.read cursor = some lexeme) : lexeme.Sound cursor := by
  have mark := Lexicon.reaches_skipMark cursor
  have behind {lexeme : Lexeme} {place : Cursor} (reaches : cursor.Reaches place)
      (sound : lexeme.Sound place) : lexeme.Sound cursor :=
    ⟨reaches.trans sound.start, reaches.trans sound.stop, sound.symbol⟩
  rw [Expected.read] at found
  split at found
  · split at found
    · cases found
    · obtain ⟨stop, ends, rfl⟩ := Option.map_eq_some_iff.mp found
      exact ⟨mark, mark.trans (reaches_templateEnd ends), Nat.le_of_ble_eq_true rfl,
        Nat.le_of_ble_eq_true rfl⟩
  · split at found
    · split at found
      · cases found
        exact ⟨mark, mark, Nat.le_refl _, Nat.le_of_ble_eq_true rfl⟩
      · next settledAt comment refused =>
        split at found
        · exact behind (mark.trans (settledBehind_semicolon _ _ settledAt comment refused))
            (conditionalMark_sound found)
        · cases found
    · split at found
      · exact behind mark (conditionalMark_sound found)
      · split at found
        · exact behind mark (markupComment_sound found)
        · cases found

end JsxDetect.Token
