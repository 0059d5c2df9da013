import JsxDetect.Text.Cursor

/-!
# Places of one text

A place reaches another one if the characters between the two are those that the text has there.
Whatever is read from a text ends at a place that the beginning reaches.

## Main Definitions

* `Cursor.behind`: the place behind some characters
* `Cursor.Reaches`: one place lies before another one of the same text

## Main Results

* `Cursor.Reaches.trans`, `Cursor.reaches_next`, `Cursor.reaches_skipWhile`

## Design Notes

A place is an offset, a row and the text that is left.  Moving over characters changes all three,
and what is proved of a reader is that it only moves, `Reaches`.  The relation determines the offset
and the row from the characters in between, so two places of one text with the same rest are equal.
`behind` takes the rest as an argument, in order that the characters read can be named without a
subtraction of lists.
-/

namespace JsxDetect.Cursor

/-- The place behind some characters, when `rest` follows them. -/
def behind (cursor : Cursor) : List Char → List Char → Cursor
  | [], rest => ⟨rest, cursor.offset, cursor.row⟩
  | c :: chars, rest => (cursor.past c (chars ++ rest)).behind chars rest

@[simp] theorem behind_nil (cursor : Cursor) (rest : List Char) :
    cursor.behind [] rest = ⟨rest, cursor.offset, cursor.row⟩ := rfl

theorem behind_cons (cursor : Cursor) (c : Char) (chars rest : List Char) :
    cursor.behind (c :: chars) rest = (cursor.past c (chars ++ rest)).behind chars rest := rfl

@[simp] theorem behind_rest (cursor : Cursor) (chars rest : List Char) :
    (cursor.behind chars rest).rest = rest := by
  induction chars generalizing cursor with
  | nil => rfl
  | cons c chars ih => exact ih _

/-- Behind some characters and then others. -/
theorem behind_append (cursor : Cursor) (chars more rest : List Char) :
    cursor.behind (chars ++ more) rest = (cursor.behind chars (more ++ rest)).behind more rest := by
  induction chars generalizing cursor with
  | nil =>
    cases more with
    | nil => rfl
    | cons c more => rfl
  | cons c chars ih =>
    rw [List.cons_append, behind_cons, behind_cons, ih, List.append_assoc]

theorem width_pos (c : Char) : 0 < width c := by
  rw [width]
  split
  · decide
  · split
    · decide
    · split <;> decide

/-- The offset grows by one for each character at least. -/
theorem offset_le_behind (cursor : Cursor) (chars rest : List Char) :
    cursor.offset + chars.length ≤ (cursor.behind chars rest).offset := by
  induction chars generalizing cursor with
  | nil => exact Nat.le_refl _
  | cons c chars ih =>
    have later := ih (cursor.past c (chars ++ rest))
    have pos := width_pos c
    have offset : (cursor.past c (chars ++ rest)).offset = cursor.offset + width c := rfl
    rw [behind_cons, List.length_cons]
    omega

/-- The text has some characters between two places. -/
def Reaches (start stop : Cursor) : Prop :=
  ∃ chars rest, start.rest = chars ++ rest ∧ stop = start.behind chars rest

namespace Reaches

theorem refl (cursor : Cursor) : cursor.Reaches cursor := ⟨[], cursor.rest, rfl, rfl⟩

theorem trans {a b c : Cursor} (first : a.Reaches b) (second : b.Reaches c) : a.Reaches c := by
  obtain ⟨chars, rest, text, rfl⟩ := first
  obtain ⟨more, rest', text', rfl⟩ := second
  rw [behind_rest] at text'
  refine ⟨chars ++ more, rest', ?_, ?_⟩
  · rw [text, text', List.append_assoc]
  · rw [behind_append, ← text']

theorem suffix {a b : Cursor} (reaches : a.Reaches b) : b.rest <:+ a.rest := by
  obtain ⟨chars, rest, text, rfl⟩ := reaches
  rw [behind_rest]
  exact ⟨chars, text.symm⟩

end Reaches

theorem reaches_behind {cursor : Cursor} {chars rest : List Char} (text : cursor.rest = chars ++ rest) :
    cursor.Reaches (cursor.behind chars rest) :=
  ⟨chars, rest, text, rfl⟩

theorem reaches_past {rest : List Char} {offset row : Nat} (c : Char) :
    (Cursor.mk (c :: rest) offset row).Reaches
      ⟨rest, offset + width c, if c = '\n' then row + 1 else row⟩ :=
  ⟨[c], rest, rfl, rfl⟩

theorem reaches_next (cursor : Cursor) : cursor.Reaches cursor.next := by
  obtain ⟨rest, offset, row⟩ := cursor
  cases rest with
  | nil => exact .refl _
  | cons c rest => exact reaches_past c

/-- Skipping characters reaches where it stops. -/
theorem reaches_skipWhile (p : Char → Bool) (cursor : Cursor) :
    cursor.Reaches (cursor.skipWhile p) := by
  have walk : ∀ (chars : List Char) (offset row : Nat),
      (Cursor.mk chars offset row).Reaches (skipWhile.go p chars offset row) := by
    intro chars
    induction chars with
    | nil => exact fun _ _ => .refl _
    | cons c chars ih =>
      intro offset row
      rw [skipWhile.go]
      split
      · exact (reaches_past c).trans (ih _ _)
      · exact .refl _
  exact walk cursor.rest cursor.offset cursor.row

end JsxDetect.Cursor
