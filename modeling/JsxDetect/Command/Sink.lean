import JsxDetect.Text.Utf8

/-!
# Sinks

What is written goes to sinks that may become full.  A text comes in pieces; a piece is offered as
often as some of it is taken, and as soon as nothing of it is, nothing more is written.

## Main Definitions

* `Sink`, `Sink.accept`, `Sink.fits`
* `Writer`, `Writer.write`, `Writer.writeAll`, `Writer.writePieces`
* `Sink.print`: the pieces of a text, from the beginning

## Main Results

* `Writer.writePieces_eq`: what is taken does not depend on how a text is cut into pieces
-/

namespace JsxDetect

/-- Something to write to. -/
structure Sink where
  /-- How many bytes it takes, if not any number. -/
  capacity : Option Nat
  deriving Repr, DecidableEq

namespace Sink

/-- A sink that never becomes full. -/
def unlimited : Sink := ⟨none⟩

/-- What a sink takes of some bytes. -/
def accept (sink : Sink) (bytes : Bytes) : Bytes :=
  match sink.capacity with
  | none => bytes
  | some capacity => bytes.take capacity

/-- Does a sink take all of some bytes? -/
def fits (sink : Sink) (bytes : Bytes) : Bool := sink.capacity.all (bytes.length ≤ ·)

/-- A sink that has taken so many bytes. -/
def spend (sink : Sink) (count : Nat) : Sink := ⟨sink.capacity.map (· - count)⟩

/-- Why a sink takes no more. -/
def refusal : String := "writer is full"

@[simp] theorem accept_nil (sink : Sink) : sink.accept [] = [] := by
  rw [accept]
  split
  · rfl
  · exact List.take_nil

@[simp] theorem accept_accept (sink : Sink) (bytes : Bytes) :
    sink.accept (sink.accept bytes) = sink.accept bytes := by
  obtain ⟨capacity⟩ := sink
  cases capacity with
  | none => rfl
  | some capacity => exact (List.take_take ..).trans (by rw [Nat.min_self]; rfl)

theorem accept_prefix (sink : Sink) (bytes : Bytes) : sink.accept bytes <+: bytes := by
  rw [accept]
  split
  · exact List.prefix_rfl
  · exact List.take_prefix _ _

@[simp] theorem spend_zero (sink : Sink) : sink.spend 0 = sink := by
  obtain ⟨capacity⟩ := sink
  cases capacity <;> rfl

@[simp] theorem spend_spend (sink : Sink) (first second : Nat) :
    (sink.spend first).spend second = sink.spend (first + second) := by
  obtain ⟨capacity⟩ := sink
  cases capacity with
  | none => rfl
  | some capacity => simp [spend, Nat.sub_sub]

theorem fits_iff (sink : Sink) (bytes : Bytes) :
    sink.fits bytes = true ↔ sink.accept bytes = bytes := by
  obtain ⟨capacity⟩ := sink
  cases capacity with
  | none => exact ⟨fun _ => rfl, fun _ => rfl⟩
  | some capacity =>
    refine ⟨fun fits => List.take_of_length_le (of_decide_eq_true fits), fun whole => ?_⟩
    have length := congrArg List.length whole
    rw [accept, List.length_take] at length
    exact decide_eq_true (by omega)

/-- Of two pieces, the second is taken by what is left behind the first. -/
theorem accept_append (sink : Sink) (first second : Bytes) :
    sink.accept (first ++ second) =
      sink.accept first ++ (sink.spend first.length).accept second := by
  obtain ⟨capacity⟩ := sink
  cases capacity with
  | none => rfl
  | some capacity => exact List.take_append

/-- Behind bytes that are not all taken nothing is. -/
theorem accept_spend (sink : Sink) {first : Bytes} (full : sink.fits first = false)
    (second : Bytes) : (sink.spend first.length).accept second = [] := by
  obtain ⟨capacity⟩ := sink
  cases capacity with
  | none => cases full
  | some capacity =>
    have short : ¬first.length ≤ capacity := of_decide_eq_false full
    have empty : capacity - first.length = 0 := by omega
    simp only [spend, Option.map_some, accept, empty, List.take_zero]

/-- Of two pieces, the second is only taken if the first is. -/
theorem fits_append (sink : Sink) (first second : Bytes) :
    sink.fits (first ++ second) =
      (sink.fits first && (sink.spend first.length).fits second) := by
  obtain ⟨capacity⟩ := sink
  cases capacity with
  | none => rfl
  | some capacity =>
    have both : first.length + second.length ≤ capacity ↔
        first.length ≤ capacity ∧ second.length ≤ capacity - first.length := by omega
    simp only [fits, spend, Option.map_some, Option.all_some, List.length_append, both,
      Bool.decide_and]

end Sink

/-! ### Writing -/

/-- A sink that is being written to. -/
structure Writer where
  /-- What it has taken. -/
  taken : Bytes
  /-- What it still takes. -/
  left : Sink
  deriving Repr, DecidableEq

namespace Writer

/-- Offers some bytes: as many as there is room for are taken, and their number is told.  If there
is no room at all, the offer is refused. -/
def write (w : Writer) (bytes : Bytes) : Option (Nat × Writer) :=
  let part := w.left.accept bytes
  if part.isEmpty && !bytes.isEmpty then none
  else some (part.length, ⟨w.taken ++ part, w.left.spend part.length⟩)

theorem write_pos {w next : Writer} {bytes : Bytes} {count : Nat}
    (written : w.write bytes = some (count, next)) (nonempty : bytes.isEmpty = false) : 0 < count := by
  simp only [write, nonempty, Bool.not_false, Bool.and_true] at written
  split at written
  · cases written
  · next taken =>
    cases written
    exact List.length_pos_iff.mpr fun none => taken (List.isEmpty_iff.mpr none)

/-- Offers all of some bytes: what was not taken is offered again.  Tells whether all was taken. -/
def writeAll (w : Writer) (bytes : Bytes) : Writer × Bool :=
  match _nonempty : bytes.isEmpty with
  | true => (w, true)
  | false =>
    match _written : w.write bytes with
    | none => (w, false)
    | some (count, next) => next.writeAll (bytes.drop count)
termination_by bytes.length
decreasing_by
  have := write_pos _written _nonempty
  have : 0 < bytes.length := List.length_pos_iff.mpr fun none => by simp [none] at _nonempty
  rw [List.length_drop]
  omega

/-- Offers pieces one after the other, up to the first that is not taken as a whole.  Tells whether
all were taken. -/
def writePieces (w : Writer) : List Bytes → Writer × Bool
  | [] => (w, true)
  | piece :: pieces =>
    match w.writeAll piece with
    | (next, true) => next.writePieces pieces
    | (next, false) => (next, false)

/-- **All that fits of some bytes is taken**, in one go or in several. -/
theorem writeAll_eq (w : Writer) (bytes : Bytes) :
    w.writeAll bytes =
      (⟨w.taken ++ w.left.accept bytes, w.left.spend (w.left.accept bytes).length⟩,
        w.left.fits bytes) := by
  fun_induction writeAll w bytes with
  | case1 w bytes empty =>
    rw [List.isEmpty_iff.mp empty, (w.left.fits_iff []).mpr w.left.accept_nil]
    simp
  | case2 w bytes nonempty refused =>
    -- no room is left, and there is something to write
    have nothing : w.left.accept bytes = [] := by
      simp only [write, nonempty, Bool.not_false, Bool.and_true] at refused
      split at refused
      · next none => exact List.isEmpty_iff.mp none
      · cases refused
    have full : w.left.fits bytes = false := by
      rw [← Bool.not_eq_true, Sink.fits_iff, nothing]
      rintro rfl
      cases nonempty
    rw [nothing, full]
    simp
  | case3 w bytes nonempty count next written ih =>
    -- what is taken and what is offered again make up all of the bytes
    have taken : count = (w.left.accept bytes).length ∧
        next = ⟨w.taken ++ w.left.accept bytes, w.left.spend count⟩ := by
      simp only [write, nonempty, Bool.not_false, Bool.and_true] at written
      split at written
      · cases written
      · cases written
        exact ⟨rfl, rfl⟩
    obtain ⟨rfl, rfl⟩ := taken
    have whole : w.left.accept bytes ++ bytes.drop (w.left.accept bytes).length = bytes :=
      List.prefix_iff_eq_append.mp (w.left.accept_prefix bytes)
    have part : w.left.fits (w.left.accept bytes) = true :=
      (w.left.fits_iff _).mpr (w.left.accept_accept bytes)
    have accepted := w.left.accept_append (w.left.accept bytes)
      (bytes.drop (w.left.accept bytes).length)
    have fitting := w.left.fits_append (w.left.accept bytes)
      (bytes.drop (w.left.accept bytes).length)
    rw [whole, Sink.accept_accept] at accepted
    rw [whole, part, Bool.true_and] at fitting
    rw [ih, ← fitting, List.append_assoc, ← accepted, Sink.spend_spend, ← List.length_append, ← accepted]

/-- **What is taken does not depend on how a text is cut into pieces.** -/
theorem writePieces_eq (w : Writer) (pieces : List Bytes) :
    (w.writePieces pieces).1.taken = w.taken ++ w.left.accept pieces.flatten ∧
      (w.writePieces pieces).2 = w.left.fits pieces.flatten := by
  induction pieces generalizing w with
  | nil =>
    have nothing := w.left.accept_nil
    refine ⟨?_, ((w.left.fits_iff []).mpr nothing).symm⟩
    rw [List.flatten_nil, nothing, List.append_nil]
    rfl
  | cons piece pieces ih =>
    rw [writePieces, writeAll_eq, List.flatten_cons, Sink.accept_append, Sink.fits_append]
    cases fits : w.left.fits piece with
    | true =>
      have all := (w.left.fits_iff piece).mp fits
      rw [Bool.true_and, all, ← List.append_assoc]
      exact ih _
    | false =>
      rw [Bool.false_and, w.left.accept_spend fits, List.append_nil]
      exact ⟨rfl, rfl⟩

end Writer

/-- Writes the pieces of a text: what is taken of them, and whether that is all. -/
def Sink.print (sink : Sink) (pieces : List (List Char)) : Bytes × Bool :=
  let written := (Writer.mk [] sink).writePieces (pieces.map Utf8.encode)
  (written.1.taken, written.2)

/-- Printing takes of the text what fits. -/
theorem Sink.print_eq (sink : Sink) (pieces : List (List Char)) :
    sink.print pieces =
      (sink.accept (Utf8.encode pieces.flatten), sink.fits (Utf8.encode pieces.flatten)) := by
  have text : Utf8.encode pieces.flatten = (pieces.map Utf8.encode).flatten := by
    induction pieces with
    | nil => rfl
    | cons piece pieces ih =>
      rw [List.map_cons, List.flatten_cons, List.flatten_cons, ← ih]
      exact List.flatMap_append
  have written := (Writer.mk [] sink).writePieces_eq (pieces.map Utf8.encode)
  rw [← text, List.nil_append] at written
  exact Prod.ext written.1 written.2

end JsxDetect
