import Mathlib.Data.List.Infix
import Mathlib.Data.Nat.Find
import JsxDetect.Proofs.Detection.NullGuard

/-!
# What is put for ill-formed bytes

Where no character can be read, a text goes on behind the longest bytes with which a character
could have begun, or behind one byte if there are none, and these are replaced as a whole.  This
module says so without a look at the decoder (`Utf8.Substituted`) and shows that the decoder reads
any bytes in this way and in no other.

What carries the proof is that an opening of the decoder is the same as a beginning of a character
that is not the whole: each opening can be completed, so it is such a beginning, and whatever a
character begins with is left open by the decoder, since it has not yet come to the character and
never takes anything back.

## Main Definitions

* `Utf8.Convertible`, `Utf8.Initial`, `Utf8.MaximalSubpart`: where a character can be read, and
  what is replaced where none can
* `Utf8.Substituted`: the text of any bytes
* `Utf8.BeginsAnew`: bytes that go on with no character

## Main Results

* `Utf8.substituted_iff`: the decoder substitutes maximal subparts
* `Utf8.decodeLossy_append`: damage to one part of some bytes does not change the text of the rest
* `load_substitutes_subparts`: the text of a file

## Design Notes

**Two descriptions of one function.**  `Substituted` is a relation that speaks of characters and
their bytes only; the decoder is a machine with bounds.  The main lemma, `decodeLossy_subpart`, is
that the machine drops exactly a maximal subpart.  The relation is total, `exists_substituted`, by
induction on the length, so the machine is also determined by it.

**Damage.**  That the text of some bytes is the text of two parts, one after the other, holds where
the second begins anew.  `finish_foldl` is the reason: a byte that does not go on with an open
character is read as if it were the first.
-/

namespace JsxDetect

namespace Utf8

/-! ### Maximal subparts -/

/-- A character can be read at the beginning of some bytes. -/
def Convertible (bytes : Bytes) : Prop := ∃ c, encodeChar c <+: bytes

/-- The bytes of some text begin with these. -/
def Initial (part : Bytes) : Prop := ∃ text, part <+: encode text

/-- The bytes to be replaced where no character can be read: as many as the bytes of a text can
begin with, or one if there are none. -/
structure MaximalSubpart (part rest : Bytes) : Prop where
  unconvertible : ¬Convertible (part ++ rest)
  subpart : part.length = 1 ∨ part ≠ [] ∧ Initial part
  longest : ∀ longer, longer <+: part ++ rest → Initial longer → longer.length ≤ part.length

/-- The text of some bytes, with one replacement character for each maximal subpart. -/
inductive Substituted : Bytes → List Char → Prop where
  | nil : Substituted [] []
  | char {rest : Bytes} {text : List Char} (c : Char) (behind : Substituted rest text) :
      Substituted (encodeChar c ++ rest) (c :: text)
  | replaced {part rest : Bytes} {text : List Char} (subpart : MaximalSubpart part rest)
      (behind : Substituted rest text) : Substituted (part ++ rest) ('\uFFFD' :: text)

/-- Bytes that go on with no character, whatever was before them: the first of them, if there is
one, is not of the kind that continues. -/
def BeginsAnew (bytes : Bytes) : Prop :=
  ∀ byte, bytes.head? = some byte → byte.toNat < 0x80 ∨ 0xBF < byte.toNat

theorem encodeChar_ne_nil (c : Char) : encodeChar c ≠ [] := by
  rw [encodeChar]
  split
  · exact List.cons_ne_nil _ _
  · split
    · exact List.cons_ne_nil _ _
    · split <;> exact List.cons_ne_nil _ _

/-- Where no character can be read, a beginning is that of a single character. -/
theorem Initial.exists_char {part rest : Bytes} (initial : Initial part) (nonempty : part ≠ [])
    (unconvertible : ¬Convertible (part ++ rest)) :
    ∃ c more, more ≠ [] ∧ encodeChar c = part ++ more := by
  obtain ⟨text, within⟩ := initial
  cases text with
  | nil => exact absurd (List.prefix_nil.mp within) nonempty
  | cons c text =>
    have bytes : encode (c :: text) = encodeChar c ++ encode text := rfl
    rw [bytes] at within
    rcases List.prefix_or_prefix_of_prefix within (List.prefix_append _ _) with shorter | longer
    · obtain ⟨more, split⟩ := shorter
      refine ⟨c, more, ?_, split.symm⟩
      rintro rfl
      rw [List.append_nil] at split
      exact unconvertible ⟨c, by rw [← split]; exact List.prefix_append _ _⟩
    · exact absurd ⟨c, longer.trans (List.prefix_append _ _)⟩ unconvertible

theorem initial_of_char {c : Char} {part more : Bytes} (split : encodeChar c = part ++ more) :
    Initial part := by
  refine ⟨[c], more, ?_⟩
  rw [← split]
  exact (List.append_nil _).symm

/-! ### What is read stays -/

/-- The bytes of a single character. -/
theorem Cut.single {c : Char} {bytes : Bytes} (cut : Cut [some c] bytes) : encodeChar c = bytes := by
  cases cut with
  | char c before =>
    cases before
    rfl

namespace Decoder

/-- What was read before does not matter. -/
theorem step_append (done old : List (Option Char)) (o : Option Opening) (byte : UInt8) :
    step ⟨done ++ old, o⟩ byte =
      ⟨(step ⟨done, o⟩ byte).done ++ old, (step ⟨done, o⟩ byte).opening⟩ := by
  have start_append (done : List (Option Char)) : start (done ++ old) byte =
      ⟨(start done byte).done ++ old, (start done byte).opening⟩ := by
    simp only [start]
    repeat' split
    all_goals rfl
  cases o with
  | none => exact start_append done
  | some o =>
    simp only [step]
    split
    · split <;> rfl
    · exact start_append (none :: done)

theorem foldl_append (done old : List (Option Char)) (o : Option Opening) (bytes : Bytes) :
    bytes.foldl step ⟨done ++ old, o⟩ =
      ⟨(bytes.foldl step ⟨done, o⟩).done ++ old, (bytes.foldl step ⟨done, o⟩).opening⟩ := by
  induction bytes generalizing done o with
  | nil => rfl
  | cons byte bytes ih => rw [List.foldl_cons, step_append, ih, List.foldl_cons]

/-- What was read is still there after more bytes. -/
theorem done_suffix_foldl (d : Decoder) (bytes : Bytes) : d.done <:+ (bytes.foldl step d).done := by
  have split := foldl_append [] d.done d.opening bytes
  rw [List.nil_append] at split
  rw [split]
  exact List.suffix_append _ _

/-- A byte goes on with the character that is being read. -/
def GoesOn (d : Decoder) (byte : UInt8) : Prop :=
  ∃ o, d.opening = some o ∧ o.low ≤ byte.toNat ∧ byte.toNat ≤ o.high

/-- Bytes that do not go on with a character are read as if they were all there is. -/
theorem finish_foldl {d : Decoder} {bytes : Bytes}
    (anew : ∀ byte, bytes.head? = some byte → ¬d.GoesOn byte) :
    (bytes.foldl step d).finish = d.finish ++ parts bytes := by
  have between (done : List (Option Char)) :
      (bytes.foldl step ⟨done, none⟩).finish = done.reverse ++ parts bytes := by
    have split := foldl_append [] done none bytes
    rw [List.nil_append] at split
    rw [split, parts]
    generalize bytes.foldl step ⟨[], none⟩ = last
    obtain ⟨found, opening⟩ := last
    cases opening with
    | none => exact List.reverse_append
    | some o =>
      show ((none :: found) ++ done).reverse = done.reverse ++ (none :: found).reverse
      exact List.reverse_append
  obtain ⟨done, opening⟩ := d
  cases opening with
  | none => exact between done
  | some o =>
    cases bytes with
    | nil => exact (List.append_nil _).symm
    | cons byte bytes =>
      have ends : step ⟨done, some o⟩ byte = step ⟨none :: done, none⟩ byte :=
        if_neg fun goesOn => anew byte rfl ⟨o, rfl, goesOn⟩
      rw [List.foldl_cons, ends, ← List.foldl_cons]
      exact between (none :: done)

/-! ### Openings -/

/-- The bytes of an opening, if nothing was read before. -/
theorem Read.opened {o : Opening} {bytes : Bytes} (read : Read ⟨[], some o⟩ bytes) :
    o.Opened bytes := by
  cases read with
  | within before opened =>
    cases before
    exact opened

/-- The bytes of a character, if nothing was read before it. -/
theorem Read.single {c : Char} {bytes : Bytes} (read : Read ⟨[some c], none⟩ bytes) :
    encodeChar c = bytes := by
  cases read with
  | between before => exact before.single

/-- Where a character was found, and nothing before it, the bytes are at least its bytes. -/
theorem Read.char_prefix {c : Char} {opening : Option Opening} {bytes : Bytes}
    (read : Read ⟨[some c], opening⟩ bytes) : encodeChar c <+: bytes := by
  cases read with
  | between before => rw [before.single]
  | within before opened =>
    rw [before.single]
    exact List.prefix_append _ _

end Decoder

namespace Opening

open Decoder

theorem Opened.read {o : Opening} {part : Bytes} (opened : o.Opened part) :
    Read ⟨[], some o⟩ part := by
  rw [← List.nil_append part]
  exact .within .nil opened

/-- The bytes that go on with a character are never such that a character may begin with them. -/
theorem Opened.bounds {o : Opening} {part : Bytes} (opened : o.Opened part) :
    0x80 ≤ o.low ∧ o.low ≤ o.high ∧ o.high ≤ 0xBF ∧ 0 < o.missing := by
  cases opened <;> dsimp only <;> (repeat' split) <;> omega

/-- **An opening can be completed**, whatever byte goes on with it.  So the bounds are never too
wide: a byte within them leads to a character. -/
theorem Opened.completable {o : Opening} {part : Bytes} (opened : o.Opened part) {byte : UInt8}
    (low : o.low ≤ byte.toNat) (high : byte.toNat ≤ o.high) :
    ∃ c more, encodeChar c = part ++ byte :: more := by
  obtain ⟨value, missing, least, greatest⟩ := o
  -- each byte is one less to come; the least of those that may follow always does
  induction missing generalizing value least greatest part byte with
  | zero => exact absurd opened.bounds.2.2.2 (Nat.lt_irrefl 0)
  | succ missing ih =>
    have next := opened.read.step byte
    have goesOn : step ⟨[], some ⟨value, missing + 1, least, greatest⟩⟩ byte =
        let value := value * 0x40 + (byte.toNat - 0x80)
        if missing + 1 = 1 then ⟨[some (Char.ofNat value)], none⟩
        else ⟨[], some ⟨value, missing, 0x80, 0xBF⟩⟩ := if_pos ⟨low, high⟩
    rw [goesOn] at next
    dsimp only at next
    split at next
    · exact ⟨_, [], next.single⟩
    · have opened' := next.opened
      have least : 0x80 ≤ (0x80 : UInt8).toNat ∧ (0x80 : UInt8).toNat ≤ 0xBF := by decide
      obtain ⟨c, more, split⟩ := ih _ _ _ opened' least.1 least.2
      refine ⟨c, 0x80 :: more, ?_⟩
      rw [split, List.append_assoc]
      rfl

/-- A text can begin with the bytes of an opening. -/
theorem Opened.initial {o : Opening} {part : Bytes} (opened : o.Opened part) : Initial part := by
  have bounds := opened.bounds
  have least : (UInt8.ofNat o.low).toNat = o.low := toNat_byte (by omega)
  obtain ⟨c, more, split⟩ := opened.completable (Nat.le_of_eq least.symm) (by omega)
  exact initial_of_char split

end Opening

/-- The decoder leaves what a character begins with open. -/
theorem exists_opened {c : Char} {part more : Bytes} (nonempty : part ≠ []) (rest : more ≠ [])
    (split : encodeChar c = part ++ more) :
    ∃ o, part.foldl Decoder.step ⟨[], none⟩ = ⟨[], some o⟩ ∧ o.Opened part := by
  have read : (part.foldl Decoder.step ⟨[], none⟩).Read part :=
    (Decoder.Read.between .nil).foldl part
  have whole := foldl_encodeChar [] c
  rw [split, List.foldl_append] at whole
  generalize part.foldl Decoder.step ⟨[], none⟩ = d at read whole
  have suffix := d.done_suffix_foldl more
  rw [whole] at suffix
  obtain ⟨done, opening⟩ := d
  -- had the decoder found something in the beginning, it would be the whole character
  have nothing : done = [] := by
    rcases List.suffix_cons_iff.mp suffix with found | nothing
    · dsimp only at found
      subst found
      have length := read.char_prefix.length_le
      rw [split, List.length_append] at length
      exact absurd (List.length_pos_of_ne_nil rest) (by omega)
    · exact List.suffix_nil.mp nothing
  subst nothing
  cases opening with
  | some o => exact ⟨o, rfl, read.opened⟩
  | none =>
    cases read with
    | between before =>
      cases before
      exact absurd rfl nonempty

/-! ### Replacing -/

/-- The first byte of a character is all of it, or ill-formed, or leaves it open. -/
theorem start_cases (done : List (Option Char)) (byte : UInt8) :
    (∃ c, Decoder.start done byte = ⟨some c :: done, none⟩) ∨
      Decoder.start done byte = ⟨none :: done, none⟩ ∨
      ∃ o, Decoder.start done byte = ⟨done, some o⟩ := by
  simp only [Decoder.start]
  repeat' split
  all_goals simp

/-- One byte that neither is a character nor begins one is ill-formed. -/
theorem start_of_broken {byte : UInt8} (noChar : ∀ c, encodeChar c ≠ [byte])
    (noBeginning : ¬Initial [byte]) : Decoder.start [] byte = ⟨[none], none⟩ := by
  have read : (Decoder.start [] byte).Read [byte] := Decoder.Read.start .nil byte
  rcases start_cases [] byte with ⟨c, found⟩ | broken | ⟨o, opening⟩
  · rw [found] at read
    exact absurd read.single (noChar c)
  · exact broken
  · rw [opening] at read
    exact absurd read.opened.initial noBeginning

/-- **A maximal subpart is replaced as a whole.**  If it is more than one byte then the decoder has
it open at its end, and the next byte does not go on with it. -/
theorem decodeLossy_subpart {part rest : Bytes} (subpart : MaximalSubpart part rest) :
    decodeLossy (part ++ rest) = '\uFFFD' :: decodeLossy rest := by
  -- behind a beginning of a character, the next byte would make it a longer one
  have broken : ∃ d, part.foldl Decoder.step ⟨[], none⟩ = d ∧ d.finish = [none] ∧
      ∀ byte, rest.head? = some byte → ¬d.GoesOn byte := by
    by_cases initial : part ≠ [] ∧ Initial part
    · obtain ⟨c, more, left, split⟩ := initial.2.exists_char initial.1 subpart.unconvertible
      obtain ⟨o, state, opened⟩ := exists_opened initial.1 left split
      refine ⟨_, state, rfl, ?_⟩
      rintro byte next ⟨_, opening, low, high⟩
      cases opening
      obtain ⟨c, more, longer⟩ := opened.completable low high
      obtain ⟨rest, rfl⟩ := List.head?_eq_some_iff.mp next
      have within : part ++ [byte] <+: part ++ byte :: rest :=
        (List.prefix_append_right_inj part).mpr ⟨rest, rfl⟩
      have beginning : Initial (part ++ [byte]) :=
        initial_of_char (longer.trans (List.append_cons part byte more))
      have length := subpart.longest _ within beginning
      rw [List.length_append, List.length_singleton] at length
      exact absurd length (Nat.not_succ_le_self _)
    · obtain ⟨byte, rfl⟩ := List.length_eq_one_iff.mp (subpart.subpart.resolve_right initial)
      refine ⟨⟨[none], none⟩, start_of_broken (fun c whole => ?_) fun beginning => ?_, rfl, ?_⟩
      · exact subpart.unconvertible ⟨c, by rw [whole]; exact List.prefix_append _ _⟩
      · exact initial ⟨List.cons_ne_nil _ _, beginning⟩
      · rintro next - ⟨o, opened, -⟩
        cases opened
  obtain ⟨d, state, finish, anew⟩ := broken
  rw [decodeLossy, parts, List.foldl_append, state, Decoder.finish_foldl anew, finish]
  rfl

theorem decodeLossy_char (c : Char) (rest : Bytes) :
    decodeLossy (encodeChar c ++ rest) = c :: decodeLossy rest := by
  have anew : ∀ byte, rest.head? = some byte → ¬Decoder.GoesOn ⟨[some c], none⟩ byte := by
    rintro byte - ⟨o, opened, -⟩
    cases opened
  rw [decodeLossy, parts, List.foldl_append, foldl_encodeChar, Decoder.finish_foldl anew]
  rfl

/-- Where no character can be read, there is a maximal subpart. -/
theorem exists_subpart {bytes : Bytes} (nonempty : bytes ≠ []) (unconvertible : ¬Convertible bytes) :
    ∃ part rest, bytes = part ++ rest ∧ part ≠ [] ∧ MaximalSubpart part rest := by
  classical
  -- the number of bytes that a text can begin with
  let count := Nat.findGreatest (fun n => Initial (bytes.take n)) bytes.length
  have initial : Initial (bytes.take count) :=
    Nat.findGreatest_spec (P := fun n => Initial (bytes.take n)) (Nat.zero_le _) ⟨[], List.prefix_rfl⟩
  have greatest : ∀ longer, longer <+: bytes → Initial longer → longer.length ≤ count := by
    intro longer within beginning
    refine Nat.le_findGreatest within.length_le ?_
    rwa [← List.prefix_iff_eq_take.mp within]
  have atMost : count ≤ bytes.length := Nat.findGreatest_le _
  have positive := List.length_pos_of_ne_nil nonempty
  have length : (bytes.take (max 1 count)).length = max 1 count := by
    rw [List.length_take]
    omega
  have whole := List.take_append_drop (max 1 count) bytes
  refine ⟨bytes.take (max 1 count), bytes.drop (max 1 count), whole.symm, ?_, ?_, ?_, ?_⟩
  · exact List.ne_nil_of_length_pos (by omega)
  · rwa [whole]
  · by_cases never : count = 0
    · exact .inl (by omega)
    · have beginning : max 1 count = count := by omega
      exact .inr ⟨List.ne_nil_of_length_pos (by omega), by rwa [beginning]⟩
  · intro longer within beginning
    rw [whole] at within
    have := greatest longer within beginning
    omega

/-- Any bytes have a text. -/
theorem exists_substituted (bytes : Bytes) : ∃ text, Substituted bytes text := by
  induction count : bytes.length using Nat.strong_induction_on generalizing bytes with
  | _ count' ih =>
    subst count
    have behind {part rest : Bytes} (split : bytes = part ++ rest) (nonempty : part ≠ []) :
        ∃ text, Substituted rest text := by
      have positive := List.length_pos_of_ne_nil nonempty
      exact ih rest.length (by rw [split, List.length_append]; omega) rest rfl
    by_cases empty : bytes = []
    · exact ⟨[], empty ▸ .nil⟩
    by_cases convertible : Convertible bytes
    · obtain ⟨c, rest, split⟩ := convertible
      obtain ⟨text, substituted⟩ := behind split.symm (encodeChar_ne_nil c)
      exact ⟨c :: text, split ▸ .char c substituted⟩
    · obtain ⟨part, rest, split, nonempty, subpart⟩ := exists_subpart empty convertible
      obtain ⟨text, substituted⟩ := behind split nonempty
      exact ⟨'\uFFFD' :: text, split ▸ .replaced subpart substituted⟩

/-- **The decoder substitutes maximal subparts**, in any bytes, and this determines the text.  From
right to left there is some text that is substituted, and it is what the decoder reads. -/
theorem substituted_iff {bytes : Bytes} {text : List Char} :
    Substituted bytes text ↔ text = decodeLossy bytes := by
  have sound {bytes : Bytes} {text : List Char} (substituted : Substituted bytes text) :
      text = decodeLossy bytes := by
    induction substituted with
    | nil => rfl
    | char c behind ih => rw [decodeLossy_char, ← ih]
    | replaced subpart behind ih => rw [decodeLossy_subpart subpart, ← ih]
  constructor
  · exact sound
  · rintro rfl
    obtain ⟨text, substituted⟩ := exists_substituted bytes
    rwa [← sound substituted]

/-! ### Damage stays where it is -/

/-- **Damage does not spread**: bytes that begin anew have the text that they have alone.  What was
cut off before them is replaced and takes none of them along. -/
theorem decodeLossy_append {first second : Bytes} (anew : BeginsAnew second) :
    decodeLossy (first ++ second) = decodeLossy first ++ decodeLossy second := by
  have read : (first.foldl Decoder.step ⟨[], none⟩).Read first :=
    (Decoder.Read.between .nil).foldl first
  have outside : ∀ byte, second.head? = some byte →
      ¬(first.foldl Decoder.step ⟨[], none⟩).GoesOn byte := by
    rintro byte next ⟨o, opening, low, high⟩
    generalize first.foldl Decoder.step ⟨[], none⟩ = d at read opening
    cases read with
    | between before => cases opening
    | within before opened =>
      cases opening
      have bounds := opened.bounds
      have range := anew byte next
      omega
  rw [decodeLossy, parts, List.foldl_append, Decoder.finish_foldl outside, List.map_append]
  rfl

/-! ### ASCII -/

/-- A character that is not ASCII has no ASCII byte. -/
theorem not_ascii_of_mem {c : Char} (wide : 0x80 ≤ c.toNat) {byte : UInt8}
    (mem : byte ∈ encodeChar c) : 0x80 ≤ byte.toNat := by
  have valid := toNat_char_lt c
  rw [encodeChar] at mem
  generalize c.toNat = n at valid wide mem
  have high {m : Nat} (low : 0x80 ≤ m) (small : m < 0x100) (same : byte = UInt8.ofNat m) :
      0x80 ≤ byte.toNat := by
    rw [same, toNat_byte small]
    exact low
  rw [if_neg (by omega)] at mem
  split at mem
  · simp only [List.mem_cons, List.not_mem_nil, or_false] at mem
    rcases mem with same | same <;> exact high (by omega) (by omega) same
  · split at mem <;> simp only [List.mem_cons, List.not_mem_nil, or_false] at mem
    · rcases mem with same | same | same <;> exact high (by omega) (by omega) same
    · rcases mem with same | same | same | same <;> exact high (by omega) (by omega) same

/-- An ASCII character is its only byte. -/
theorem encodeChar_ascii {c : Char} (narrow : c.toNat < 0x80) :
    encodeChar c = [UInt8.ofNat c.toNat] := by
  rw [encodeChar, if_pos narrow]

/-- The ASCII bytes of a character are the character itself or none. -/
theorem ascii_encodeChar (c : Char) :
    ((encodeChar c).filter fun byte => byte.toNat < 0x80).map (fun byte => Char.ofNat byte.toNat) =
      [c].filter fun c => c.toNat < 0x80 := by
  by_cases narrow : c.toNat < 0x80
  · have number : (UInt8.ofNat c.toNat).toNat = c.toNat := toNat_byte (by omega)
    rw [encodeChar_ascii narrow]
    simp [number, narrow]
  · have none : ((encodeChar c).filter fun byte => byte.toNat < 0x80) = [] :=
      List.filter_eq_nil_iff.mpr fun byte mem => by
        have := not_ascii_of_mem (by omega) mem
        simpa using this
    rw [none, List.filter_cons_of_neg (by simpa using narrow)]
    rfl

/-- Nothing in a maximal subpart is ASCII. -/
theorem MaximalSubpart.not_ascii {part rest : Bytes} (subpart : MaximalSubpart part rest) :
    (part.filter fun byte => byte.toNat < 0x80) = [] := by
  refine List.filter_eq_nil_iff.mpr fun byte mem narrow => ?_
  replace narrow : byte.toNat < 0x80 := of_decide_eq_true narrow
  by_cases initial : part ≠ [] ∧ Initial part
  · obtain ⟨c, more, left, split⟩ := initial.2.exists_char initial.1 subpart.unconvertible
    have wide : 0x80 ≤ c.toNat := by
      refine Nat.le_of_not_lt fun ascii => ?_
      have length := congrArg List.length split
      rw [encodeChar_ascii ascii, List.length_singleton, List.length_append] at length
      have := List.length_pos_of_ne_nil initial.1
      have := List.length_pos_of_ne_nil left
      omega
    have inside : byte ∈ encodeChar c := by
      rw [split]
      exact List.mem_append_left _ mem
    exact absurd (not_ascii_of_mem wide inside) (Nat.not_le_of_lt narrow)
  · obtain ⟨only, rfl⟩ := List.length_eq_one_iff.mp (subpart.subpart.resolve_right initial)
    cases List.mem_singleton.mp mem
    refine subpart.unconvertible ⟨Char.ofNat byte.toNat, rest, ?_⟩
    rw [encodeChar_ofNat_one narrow, UInt8.ofNat_toNat]

/-- **The ASCII characters of the text of any bytes are the ASCII bytes**, in order.  So no quote,
bracket or line feed is made up or lost by decoding. -/
theorem ascii_decodeLossy (bytes : Bytes) :
    (decodeLossy bytes).filter (fun c => c.toNat < 0x80) =
      (bytes.filter fun byte => byte.toNat < 0x80).map fun byte => Char.ofNat byte.toNat := by
  have substituted : Substituted bytes (decodeLossy bytes) := substituted_iff.mpr rfl
  generalize decodeLossy bytes = text at substituted
  induction substituted with
  | nil => rfl
  | char c behind ih =>
    rw [List.filter_append, List.map_append, ascii_encodeChar, ← ih, ← List.filter_append]
    rfl
  | replaced subpart behind ih =>
    rw [List.filter_append, subpart.not_ascii, List.nil_append, ← ih]
    rfl

end Utf8

/-! ### Files -/

/-- A file is reported as ill-formed exactly if its bytes are not those of a string. -/
theorem invalidUtf8_mem_decodeFile (path content : Bytes) :
    .invalidUtf8 (Failure.showPath path) ∈ (decodeFile path content).events ↔
      ¬∃ s : String, Utf8.encodeString s = content := by
  rw [decodeFile]
  cases decoded : Utf8.decode? content with
  | some text =>
    have isText := Utf8.decode?_eq_some_iff.mp decoded
    refine ⟨fun mem => ?_, fun noText => absurd ?_ noText⟩
    · cases List.mem_singleton.mp mem
    · exact ⟨String.ofList text, by rw [Utf8.encodeString, String.toList_ofList, isText]⟩
  | none =>
    refine ⟨?_, fun _ => List.mem_cons_of_mem _ (List.mem_singleton.mpr rfl)⟩
    rintro - ⟨s, rfl⟩
    rw [Utf8.encodeString, Utf8.decode?_encode] at decoded
    cases decoded

/-- **The text of a file** with any bytes is that of its bytes, with one replacement character for
each maximal subpart, which determines it.  So it is the text whose bytes these are, if there is
one, and otherwise, and only then, the file is reported as ill-formed.  Of two parts of the bytes
the text is that of the first, then that of the second, as they are read in files of their own, if
the second begins anew.  The ASCII characters of the text are the ASCII bytes of the file. -/
theorem load_substitutes_subparts (fs : FileSystem) (path content : Bytes)
    (stored : fs.Stores path content) :
    ∃ text, (load fs.access path).result = .ok text ∧
      (∀ other, Utf8.Substituted content other ↔ other = text) ∧
      (∀ s : String, Utf8.encodeString s = content → text = s.toList) ∧
      (.invalidUtf8 (Failure.showPath path) ∈ (load fs.access path).events ↔
        ¬∃ s : String, Utf8.encodeString s = content) ∧
      (∀ first second, content = first ++ second → Utf8.BeginsAnew second →
        ∀ (fs₁ fs₂ : FileSystem) (path₁ path₂ : Bytes),
        fs₁.Stores path₁ first → fs₂.Stores path₂ second →
        ∃ text₁ text₂, (load fs₁.access path₁).result = .ok text₁ ∧
          (load fs₂.access path₂).result = .ok text₂ ∧ text = text₁ ++ text₂) ∧
      (text.filter fun c => c.toNat < 0x80) =
        (content.filter fun byte => byte.toNat < 0x80).map fun byte => Char.ofNat byte.toNat := by
  have loaded {fs : FileSystem} {path content : Bytes} (stored : fs.Stores path content) :
      load fs.access path = decodeFile path content := by
    simp only [load, access_of_stores stored]
  have result {fs : FileSystem} {path content : Bytes} (stored : fs.Stores path content) :
      (load fs.access path).result = .ok (Utf8.decodeLossy content) := by
    rw [loaded stored, decodeFile_result]
  refine ⟨Utf8.decodeLossy content, result stored, fun other => Utf8.substituted_iff, ?_, ?_, ?_,
    Utf8.ascii_decodeLossy content⟩
  · rintro s rfl
    exact Utf8.decodeLossy_encode s.toList
  · rw [loaded stored]
    exact invalidUtf8_mem_decodeFile path content
  · rintro first second rfl anew fs₁ fs₂ path₁ path₂ stored₁ stored₂
    exact ⟨_, _, result stored₁, result stored₂, Utf8.decodeLossy_append anew⟩

/-- A file with a surrogate and a character that is cut off, before another one.  There are four
replacements for the six ill-formed bytes: each byte of the surrogate is one part, and the cut
character, all of its bytes together, is another. -/
theorem load_surrogate_and_cut_character :
    let content : Bytes := [0x61, 0xED, 0xA0, 0x80, 0xF0, 0x9F, 0x98, 0xC3, 0xA9]
    let fs : FileSystem := ⟨[([[0x61]], .file content)], []⟩
    fs.Stores [0x61] content ∧
      ∃ text, (load fs.access [0x61]).result = .ok text ∧
        Utf8.Substituted content ['a', '\uFFFD', '\uFFFD', '\uFFFD', '\uFFFD', 'é'] := by
  intro content fs
  have stored : fs.Stores [0x61] content := ⟨[[0x61]], rfl, rfl⟩
  obtain ⟨text, loaded, determined, -⟩ := load_substitutes_subparts fs [0x61] content stored
  refine ⟨stored, text, loaded, (determined _).mpr ?_⟩
  simp only [load, access_of_stores stored, decodeFile_result, Except.ok.injEq] at loaded
  rw [← loaded]
  decide +kernel

end JsxDetect
