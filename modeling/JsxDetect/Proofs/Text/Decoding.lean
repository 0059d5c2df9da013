import JsxDetect.Detection
import JsxDetect.Proofs.Text.RoundTrip

/-!
# What the decoder reads

The decoder never loses its place: the bytes it has read are those of the characters it has
found, one after the other, with something ill-formed between them here and there.  A character
that is being read has bounds for its next byte, and they are such that only the bytes of a
character ever get to the end.

Two facts about any bytes whatsoever follow.  Only the bytes of a text are read without a
complaint.  And a null byte is always read as a null character, at whatever place, since it goes
on with no character and so begins anew; nothing else is.

## Main Definitions

* `Utf8.Opening.Opened`: the bytes of a character that is being read
* `Utf8.Cut`: bytes cut into characters and ill-formed parts
* `Utf8.Decoder.Read`: what a decoder has read

## Main Results

* `Utf8.Decoder.Read.step`, `Utf8.cut_parts`: one byte and all bytes
* `Utf8.decode?_eq_some_iff`: which bytes are those of a text
* `Utf8.count_null_decodeLossy`: where null characters come from
* `byteLength_eq`: the length that is reported

## Design Notes

**A cut instead of a specification.**  `Cut` keeps, in reverse order, the parts that were found and
the bytes they were found in.  It says nothing of where ill-formed parts end, as the facts of this
module do not depend on it; the module on substitution does that.  What matters here is that nothing
is lost, which is why `Read` is about all bytes that were read and not only those of the last
character.

**Bounds.**  The decoder checks the second byte of a character against bounds that depend on the
first one.  `Opened` lists the six kinds of beginnings with what is known of the number, and
`Read.goOn` is the case distinction over them: the bounds are exactly those that exclude surrogates,
long forms and numbers above the last character.
-/

namespace JsxDetect

namespace Utf8

/-! ### The bytes of a number -/

theorem zero_ne_byte {n : Nat} (pos : 0 < n) (small : n < 0x100) : (0 : UInt8) ≠ UInt8.ofNat n := by
  intro null
  have same : 0 = (UInt8.ofNat n).toNat := congrArg UInt8.toNat null
  rw [toNat_byte small] at same
  omega

theorem toNat_ofNat_valid {n : Nat} (valid : n < 0xD800 ∨ 0xDFFF < n ∧ n < 0x110000) :
    (Char.ofNat n).toNat = n := by
  rw [Char.ofNat, dif_pos valid]
  rfl

theorem encodeChar_ofNat_one {n : Nat} (small : n < 0x80) :
    encodeChar (Char.ofNat n) = [UInt8.ofNat n] := by
  rw [encodeChar, toNat_ofNat_valid (by omega), if_pos small]

theorem encodeChar_ofNat_two {n : Nat} (low : 0x80 ≤ n) (high : n < 0x800) :
    encodeChar (Char.ofNat n) = [UInt8.ofNat (0xC0 + n / 0x40), UInt8.ofNat (0x80 + n % 0x40)] := by
  rw [encodeChar, toNat_ofNat_valid (by omega), if_neg (by omega), if_pos high]

theorem encodeChar_ofNat_three {n : Nat} (low : 0x800 ≤ n) (high : n < 0x10000)
    (noSurrogate : n < 0xD800 ∨ 0xDFFF < n) :
    encodeChar (Char.ofNat n) = [UInt8.ofNat (0xE0 + n / 0x1000),
      UInt8.ofNat (0x80 + n / 0x40 % 0x40), UInt8.ofNat (0x80 + n % 0x40)] := by
  rw [encodeChar, toNat_ofNat_valid (by omega), if_neg (by omega), if_neg (by omega), if_pos high]

theorem encodeChar_ofNat_four {n : Nat} (low : 0x10000 ≤ n) (high : n < 0x110000) :
    encodeChar (Char.ofNat n) = [UInt8.ofNat (0xF0 + n / 0x40000),
      UInt8.ofNat (0x80 + n / 0x1000 % 0x40), UInt8.ofNat (0x80 + n / 0x40 % 0x40),
      UInt8.ofNat (0x80 + n % 0x40)] := by
  rw [encodeChar, toNat_ofNat_valid (by omega), if_neg (by omega), if_neg (by omega),
    if_neg (by omega)]

/-! ### A character that is being read -/

namespace Opening

/-- The bytes of the beginning of a character.  The numbers that it can become are those of
characters that need as many bytes. -/
inductive Opened : Opening → Bytes → Prop where
  /-- One byte of two. -/
  | oneOfTwo {n : Nat} (low : 2 ≤ n) (high : n < 0x20) :
      Opened ⟨n, 1, 0x80, 0xBF⟩ [UInt8.ofNat (0xC0 + n)]
  /-- One byte of three. -/
  | oneOfThree {n : Nat} (high : n < 0x10) :
      Opened ⟨n, 2, if n = 0 then 0xA0 else 0x80, if n = 0xD then 0x9F else 0xBF⟩
        [UInt8.ofNat (0xE0 + n)]
  /-- Two bytes of three. -/
  | twoOfThree {n : Nat} (low : 0x20 ≤ n) (high : n < 0x400) (noSurrogate : n < 0x360 ∨ 0x380 ≤ n) :
      Opened ⟨n, 1, 0x80, 0xBF⟩ [UInt8.ofNat (0xE0 + n / 0x40), UInt8.ofNat (0x80 + n % 0x40)]
  /-- One byte of four. -/
  | oneOfFour {n : Nat} (high : n < 5) :
      Opened ⟨n, 3, if n = 0 then 0x90 else 0x80, if n = 4 then 0x8F else 0xBF⟩
        [UInt8.ofNat (0xF0 + n)]
  /-- Two bytes of four. -/
  | twoOfFour {n : Nat} (low : 0x10 ≤ n) (high : n < 0x110) :
      Opened ⟨n, 2, 0x80, 0xBF⟩ [UInt8.ofNat (0xF0 + n / 0x40), UInt8.ofNat (0x80 + n % 0x40)]
  /-- Three bytes of four. -/
  | threeOfFour {n : Nat} (low : 0x400 ≤ n) (high : n < 0x4400) :
      Opened ⟨n, 1, 0x80, 0xBF⟩ [UInt8.ofNat (0xF0 + n / 0x1000),
        UInt8.ofNat (0x80 + n / 0x40 % 0x40), UInt8.ofNat (0x80 + n % 0x40)]

/-- The bytes of a beginning are all positive. -/
theorem Opened.zero_not_mem {o : Opening} {bytes : Bytes} (opened : o.Opened bytes) :
    0 ∉ bytes := by
  intro mem
  cases opened <;> simp only [List.mem_cons, List.not_mem_nil, or_false] at mem
  case oneOfTwo => exact zero_ne_byte (by omega) (by omega) mem
  case oneOfThree => exact zero_ne_byte (by omega) (by omega) mem
  case twoOfThree => rcases mem with mem | mem <;> exact zero_ne_byte (by omega) (by omega) mem
  case oneOfFour => exact zero_ne_byte (by omega) (by omega) mem
  case twoOfFour => rcases mem with mem | mem <;> exact zero_ne_byte (by omega) (by omega) mem
  case threeOfFour =>
    rcases mem with mem | mem | mem <;> exact zero_ne_byte (by omega) (by omega) mem

/-- The byte that goes on with a beginning, as its last six bits. -/
theorem Opened.exists_bits {o : Opening} {bytes : Bytes} {byte : UInt8} (opened : o.Opened bytes)
    (low : o.low ≤ byte.toNat) (high : byte.toNat ≤ o.high) :
    ∃ n < 0x40, byte = UInt8.ofNat (0x80 + n) ∧ o.low ≤ 0x80 + n ∧ 0x80 + n ≤ o.high := by
  have within : 0x80 ≤ o.low ∧ o.high ≤ 0xBF := by
    cases opened <;> dsimp only <;> (repeat' split) <;> omega
  refine ⟨byte.toNat - 0x80, by omega, ?_, by omega, by omega⟩
  rw [show 0x80 + (byte.toNat - 0x80) = byte.toNat by omega, UInt8.ofNat_toNat]

end Opening

/-! ### One byte -/

/-- Bytes cut into characters and ill-formed parts, the last one first.  No ill-formed part has a
null byte. -/
inductive Cut : List (Option Char) → Bytes → Prop where
  | nil : Cut [] []
  | char {done : List (Option Char)} {bytes : Bytes} (c : Char) (before : Cut done bytes) :
      Cut (some c :: done) (bytes ++ encodeChar c)
  | broken {done : List (Option Char)} {bytes part : Bytes} (notNull : 0 ∉ part)
      (before : Cut done bytes) : Cut (none :: done) (bytes ++ part)

namespace Decoder

/-- A decoder that has read some bytes. -/
inductive Read : Decoder → Bytes → Prop where
  | between {done : List (Option Char)} {bytes : Bytes} (before : Cut done bytes) :
      Read ⟨done, none⟩ bytes
  | within {done : List (Option Char)} {bytes part : Bytes} {o : Opening} (before : Cut done bytes)
      (opened : o.Opened part) : Read ⟨done, some o⟩ (bytes ++ part)

/-- The last byte of a character completes it, if the bytes are those of the character. -/
theorem Read.complete {done : List (Option Char)} {bytes part : Bytes} {c : Char}
    (before : Cut done bytes) (whole : encodeChar c = part) :
    Read ⟨some c :: done, none⟩ (bytes ++ part) := by
  subst whole
  exact .between (.char c before)

/-- The first byte of a character is all of it, or its beginning, or ill-formed. -/
theorem Read.start {done : List (Option Char)} {bytes : Bytes} (before : Cut done bytes)
    (byte : UInt8) : Read (start done byte) (bytes ++ [byte]) := by
  have bound := byte.toNat_lt
  have same : byte = UInt8.ofNat byte.toNat := UInt8.ofNat_toNat.symm
  generalize byte.toNat = n at bound same
  subst same
  by_cases one : n < 0x80
  · rw [start_one one, ← encodeChar_ofNat_one one]
    exact .between (.char _ before)
  by_cases broken : n < 0xC2 ∨ 0xF5 ≤ n
  · have notNull : (0 : UInt8) ∉ [UInt8.ofNat n] := fun mem =>
      zero_ne_byte (by omega) bound (List.mem_singleton.mp mem)
    have ends : Decoder.start done (UInt8.ofNat n) = ⟨none :: done, none⟩ := by
      rw [Decoder.start, toNat_byte bound, if_neg one]
      dsimp only
      rcases broken with early | late
      · rw [if_pos early]
      · rw [if_neg (by omega), if_neg (by omega), if_neg (by omega), if_neg (by omega)]
    rw [ends]
    exact .between (.broken notNull before)
  by_cases two : n < 0xE0
  · obtain ⟨m, rfl⟩ := Nat.exists_eq_add_of_le (show 0xC0 ≤ n by omega)
    rw [start_two (by omega) (by omega)]
    exact .within before (.oneOfTwo (by omega) (by omega))
  by_cases three : n < 0xF0
  · obtain ⟨m, rfl⟩ := Nat.exists_eq_add_of_le (show 0xE0 ≤ n by omega)
    rw [start_three (by omega)]
    exact .within before (.oneOfThree (by omega))
  · obtain ⟨m, rfl⟩ := Nat.exists_eq_add_of_le (show 0xF0 ≤ n by omega)
    rw [start_four (by omega)]
    exact .within before (.oneOfFour (by omega))

/-- A byte that goes on with a character completes it or leaves it open. -/
theorem Read.goOn {done : List (Option Char)} {bytes part : Bytes} {o : Opening} {n : Nat}
    (before : Cut done bytes) (opened : o.Opened part) (low : o.low ≤ 0x80 + n)
    (high : 0x80 + n ≤ o.high) (small : n < 0x40) :
    Read (step ⟨done, some o⟩ (UInt8.ofNat (0x80 + n)))
      (bytes ++ (part ++ [UInt8.ofNat (0x80 + n)])) := by
  -- one case for each number of bytes read of a character of two, three or four
  cases opened with
  | @oneOfTwo v low' high' =>
    rw [step_last rfl low high small]
    dsimp only
    have whole : encodeChar (Char.ofNat (v * 0x40 + n)) =
        [UInt8.ofNat (0xC0 + v), UInt8.ofNat (0x80 + n)] := by
      rw [encodeChar_ofNat_two (by omega) (by omega), show (v * 0x40 + n) / 0x40 = v by omega,
        show (v * 0x40 + n) % 0x40 = n by omega]
    exact .complete before whole
  | @oneOfThree v high' =>
    rw [step_more (by dsimp only; omega) low high small]
    dsimp only at low high ⊢
    have next : Opening.Opened ⟨v * 0x40 + n, 1, 0x80, 0xBF⟩
        [UInt8.ofNat (0xE0 + (v * 0x40 + n) / 0x40), UInt8.ofNat (0x80 + (v * 0x40 + n) % 0x40)] := by
      apply Opening.Opened.twoOfThree
      · split at low <;> omega
      · omega
      · split at high <;> omega
    rw [show (v * 0x40 + n) / 0x40 = v by omega, show (v * 0x40 + n) % 0x40 = n by omega] at next
    exact .within before next
  | @twoOfThree v low' high' noSurrogate =>
    rw [step_last rfl low high small]
    dsimp only
    have whole : encodeChar (Char.ofNat (v * 0x40 + n)) = [UInt8.ofNat (0xE0 + v / 0x40),
        UInt8.ofNat (0x80 + v % 0x40), UInt8.ofNat (0x80 + n)] := by
      rw [encodeChar_ofNat_three (by omega) (by omega) (by omega),
        show (v * 0x40 + n) / 0x1000 = v / 0x40 by omega,
        show (v * 0x40 + n) / 0x40 = v by omega, show (v * 0x40 + n) % 0x40 = n by omega]
    exact .complete before whole
  | @oneOfFour v high' =>
    rw [step_more (by dsimp only; omega) low high small]
    dsimp only at low high ⊢
    have next : Opening.Opened ⟨v * 0x40 + n, 2, 0x80, 0xBF⟩
        [UInt8.ofNat (0xF0 + (v * 0x40 + n) / 0x40), UInt8.ofNat (0x80 + (v * 0x40 + n) % 0x40)] := by
      apply Opening.Opened.twoOfFour
      · split at low <;> omega
      · split at high <;> omega
    rw [show (v * 0x40 + n) / 0x40 = v by omega, show (v * 0x40 + n) % 0x40 = n by omega] at next
    exact .within before next
  | @twoOfFour v low' high' =>
    rw [step_more (by dsimp only; omega) low high small]
    dsimp only
    have next : Opening.Opened ⟨v * 0x40 + n, 1, 0x80, 0xBF⟩
        [UInt8.ofNat (0xF0 + (v * 0x40 + n) / 0x1000),
          UInt8.ofNat (0x80 + (v * 0x40 + n) / 0x40 % 0x40),
          UInt8.ofNat (0x80 + (v * 0x40 + n) % 0x40)] :=
      .threeOfFour (by omega) (by omega)
    rw [show (v * 0x40 + n) / 0x1000 = v / 0x40 by omega, show (v * 0x40 + n) / 0x40 = v by omega,
      show (v * 0x40 + n) % 0x40 = n by omega] at next
    exact .within before next
  | @threeOfFour v low' high' =>
    rw [step_last rfl low high small]
    dsimp only
    have whole : encodeChar (Char.ofNat (v * 0x40 + n)) = [UInt8.ofNat (0xF0 + v / 0x1000),
        UInt8.ofNat (0x80 + v / 0x40 % 0x40), UInt8.ofNat (0x80 + v % 0x40),
        UInt8.ofNat (0x80 + n)] := by
      rw [encodeChar_ofNat_four (by omega) (by omega),
        show (v * 0x40 + n) / 0x40000 = v / 0x1000 by omega,
        show (v * 0x40 + n) / 0x1000 = v / 0x40 by omega,
        show (v * 0x40 + n) / 0x40 = v by omega, show (v * 0x40 + n) % 0x40 = n by omega]
    exact .complete before whole

/-- **Whatever byte comes next**, the decoder has read it with those before it.  It goes on with a
character or it does not; in the second case what was open is ill-formed and the byte begins anew.
-/
theorem Read.step {d : Decoder} {bytes : Bytes} (read : d.Read bytes) (byte : UInt8) :
    (d.step byte).Read (bytes ++ [byte]) := by
  cases read with
  | between before => exact Read.start before byte
  | @within done bytes part o before opened =>
    by_cases goesOn : o.low ≤ byte.toNat ∧ byte.toNat ≤ o.high
    · obtain ⟨n, small, rfl, low, high⟩ := opened.exists_bits goesOn.1 goesOn.2
      rw [List.append_assoc]
      exact Read.goOn before opened low high small
    · have broken : Cut (none :: done) (bytes ++ part) := .broken opened.zero_not_mem before
      have anew : Decoder.step ⟨done, some o⟩ byte = Decoder.start (none :: done) byte :=
        if_neg goesOn
      rw [anew]
      exact Read.start broken byte

/-- The decoder has read all bytes that follow, too. -/
theorem Read.foldl {d : Decoder} {bytes : Bytes} (read : d.Read bytes) (more : Bytes) :
    (more.foldl Decoder.step d).Read (bytes ++ more) := by
  induction more generalizing d bytes with
  | nil => rwa [List.append_nil]
  | cons byte more ih =>
    rw [List.foldl_cons, ← List.singleton_append, ← List.append_assoc]
    exact ih (read.step byte)

end Decoder

/-! ### All bytes -/

/-- Any bytes are cut into their parts. -/
theorem cut_parts (bytes : Bytes) : Cut (parts bytes).reverse bytes := by
  have read : (bytes.foldl Decoder.step ⟨[], none⟩).Read bytes :=
    (Decoder.Read.between .nil).foldl bytes
  rw [parts]
  generalize bytes.foldl Decoder.step ⟨[], none⟩ = last at read
  cases read with
  | between before =>
    rw [Decoder.finish, List.reverse_reverse]
    exact before
  | within before opened =>
    rw [Decoder.finish, List.reverse_reverse]
    exact .broken opened.zero_not_mem before

/-- Bytes of which no part is ill-formed are those of their characters. -/
theorem Cut.eq_encode {done : List (Option Char)} {bytes : Bytes} (cut : Cut done bytes)
    (whole : ∀ part ∈ done, part.isSome) :
    bytes = encode (done.reverse.map (·.getD '\uFFFD')) := by
  induction cut with
  | nil => rfl
  | char c before ih =>
    rw [List.reverse_cons, List.map_append, encode, List.flatMap_append,
      ih fun part mem => whole part (List.mem_cons_of_mem _ mem)]
    show _ = _ ++ (encodeChar c ++ [])
    rw [List.append_nil]
    rfl
  | broken notNull before ih => exact absurd (whole none List.mem_cons_self) Bool.false_ne_true

/-- **Bytes are those of a text** if, and only if, they are read as this text without a
complaint. -/
theorem decode?_eq_some_iff {bytes : Bytes} {text : List Char} :
    decode? bytes = some text ↔ encode text = bytes := by
  constructor
  · intro decoded
    rw [decode?] at decoded
    split at decoded
    · next isText =>
      have whole : ∀ part ∈ (parts bytes).reverse, part.isSome := fun part mem =>
        List.all_eq_true.mp isText part (List.mem_reverse.mp mem)
      rw [(cut_parts bytes).eq_encode whole, List.reverse_reverse, ← Option.some.inj decoded]
      rfl
    · cases decoded
  · rintro rfl
    exact decode?_encode text

/-! ### Null -/

/-- No character but the null character has a null byte. -/
theorem zero_not_mem_encodeChar {c : Char} (notNull : c ≠ '\x00') : 0 ∉ encodeChar c := by
  have valid := toNat_char_lt c
  have pos : 0 < c.toNat := by
    rcases Nat.eq_zero_or_pos c.toNat with zero | pos
    · exact absurd (Char.toNat_inj.mp zero) notNull
    · exact pos
  intro mem
  rw [encodeChar] at mem
  generalize c.toNat = n at valid pos mem
  split at mem
  · exact zero_ne_byte (by omega) (by omega) (List.mem_singleton.mp mem)
  · split at mem
    · simp only [List.mem_cons, List.not_mem_nil, or_false] at mem
      rcases mem with mem | mem <;> exact zero_ne_byte (by omega) (by omega) mem
    · split at mem <;> simp only [List.mem_cons, List.not_mem_nil, or_false] at mem
      · rcases mem with mem | mem | mem <;> exact zero_ne_byte (by omega) (by omega) mem
      · rcases mem with mem | mem | mem | mem <;> exact zero_ne_byte (by omega) (by omega) mem

theorem count_zero_encodeChar (c : Char) : (encodeChar c).count 0 = [c].count '\x00' := by
  by_cases null : c = '\x00'
  · subst null
    decide
  · rw [List.count_eq_zero.mpr (zero_not_mem_encodeChar null), List.count_eq_zero.mpr]
    intro mem
    exact null (List.mem_singleton.mp mem).symm

/-- An ill-formed part neither holds a null byte nor is read as a null character. -/
theorem Cut.count_null {done : List (Option Char)} {bytes : Bytes} (cut : Cut done bytes) :
    (done.map (·.getD '\uFFFD')).count '\x00' = bytes.count 0 := by
  induction cut with
  | nil => rfl
  | char c before ih =>
    rw [List.count_append, ← ih, count_zero_encodeChar, Nat.add_comm, ← List.count_append]
    rfl
  | broken notNull before ih =>
    rw [List.count_append, ← ih, List.count_eq_zero.mpr notNull, List.map_cons]
    exact List.count_cons_of_ne (by decide)

/-- **Any bytes are read as a text with as many null characters as there are null bytes.**  No
ill-formed part has one, and what is put for it is another character. -/
theorem count_null_decodeLossy (bytes : Bytes) :
    (decodeLossy bytes).count '\x00' = bytes.count 0 := by
  rw [← (cut_parts bytes).count_null, decodeLossy, List.map_reverse, List.count_reverse]

theorem null_mem_decodeLossy_iff (bytes : Bytes) : '\x00' ∈ decodeLossy bytes ↔ 0 ∈ bytes := by
  rw [← List.count_pos_iff, ← List.count_pos_iff, count_null_decodeLossy]

end Utf8

/-! ### Lengths -/

/-- A character has as many bytes as a place moves past it. -/
theorem length_encodeChar (c : Char) : (Utf8.encodeChar c).length = Cursor.width c := by
  rw [Utf8.encodeChar, Cursor.width]
  split
  · rfl
  · split
    · rfl
    · split <;> rfl

/-- The length that is reported of a text is that of its bytes. -/
theorem byteLength_eq (text : List Char) : byteLength text = (Utf8.encode text).length := by
  have counted : ∀ (rest : List Char) (n : Nat),
      rest.foldl (fun n c => n + Cursor.width c) n = n + (Utf8.encode rest).length := by
    intro rest
    induction rest with
    | nil => intro n; rfl
    | cons c rest ih =>
      intro n
      have bytes : Utf8.encode (c :: rest) = Utf8.encodeChar c ++ Utf8.encode rest := rfl
      rw [List.foldl_cons, ih, bytes, List.length_append, length_encodeChar, Nat.add_assoc]
  rw [byteLength, counted, Nat.zero_add]

end JsxDetect
