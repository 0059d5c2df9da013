import JsxDetect.Text.Utf8

/-!
# Decoding what was encoded

The decoder gives a text back whose bytes it reads: it passes over the bytes of a character
from one state between characters to the next, whatever was read before.  So whatever a text
holds, a null character or a byte order mark as well, no part of its bytes is ill-formed.

## Main Results

* `Utf8.foldl_encodeChar`: reading the bytes of one character
* `Utf8.decode?_encode`: reading the bytes of a text
* `Utf8.toByteArray_encodeString`, `Utf8.length_encodeString`: which bytes those are, and how many

## Design Notes

The theorems are about the decoder's own loop, in any state between characters: what was read before
is a parameter, `done`, and remains.  This makes the step for one character, `foldl_encodeChar`,
usable inside longer texts without a lemma on appending.  Bytes are written as sums and products
with the bits of the number, in the form in which `omega` can check them against the bounds.
-/

namespace JsxDetect.Utf8

/-- The numbers of characters leave out those of surrogates. -/
theorem toNat_char_lt (c : Char) : c.toNat < 0xD800 ∨ 0xDFFF < c.toNat ∧ c.toNat < 0x110000 :=
  c.valid

theorem toNat_byte {n : Nat} (small : n < 0x100) : (UInt8.ofNat n).toNat = n := by
  rw [UInt8.toNat_ofNat']
  exact Nat.mod_eq_of_lt small

/-! ### One byte -/

namespace Decoder

variable {done : List (Option Char)} {o : Opening} {n : Nat}

theorem step_start (done : List (Option Char)) (byte : UInt8) :
    step ⟨done, none⟩ byte = start done byte := rfl

/-- A byte that goes on with a character. -/
theorem step_more (more : o.missing ≠ 1) (low : o.low ≤ 0x80 + n) (high : 0x80 + n ≤ o.high)
    (small : n < 0x40) :
    step ⟨done, some o⟩ (UInt8.ofNat (0x80 + n)) =
      ⟨done, some ⟨o.value * 0x40 + n, o.missing - 1, 0x80, 0xBF⟩⟩ := by
  have byte : (UInt8.ofNat (0x80 + n)).toNat = 0x80 + n := toNat_byte (by omega)
  rw [step]
  dsimp only
  rw [byte, if_pos ⟨low, high⟩, if_neg more, Nat.add_sub_cancel_left]

/-- The last byte of a character. -/
theorem step_last (last : o.missing = 1) (low : o.low ≤ 0x80 + n) (high : 0x80 + n ≤ o.high)
    (small : n < 0x40) :
    step ⟨done, some o⟩ (UInt8.ofNat (0x80 + n)) =
      ⟨some (Char.ofNat (o.value * 0x40 + n)) :: done, none⟩ := by
  have byte : (UInt8.ofNat (0x80 + n)).toNat = 0x80 + n := toNat_byte (by omega)
  rw [step]
  dsimp only
  rw [byte, if_pos ⟨low, high⟩, if_pos last, Nat.add_sub_cancel_left]

/-- The byte of a character that needs no other. -/
theorem start_one (small : n < 0x80) :
    start done (UInt8.ofNat n) = ⟨some (Char.ofNat n) :: done, none⟩ := by
  rw [start, toNat_byte (by omega), if_pos small]

/-- The first of two bytes; `n` is not too small to need them. -/
theorem start_two (low : 2 ≤ n) (high : n < 0x20) :
    start done (UInt8.ofNat (0xC0 + n)) = ⟨done, some ⟨n, 1, 0x80, 0xBF⟩⟩ := by
  rw [start, toNat_byte (by omega), if_neg (by omega), if_neg (by omega), if_pos (by omega),
    Nat.add_sub_cancel_left]

/-- The first of three bytes. -/
theorem start_three (high : n < 0x10) :
    start done (UInt8.ofNat (0xE0 + n)) =
      ⟨done, some ⟨n, 2, if n = 0 then 0xA0 else 0x80, if n = 0xD then 0x9F else 0xBF⟩⟩ := by
  have least : 0xE0 + n = 0xE0 ↔ n = 0 := by omega
  have surrogate : 0xE0 + n = 0xED ↔ n = 0xD := by omega
  rw [start, toNat_byte (by omega), if_neg (by omega), if_neg (by omega), if_neg (by omega),
    if_pos (by omega), Nat.add_sub_cancel_left]
  simp only [least, surrogate]

/-- The first of four bytes. -/
theorem start_four (high : n < 5) :
    start done (UInt8.ofNat (0xF0 + n)) =
      ⟨done, some ⟨n, 3, if n = 0 then 0x90 else 0x80, if n = 4 then 0x8F else 0xBF⟩⟩ := by
  have least : 0xF0 + n = 0xF0 ↔ n = 0 := by omega
  have greatest : 0xF0 + n = 0xF4 ↔ n = 4 := by omega
  rw [start, toNat_byte (by omega), if_neg (by omega), if_neg (by omega), if_neg (by omega),
    if_neg (by omega), if_pos (by omega), Nat.add_sub_cancel_left]
  simp only [least, greatest]

end Decoder

/-! ### One character -/

/-- The bytes of a character are read as this character. -/
theorem foldl_encodeChar (done : List (Option Char)) (c : Char) :
    (encodeChar c).foldl Decoder.step ⟨done, none⟩ = ⟨some c :: done, none⟩ := by
  have valid := toNat_char_lt c
  have same : Char.ofNat c.toNat = c := Char.ofNat_toNat c
  rw [encodeChar]
  -- The number of the character is put together again from its digits to the base 64.
  generalize c.toNat = n at valid same ⊢
  split
  · next one =>
    rw [List.foldl_cons, List.foldl_nil, Decoder.step_start, Decoder.start_one one, same]
  · split
    · next two =>
      have value : n / 0x40 * 0x40 + n % 0x40 = n := by omega
      rw [List.foldl_cons, Decoder.step_start, Decoder.start_two (by omega) (by omega),
        List.foldl_cons, List.foldl_nil,
        Decoder.step_last rfl (by dsimp only; omega) (by dsimp only; omega) (by omega)]
      dsimp only
      rw [value, same]
    · split
      · next three =>
        have value : (n / 0x1000 * 0x40 + n / 0x40 % 0x40) * 0x40 + n % 0x40 = n := by omega
        rw [List.foldl_cons, Decoder.step_start, Decoder.start_three (by omega),
          List.foldl_cons, Decoder.step_more (by dsimp only; omega) (by dsimp only; split <;> omega)
            (by dsimp only; split <;> omega) (by omega),
          List.foldl_cons, List.foldl_nil,
          Decoder.step_last rfl (by dsimp only; omega) (by dsimp only; omega) (by omega)]
        dsimp only
        rw [value, same]
      · have value : ((n / 0x40000 * 0x40 + n / 0x1000 % 0x40) * 0x40 + n / 0x40 % 0x40) * 0x40 +
            n % 0x40 = n := by omega
        rw [List.foldl_cons, Decoder.step_start, Decoder.start_four (by omega),
          List.foldl_cons, Decoder.step_more (by dsimp only; omega) (by dsimp only; split <;> omega)
            (by dsimp only; split <;> omega) (by omega),
          List.foldl_cons, Decoder.step_more (by dsimp only; omega) (by dsimp only; omega)
            (by dsimp only; omega) (by omega),
          List.foldl_cons, List.foldl_nil,
          Decoder.step_last rfl (by dsimp only; omega) (by dsimp only; omega) (by omega)]
        dsimp only
        rw [value, same]

/-! ### Texts -/

/-- The bytes of a text are read as its characters, one after the other.  By induction on the text.
-/
theorem foldl_encode (done : List (Option Char)) (text : List Char) :
    (encode text).foldl Decoder.step ⟨done, none⟩ = ⟨(text.map some).reverse ++ done, none⟩ := by
  induction text generalizing done with
  | nil => rfl
  | cons c text ih =>
    have bytes : encode (c :: text) = encodeChar c ++ encode text := rfl
    rw [bytes, List.foldl_append, foldl_encodeChar, ih, List.map_cons, List.reverse_cons,
      List.append_assoc]
    rfl

/-- The bytes of a text have its characters as their parts. -/
theorem parts_encode (text : List Char) : parts (encode text) = text.map some := by
  rw [parts, foldl_encode, Decoder.finish, List.append_nil, List.reverse_reverse]

theorem decodeLossy_encode (text : List Char) : decodeLossy (encode text) = text := by
  rw [decodeLossy, parts_encode, List.map_map]
  exact List.map_id text

/-- **The bytes of a text are read as this text**, without a complaint.  Since the converse holds as
well, decoding and encoding are inverse to each other. -/
theorem decode?_encode (text : List Char) : decode? (encode text) = some text := by
  have isText : wellFormed (encode text) = true := by
    rw [wellFormed, parts_encode, List.all_map]
    exact List.all_eq_true.mpr fun _ _ => rfl
  rw [decode?, if_pos isText, decodeLossy_encode]

theorem encode_injective : Function.Injective encode := fun first second same => by
  have read := decode?_encode first
  rw [same, decode?_encode] at read
  exact (Option.some.inj read).symm

/-! ### Strings -/

/-- The bytes of a character are those that a string has for it. -/
theorem encodeChar_eq (c : Char) : encodeChar c = String.utf8EncodeChar c := by
  have valid := toNat_char_lt c
  have number : c.val.toNat = c.toNat := rfl
  rw [encodeChar, String.utf8EncodeChar, number]
  generalize c.toNat = n at valid ⊢
  have two : n < 0x800 → n / 64 % 32 = n / 64 := fun _ => by omega
  have three : n < 0x10000 → n / 4096 % 16 = n / 4096 := fun _ => by omega
  have four : n / 262144 % 8 = n / 262144 := by omega
  rw [four]
  split
  · next one => rw [if_pos (by omega)]
  · split
    · next small => rw [if_neg (by omega), if_pos (by omega), two small, Nat.add_comm (n / 64),
        Nat.add_comm (n % 64)]
    · split
      · next small => rw [if_neg (by omega), if_neg (by omega), if_pos (by omega), three small,
          Nat.add_comm (n / 4096), Nat.add_comm (n / 64 % 64), Nat.add_comm (n % 64)]
      · rw [if_neg (by omega), if_neg (by omega), if_neg (by omega), Nat.add_comm (n / 262144),
          Nat.add_comm (n / 4096 % 64), Nat.add_comm (n / 64 % 64), Nat.add_comm (n % 64)]

/-- The bytes of a text are those of its string. -/
theorem toByteArray_encodeString (s : String) :
    (encodeString s).toByteArray = s.toByteArray := by
  have bytes : encodeString s = s.toList.flatMap String.utf8EncodeChar := by
    rw [encodeString, encode]
    exact congrArg (s.toList.flatMap ·) (funext encodeChar_eq)
  rw [bytes, ← String.utf8Encode_toList]
  rfl

/-- A text has as many bytes as its string. -/
theorem length_encodeString (s : String) : (encodeString s).length = s.utf8ByteSize := by
  rw [← List.size_toByteArray, toByteArray_encodeString, String.size_toByteArray]

end JsxDetect.Utf8
