/-!
# UTF-8

Texts are lists of characters, and what files, arguments and streams hold is lists of bytes.
One decoder serves both strict and lossy reading: it cuts the bytes into characters and
ill-formed parts, each as long as possible while it could still have become a character.

## Main Definitions

* `Bytes`
* `Utf8.encode`
* `Utf8.parts`: the characters and ill-formed parts of some bytes
* `Utf8.wellFormed`, `Utf8.decode?`, `Utf8.decodeLossy`

## Design Notes

The decoder is one fold over bytes with a small state, the character that is being read.  Strict and
lossy decoding are two ways to look at its result, so they cannot disagree on what is ill-formed.
Bounds for the next byte are kept in the state rather than computed from the bytes before, as the
rule about the second byte is the only irregular part of the encoding.
-/

namespace JsxDetect

/-- What is stored or sent. -/
abbrev Bytes := List UInt8

namespace Utf8

/-! ### Encoding -/

/-- The bytes of a character. -/
def encodeChar (c : Char) : Bytes :=
  let n := c.toNat
  if n < 0x80 then [UInt8.ofNat n]
  else if n < 0x800 then [UInt8.ofNat (0xC0 + n / 0x40), UInt8.ofNat (0x80 + n % 0x40)]
  else if n < 0x10000 then
    [UInt8.ofNat (0xE0 + n / 0x1000), UInt8.ofNat (0x80 + n / 0x40 % 0x40),
      UInt8.ofNat (0x80 + n % 0x40)]
  else
    [UInt8.ofNat (0xF0 + n / 0x40000), UInt8.ofNat (0x80 + n / 0x1000 % 0x40),
      UInt8.ofNat (0x80 + n / 0x40 % 0x40), UInt8.ofNat (0x80 + n % 0x40)]

/-- The bytes of a text. -/
def encode (text : List Char) : Bytes := text.flatMap encodeChar

/-- The bytes of a string. -/
def encodeString (s : String) : Bytes := encode s.toList

/-! ### Decoding -/

/-- The beginning of a character that needs more bytes. -/
structure Opening where
  /-- The bits read so far. -/
  value : Nat
  /-- How many bytes are missing. -/
  missing : Nat
  /-- The least byte that may follow. -/
  low : Nat
  /-- The greatest byte that may follow. -/
  high : Nat
  deriving Repr, DecidableEq

/-- A decoder between two bytes. -/
structure Decoder where
  /-- What was read, last first: characters, and `none` for each ill-formed part. -/
  done : List (Option Char)
  /-- The character that is being read. -/
  opening : Option Opening
  deriving Repr, DecidableEq

namespace Decoder

/-- Reads the first byte of a character.  The bounds of the second byte exclude overlong
forms, surrogates and what lies beyond the last character. -/
def start (done : List (Option Char)) (byte : UInt8) : Decoder :=
  let n := byte.toNat
  if n < 0x80 then ⟨some (Char.ofNat n) :: done, none⟩
  else if n < 0xC2 then ⟨none :: done, none⟩
  else if n < 0xE0 then ⟨done, some ⟨n - 0xC0, 1, 0x80, 0xBF⟩⟩
  else if n < 0xF0 then
    let low := if n = 0xE0 then 0xA0 else 0x80
    let high := if n = 0xED then 0x9F else 0xBF
    ⟨done, some ⟨n - 0xE0, 2, low, high⟩⟩
  else if n < 0xF5 then
    let low := if n = 0xF0 then 0x90 else 0x80
    let high := if n = 0xF4 then 0x8F else 0xBF
    ⟨done, some ⟨n - 0xF0, 3, low, high⟩⟩
  else ⟨none :: done, none⟩

/-- Reads a byte.  A byte that cannot go on with the character ends it as an ill-formed part
and starts anew. -/
def step (d : Decoder) (byte : UInt8) : Decoder :=
  match d.opening with
  | none => start d.done byte
  | some o =>
    if o.low ≤ byte.toNat ∧ byte.toNat ≤ o.high then
      let value := o.value * 0x40 + (byte.toNat - 0x80)
      if o.missing = 1 then ⟨some (Char.ofNat value) :: d.done, none⟩
      else ⟨d.done, some ⟨value, o.missing - 1, 0x80, 0xBF⟩⟩
    else start (none :: d.done) byte

/-- What was read, when no more bytes come. -/
def finish (d : Decoder) : List (Option Char) :=
  match d.opening with
  | none => d.done.reverse
  | some _ => (none :: d.done).reverse

end Decoder

/-- The characters of some bytes, and `none` for each ill-formed part between them. -/
def parts (bytes : Bytes) : List (Option Char) :=
  (bytes.foldl Decoder.step ⟨[], none⟩).finish

/-- Are these the bytes of a text? -/
def wellFormed (bytes : Bytes) : Bool := (parts bytes).all Option.isSome

/-- The text of some bytes, with a replacement character for each ill-formed part. -/
def decodeLossy (bytes : Bytes) : List Char := (parts bytes).map (·.getD '\uFFFD')

/-- The text of some bytes, if they are those of a text. -/
def decode? (bytes : Bytes) : Option (List Char) :=
  if wellFormed bytes then some (decodeLossy bytes) else none

end Utf8

end JsxDetect
