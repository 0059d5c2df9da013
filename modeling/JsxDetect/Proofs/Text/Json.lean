import JsxDetect.Text.Quoted

/-!
# Reading JSON

A reader for JSON documents that knows nothing of how they were written: any blanks between the
tokens, any escape in a string, a character beyond the basic plane as two escapes, numbers as
they are spelled.  Members of an object are kept in order, with those of the same name.

What `quote` writes is read back as it was, whatever follows it, and so are the digits of a number
that is followed by something that can be no part of one.

## Main Definitions

* `Json`, `Json.read`
* `Json.Spells`: a text is read as some value

## Main Results

* `Json.readString_quote`: a literal is read as its text
* `Json.spells_quote`, `Json.spells_number`: values that are read back
* `printed_quote`: there is no control character in a literal

## Design Notes

**Why a reader of its own.**  That a report can be read back is worth little if the reader is made
for it.  This one accepts the whole of JSON, with blanks, escapes and numbers that the program never
writes, and refuses all else, so it stands for any reader.  Values keep numbers as they are spelled,
and members in order.

**How texts are composed.**  `Spells` says that a text is read as a value in any context inside an
object, with fuel for its length.  It is proved of literals and numbers here and of objects where
events are read, and `Spells.read` concludes for a whole document.  Fuel is needed because values
are nested; the length of the text is always enough.
-/

namespace JsxDetect

/-- What a JSON document says. -/
inductive Json where
  | null
  | boolean (value : Bool)
  /-- A number, as it is spelled. -/
  | number (literal : String)
  | string (text : String)
  | array (items : List Json)
  | object (members : List (String × Json))
  deriving Repr

namespace Json

/-! ### Blanks, words and numbers -/

/-- May the character stand between tokens? -/
def isBlank (c : Char) : Bool := c = ' ' || c = '\t' || c = '\n' || c = '\r'

/-- What is behind the blanks. -/
def skipBlanks (text : List Char) : List Char := text.dropWhile isBlank

/-- Reads a word that stands for a value. -/
def readWord (name : String) (json : Json) (text : List Char) : Option (Json × List Char) :=
  if name.toList.isPrefixOf text then some (json, text.drop name.length) else none

/-- What is behind one digit or more. -/
def behindDigits : List Char → Option (List Char)
  | [] => none
  | c :: rest => if c.isDigit then some (rest.dropWhile Char.isDigit) else none

/-- What is behind a sign, if there is one. -/
def behindSign (signs : List Char) : List Char → List Char
  | [] => []
  | c :: rest => if signs.contains c then rest else c :: rest

/-- What is behind a number without sign, fraction and exponent; it has no leading zero. -/
def behindInteger : List Char → Option (List Char)
  | '0' :: rest => some rest
  | text => behindDigits text

/-- What is behind a fraction, if there is one. -/
def behindFraction : List Char → Option (List Char)
  | '.' :: rest => behindDigits rest
  | text => some text

/-- What is behind an exponent, if there is one. -/
def behindExponent : List Char → Option (List Char)
  | [] => some []
  | c :: rest => if c = 'e' || c = 'E' then behindDigits (behindSign ['+', '-'] rest) else c :: rest

/-- Reads a number. -/
def readNumber (text : List Char) : Option (Json × List Char) := do
  let rest ← behindInteger (behindSign ['-'] text)
  let rest ← behindFraction rest
  let rest ← behindExponent rest
  some (.number (String.ofList (text.take (text.length - rest.length))), rest)

/-! ### Strings -/

/-- The value of a hexadecimal digit. -/
def digit? (c : Char) : Option Nat :=
  if c.isDigit then some (c.toNat - '0'.toNat)
  else if 'a' ≤ c ∧ c ≤ 'f' then some (c.toNat - 'a'.toNat + 10)
  else if 'A' ≤ c ∧ c ≤ 'F' then some (c.toNat - 'A'.toNat + 10)
  else none

/-- Reads four hexadecimal digits. -/
def readDigits : List Char → Option (Nat × List Char)
  | a :: b :: c :: d :: rest => do
    some (((← digit? a) * 16 + (← digit? b)) * 256 + (← digit? c) * 16 + (← digit? d), rest)
  | _ => none

/-- The character of an escape with a single letter. -/
def letter? (c : Char) : Option Char :=
  if c = '"' ∨ c = '\\' ∨ c = '/' then some c
  else if c = 'b' then some '\x08'
  else if c = 'f' then some '\x0c'
  else if c = 'n' then some '\n'
  else if c = 'r' then some '\r'
  else if c = 't' then some '\t'
  else none

/-- Reads the second half of a character beyond the basic plane. -/
def readLowHalf (high : Nat) (text : List Char) : Option (Char × List Char) :=
  if ['\\', 'u'].isPrefixOf text then do
    let (low, rest) ← readDigits (text.drop 2)
    if 0xDC00 ≤ low ∧ low < 0xE000 then
      some (Char.ofNat (0x10000 + (high - 0xD800) * 0x400 + (low - 0xDC00)), rest)
    else none
  else none

/-- Reads an escape with a number, behind its letter. -/
def readNumbered (text : List Char) : Option (Char × List Char) := do
  let (value, rest) ← readDigits text
  if 0xD800 ≤ value ∧ value < 0xDC00 then readLowHalf value rest
  else if 0xDC00 ≤ value ∧ value < 0xE000 then none
  else some (Char.ofNat value, rest)

/-- Reads an escape behind its backslash. -/
def readEscape : List Char → Option (Char × List Char)
  | [] => none
  | letter :: rest => if letter = 'u' then readNumbered rest else (letter? letter).map (·, rest)

/-- Reads a string behind its opening quote; `fuel` bounds its characters. -/
def body : Nat → List Char → Option (List Char × List Char)
  | 0, _ => none
  | _ + 1, [] => none
  | fuel + 1, c :: rest =>
    if c = '"' then some ([], rest)
    else if c = '\\' then do
      let (c, rest) ← readEscape rest
      let (text, rest) ← body fuel rest
      some (c :: text, rest)
    else if c.toNat < 0x20 then none
    else do
      let (text, rest) ← body fuel rest
      some (c :: text, rest)

/-- Reads a string behind its opening quote. -/
def readString (text : List Char) : Option (String × List Char) :=
  (body text.length text).map fun (text, rest) => (String.ofList text, rest)

/-! ### Documents -/

/-- Reads the name of a member and the colon behind it. -/
def readName (text : List Char) : Option (String × List Char) :=
  match skipBlanks text with
  | '"' :: rest => do
    let (name, rest) ← readString rest
    match skipBlanks rest with
    | ':' :: rest => some (name, rest)
    | _ => none
  | _ => none

mutual

/-- Reads a value; `fuel` bounds how many values there are, one in or behind another. -/
def readValue : Nat → List Char → Option (Json × List Char)
  | 0, _ => none
  | fuel + 1, text =>
    match skipBlanks text with
    | [] => none
    | c :: rest =>
      if c = '"' then (readString rest).map fun (text, rest) => (.string text, rest)
      else if c = '[' then
        match skipBlanks rest with
        | ']' :: rest => some (.array [], rest)
        | _ => (readItems fuel rest).map fun (items, rest) => (.array items, rest)
      else if c = '\x7b' then
        match skipBlanks rest with
        | '\x7d' :: rest => some (.object [], rest)
        | _ => (readMembers fuel rest).map fun (members, rest) => (.object members, rest)
      else
        (readWord "null" .null (c :: rest)).or <|
          (readWord "true" (.boolean true) (c :: rest)).or <|
          (readWord "false" (.boolean false) (c :: rest)).or (readNumber (c :: rest))

/-- Reads the items of an array, of which there is one at least, and the bracket behind them. -/
def readItems : Nat → List Char → Option (List Json × List Char)
  | 0, _ => none
  | fuel + 1, text => do
    let (item, rest) ← readValue fuel text
    match skipBlanks rest with
    | ',' :: rest => (readItems fuel rest).map fun (items, rest) => (item :: items, rest)
    | ']' :: rest => some ([item], rest)
    | _ => none

/-- Reads the members of an object, of which there is one at least, and the brace behind them. -/
def readMembers : Nat → List Char → Option (List (String × Json) × List Char)
  | 0, _ => none
  | fuel + 1, text => do
    let (name, rest) ← readName text
    let (json, rest) ← readValue fuel rest
    match skipBlanks rest with
    | ',' :: rest =>
      (readMembers fuel rest).map fun (members, rest) => ((name, json) :: members, rest)
    | '\x7d' :: rest => some ([(name, json)], rest)
    | _ => none

end

/-- What a text says, if it is a JSON document. -/
def read (text : List Char) : Option Json :=
  match readValue (text.length + 1) text with
  | some (json, rest) => if skipBlanks rest = [] then some json else none
  | none => none

/-! ### Literals -/

/-- The two digits of a control character are read as its number, by evaluation. -/
theorem digit?_control : ∀ n < 0x20,
    digit? (Nat.digitChar (n / 16)) = some (n / 16) ∧
      digit? (Nat.digitChar (n % 16)) = some (n % 16) := by
  decide

theorem readEscape_letter {letter c : Char} (notHex : letter ≠ 'u')
    (known : letter? letter = some c) (rest : List Char) :
    readEscape (letter :: rest) = some (c, rest) := by
  rw [readEscape, if_neg notHex, known]
  rfl

/-- An escape with the number of a control character is read as this character. -/
theorem readEscape_control {c : Char} (control : c.toNat < 0x20) (rest : List Char) :
    readEscape ('u' :: '0' :: '0' :: Nat.digitChar (c.toNat / 16) ::
      Nat.digitChar (c.toNat % 16) :: rest) = some (c, rest) := by
  obtain ⟨first, second⟩ := digit?_control _ control
  have zero : digit? '0' = some 0 := rfl
  have value : (0 * 16 + 0) * 256 + c.toNat / 16 * 16 + c.toNat % 16 = c.toNat := by omega
  have digits : readDigits ('0' :: '0' :: Nat.digitChar (c.toNat / 16) ::
      Nat.digitChar (c.toNat % 16) :: rest) = some (c.toNat, rest) := by
    simp only [readDigits, zero, first, second, Option.bind_eq_bind, Option.bind_some, value]
  have noHighHalf : ¬(0xD800 ≤ c.toNat ∧ c.toNat < 0xDC00) := by omega
  have noLowHalf : ¬(0xDC00 ≤ c.toNat ∧ c.toNat < 0xE000) := by omega
  simp only [readEscape, if_true, readNumbered, digits, Option.bind_eq_bind, Option.bind_some,
    if_neg noHighHalf, if_neg noLowHalf, Char.ofNat_toNat]

/-- An escape inside a string is read, and then what follows it. -/
theorem body_escape {text rest : List Char} {c : Char} (escape : readEscape text = some (c, rest))
    (fuel : Nat) :
    body (fuel + 1) ('\\' :: text) = (body fuel rest).map fun read => (c :: read.1, read.2) := by
  have notEnd : ('\\' : Char) ≠ '"' := by decide
  simp only [body, if_neg notEnd, if_true, escape, Option.bind_eq_bind, Option.bind_some]
  cases body fuel rest <;> rfl

/-- What stands for a character inside a literal: an escape or the character itself. -/
inductive Quoted (c : Char) : List Char → Prop where
  | letter {letter : Char} (notHex : letter ≠ 'u') (known : letter? letter = some c)
      (printed : 0x20 ≤ letter.toNat) : Quoted c ['\\', letter]
  | control (control : c.toNat < 0x20) : Quoted c
      ['\\', 'u', '0', '0', Nat.digitChar (c.toNat / 16), Nat.digitChar (c.toNat % 16)]
  | plain (notQuote : c ≠ '"') (notBackslash : c ≠ '\\') (printed : ¬c.toNat < 0x20) :
      Quoted c [c]

/-- What is written for a character is one of the three. -/
theorem quoted_quoteChar (c : Char) : Quoted c (quoteChar c) := by
  rw [quoteChar]
  split
  · next quote =>
    subst quote
    exact .letter (by decide) rfl (by decide)
  split
  · next backslash =>
    subst backslash
    exact .letter (by decide) rfl (by decide)
  split
  · next backspace =>
    subst backspace
    exact .letter (by decide) rfl (by decide)
  split
  · next formFeed =>
    subst formFeed
    exact .letter (by decide) rfl (by decide)
  split
  · next lineFeed =>
    subst lineFeed
    exact .letter (by decide) rfl (by decide)
  split
  · next carriageReturn =>
    subst carriageReturn
    exact .letter (by decide) rfl (by decide)
  split
  · next tab =>
    subst tab
    exact .letter (by decide) rfl (by decide)
  split
  · next control => exact .control control
  · next quote backslash _ _ _ _ _ printed => exact .plain quote backslash printed

/-- What stands for a character inside a literal is read as this character. -/
theorem Quoted.body {c : Char} {text : List Char} (quoted : Quoted c text) (fuel : Nat)
    (rest : List Char) :
    body (fuel + 1) (text ++ rest) =
      (Json.body fuel rest).map fun read => (c :: read.1, read.2) := by
  cases quoted with
  | letter notHex known => exact body_escape (readEscape_letter notHex known rest) fuel
  | control control => exact body_escape (readEscape_control control rest) fuel
  | plain notQuote notBackslash printed =>
    simp only [List.cons_append, List.nil_append, Json.body, if_neg notQuote,
      if_neg notBackslash, if_neg printed, Option.bind_eq_bind]
    cases Json.body fuel rest <;> rfl

/-- A literal is read as its text, whatever follows it.  By induction on the text. -/
theorem body_quote (text rest : List Char) (more : Nat) :
    body (text.length + 1 + more) (text.flatMap quoteChar ++ '"' :: rest) = some (text, rest) := by
  induction text with
  | nil =>
    rw [List.length_nil, Nat.zero_add, Nat.add_comm]
    rfl
  | cons c text ih =>
    have fuel : (c :: text).length + 1 + more = text.length + 1 + more + 1 := by
      rw [List.length_cons]
      omega
    rw [fuel, List.flatMap_cons, List.append_assoc, (quoted_quoteChar c).body, ih]
    rfl

theorem Quoted.length_pos {c : Char} {text : List Char} (quoted : Quoted c text) :
    0 < text.length := by
  cases quoted <;> exact Nat.succ_pos _

/-- A literal is at least as long as its text, and so its length is fuel enough. -/
theorem length_le_quoteChars (text : List Char) :
    text.length ≤ (text.flatMap quoteChar).length := by
  induction text with
  | nil => exact Nat.le_refl _
  | cons c text ih =>
    have pos := (quoted_quoteChar c).length_pos
    rw [List.flatMap_cons, List.length_append, List.length_cons]
    omega

/-- **A literal is read as its text**, behind its opening quote.  What follows the closing quote is
left, and may be anything. -/
theorem readString_quote (text rest : List Char) :
    readString (text.flatMap quoteChar ++ '"' :: rest) = some (String.ofList text, rest) := by
  have long := length_le_quoteChars text
  have fuel : (text.flatMap quoteChar ++ '"' :: rest).length = text.length + 1 +
      ((text.flatMap quoteChar).length - text.length + rest.length) := by
    rw [List.length_append, List.length_cons]
    omega
  rw [readString, fuel, body_quote]
  rfl

/-! ### Values -/

theorem skipBlanks_blank {c : Char} (blank : isBlank c = true) (text : List Char) :
    skipBlanks (c :: text) = skipBlanks text := by
  rw [skipBlanks, List.dropWhile_cons_of_pos blank, skipBlanks]

theorem skipBlanks_token {c : Char} (token : isBlank c = false) (text : List Char) :
    skipBlanks (c :: text) = c :: text := by
  rw [skipBlanks, List.dropWhile_cons_of_neg (by rw [token]; exact Bool.false_ne_true)]

theorem readValue_blank {c : Char} (blank : isBlank c = true) (fuel : Nat) (text : List Char) :
    readValue (fuel + 1) (c :: text) = readValue (fuel + 1) text := by
  simp only [readValue, skipBlanks_blank blank]

theorem quote_append (text rest : List Char) :
    quote text ++ rest = '"' :: (text.flatMap quoteChar ++ '"' :: rest) := by
  simp [quote]

theorem readValue_quote (fuel : Nat) (text rest : List Char) :
    readValue (fuel + 1) (quote text ++ rest) = some (.string (String.ofList text), rest) := by
  rw [quote_append, readValue, skipBlanks_token rfl]
  dsimp only
  rw [if_pos rfl, readString_quote]
  rfl

theorem readValue_object {fuel : Nat} {text more rest : List Char}
    {members : List (String × Json)} (named : skipBlanks text = '"' :: more)
    (read : readMembers fuel text = some (members, rest)) :
    readValue (fuel + 1) ('\x7b' :: text) = some (.object members, rest) := by
  rw [readValue, skipBlanks_token rfl]
  simp only [named, read]
  rfl

/-- A text after a value inside an object, or no text. -/
def Behind (rest : List Char) : Prop := ∀ c ∈ rest.head?, c = ',' ∨ c = '\x7d'

/-- A text is read as some value, with fuel for its characters and whatever is behind it. -/
def Spells (text : List Char) (json : Json) : Prop :=
  ∀ fuel rest, text.length ≤ fuel → Behind rest → readValue fuel (text ++ rest) = some (json, rest)

/-- What is spelled is read, if it is all there is. -/
theorem Spells.read {text : List Char} {json : Json} (spells : Spells text json) :
    read text = some json := by
  have whole := spells (text.length + 1) [] (Nat.le_succ _) (by simp [Behind])
  rw [List.append_nil] at whole
  simp [Json.read, whole, skipBlanks]

theorem spells_quote (text : List Char) : Spells (quote text) (.string (String.ofList text)) := by
  intro fuel rest enough _
  obtain ⟨fuel, rfl⟩ : ∃ less, fuel = less + 1 := by
    refine ⟨fuel - 1, ?_⟩
    have pos : 0 < (quote text).length := by simp [quote]
    omega
  exact readValue_quote fuel text rest

/-! ### Numbers -/

/-- A number has a digit at least, and nothing but digits. -/
theorem exists_toDigits (n : Nat) : ∃ c others, Nat.toDigits 10 n = c :: others ∧
    c.isDigit = true ∧ ∀ d ∈ others, d.isDigit = true := by
  have all : ∀ c ∈ Nat.toDigits 10 n, c.isDigit = true :=
    fun c => Nat.isDigit_of_mem_toDigits (by decide) (by decide)
  cases digits : Nat.toDigits 10 n with
  | nil => exact absurd digits Nat.toDigits_ne_nil
  | cons c others =>
    rw [digits] at all
    obtain ⟨first, rest⟩ := List.forall_mem_cons.mp all
    exact ⟨c, others, rfl, first, rest⟩

/-- Only zero has a leading zero. -/
theorem head_toDigits {n : Nat} (pos : 0 < n) : (Nat.toDigits 10 n).head? ≠ some '0' := by
  induction n using Nat.strongRecOn with
  | ind n ih =>
    rw [Nat.toDigits_eq_if (by decide)]
    split
    · intro zero
      have digit := Nat.digitChar_eq_zero.mp (Option.some.inj zero)
      omega
    · have higher := ih (n / 10) (by omega) (by omega)
      obtain ⟨c, others, digits, -⟩ := exists_toDigits (n / 10)
      rw [digits] at higher ⊢
      exact higher

theorem dropWhile_isDigit {digits rest : List Char} (all : ∀ c ∈ digits, c.isDigit = true)
    (behind : Behind rest) : (digits ++ rest).dropWhile Char.isDigit = rest := by
  rw [List.dropWhile_append_of_pos all]
  cases rest with
  | nil => rfl
  | cons c rest => rcases behind c rfl with rfl | rfl <;> rfl

/-- The digits of a number are an integer without a leading zero. -/
theorem behindInteger_toDigits (n : Nat) {rest : List Char} (behind : Behind rest) :
    behindInteger (Nat.toDigits 10 n ++ rest) = some rest := by
  rcases Nat.eq_zero_or_pos n with rfl | pos
  · rfl
  · have noZero := head_toDigits pos
    obtain ⟨c, others, digits, first, all⟩ := exists_toDigits n
    have more : behindInteger (c :: (others ++ rest)) = behindDigits (c :: (others ++ rest)) := by
      rw [behindInteger.eq_2]
      rintro rest' zero
      cases zero
      exact noZero (by rw [digits]; rfl)
    rw [digits, List.cons_append, more, behindDigits, if_pos first, dropWhile_isDigit all behind]

theorem behindFraction_of_behind {rest : List Char} (behind : Behind rest) :
    behindFraction rest = some rest := by
  cases rest with
  | nil => rfl
  | cons c rest => rcases behind c rfl with rfl | rfl <;> rfl

theorem behindExponent_of_behind {rest : List Char} (behind : Behind rest) :
    behindExponent rest = some rest := by
  cases rest with
  | nil => rfl
  | cons c rest => rcases behind c rfl with rfl | rfl <;> rfl

/-- The digits of a number are read as this number. -/
theorem readNumber_toDigits (n : Nat) {rest : List Char} (behind : Behind rest) :
    readNumber (Nat.toDigits 10 n ++ rest) = some (.number (toString n), rest) := by
  have unsigned : behindSign ['-'] (Nat.toDigits 10 n ++ rest) = Nat.toDigits 10 n ++ rest := by
    obtain ⟨c, others, digits, digit, -⟩ := exists_toDigits n
    have noSign : ¬['-'].contains c = true := by
      intro sign
      rw [List.mem_singleton.mp (List.contains_iff_mem.mp sign)] at digit
      cases digit
    rw [digits, List.cons_append, behindSign, if_neg noSign]
  simp only [readNumber, unsigned, behindInteger_toDigits n behind,
    behindFraction_of_behind behind, behindExponent_of_behind behind, Option.bind_eq_bind,
    Option.bind_some, List.length_append, Nat.add_sub_cancel, List.take_left,
    Nat.toString_eq_ofList_toDigits]

/-- A digit begins no word. -/
theorem readWord_digit {c first : Char} (digit : c.isDigit = true) (name : String)
    (begins : name.toList.head? = some first) (letter : first.isDigit = false) (json : Json)
    (rest : List Char) : readWord name json (c :: rest) = none := by
  have differ : first ≠ c := by
    rintro rfl
    rw [digit] at letter
    cases letter
  cases named : name.toList with
  | nil =>
    rw [named] at begins
    cases begins
  | cons head tail =>
    rw [named] at begins
    cases begins
    simp [readWord, named, List.isPrefixOf, differ]

/-- What begins with a digit is a number. -/
theorem readValue_digit {c : Char} (digit : c.isDigit = true) (fuel : Nat) (rest : List Char) :
    readValue (fuel + 1) (c :: rest) = readNumber (c :: rest) := by
  have differ (other : Char) (noDigit : other.isDigit = false) : c ≠ other := by
    rintro rfl
    rw [digit] at noDigit
    cases noDigit
  have token : isBlank c = false := by
    simp [isBlank, differ ' ' rfl, differ '\t' rfl, differ '\n' rfl, differ '\r' rfl]
  rw [readValue, skipBlanks_token token]
  dsimp only
  rw [if_neg (differ '"' rfl), if_neg (differ '[' rfl), if_neg (differ '\x7b' rfl),
    readWord_digit digit "null" rfl rfl, readWord_digit digit "true" rfl rfl,
    readWord_digit digit "false" rfl rfl]
  rfl

/-- The digits of a number spell it. -/
theorem spells_number (n : Nat) : Spells (toString n).toList (.number (toString n)) := by
  intro fuel rest enough behind
  have text : (toString n).toList = Nat.toDigits 10 n := by
    rw [Nat.toString_eq_ofList_toDigits, String.toList_ofList]
  have read := readNumber_toDigits n behind
  obtain ⟨c, others, digits, digit, -⟩ := exists_toDigits n
  rw [text, digits] at enough ⊢
  rw [digits, List.cons_append] at read
  obtain ⟨fuel, rfl⟩ : ∃ less, fuel = less + 1 := by
    refine ⟨fuel - 1, ?_⟩
    rw [List.length_cons] at enough
    omega
  rw [List.cons_append, readValue_digit digit, read]

end Json

/-! ### Lines -/

/-- A text has no control character, so that it is on one line. -/
def Printed (text : List Char) : Prop := ∀ c ∈ text, 0x20 ≤ c.toNat

theorem printed_append {text more : List Char} :
    Printed (text ++ more) ↔ Printed text ∧ Printed more :=
  List.forall_mem_append

theorem printed_cons {c : Char} {text : List Char} :
    Printed (c :: text) ↔ 0x20 ≤ c.toNat ∧ Printed text :=
  List.forall_mem_cons

theorem Printed.line_feed_not_mem {text : List Char} (printed : Printed text) : '\n' ∉ text :=
  fun mem => absurd (printed _ mem) (by decide)

theorem printed_digitChar : ∀ n < 0x10, 0x20 ≤ (Nat.digitChar n).toNat := by
  decide

/-- What is written for a character has no control character, whatever the character is. -/
theorem Json.Quoted.printed {c : Char} {text : List Char} (quoted : Json.Quoted c text) :
    Printed text := by
  cases quoted with
  | letter notHex known printed => simp [Printed, printed]
  | control control =>
    have first := printed_digitChar (c.toNat / 16) (by omega)
    have second := printed_digitChar (c.toNat % 16) (by omega)
    simp [Printed, first, second]
  | plain notQuote notBackslash printed => simpa [Printed] using printed

/-- There is no control character in a literal. -/
theorem printed_quote (text : List Char) : Printed (quote text) := by
  have inside : Printed (text.flatMap quoteChar) := by
    intro d mem
    obtain ⟨c, -, mem⟩ := List.mem_flatMap.mp mem
    exact (Json.quoted_quoteChar c).printed d mem
  rw [quote, List.cons_append, printed_cons, printed_append]
  exact ⟨by decide, inside, by simp [Printed]⟩

/-- A literal stays on its line. -/
theorem line_feed_not_mem_quote (text : List Char) : '\n' ∉ quote text :=
  (printed_quote text).line_feed_not_mem

end JsxDetect
