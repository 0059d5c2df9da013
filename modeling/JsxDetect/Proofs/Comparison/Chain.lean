import JsxDetect.Proofs.Comparison.Chart
import JsxDetect.Proofs.Parse.NextToken

/-!
# Chains of comparisons

The text `const ok = x1 op1 x2 ... xn;`, and the places in it that the parser comes to.  Each
`Station` is one of them, with what is left of the chain; the stations of a chain are numbered
from the beginning, and each is followed by the next one.

## Main Definitions

* `Operand`, `Gap`, `Step`, `Chain`: a chain of comparisons, `Chain.text`: its text
* `Station`: what the parser can have come to, `Station.rest`: the text that is left
* `Chain.station`: the stations of a chain, `Chain.place`: where they are in the text

## Main Results

* `Chain.place_offset_lt`: the stations lie in the text in their order

## Design Notes

**Stations instead of offsets.**  The versions of a round are at different places in the text.
Naming the places after what is left of the chain makes the next token a matter of the constructor,
and numbering them from the beginning makes the progress of a version an inequality between numbers.
Offsets in bytes occur only in `place` and the lemmas about it, which say that both orders agree.

**The text is a parameter of its gaps.**  A gap is any nonempty list of blanks, and an operand any
name that is no keyword or any numeral, so the results are about all such texts.  Well-formedness is
kept in the structures and does not occur as a hypothesis later.
-/

namespace JsxDetect.Comparison

open Token

/-! ### The text -/

/-- A decimal numeral without a leading zero. -/
structure IsNumeral (digits : List Char) : Prop where
  nonempty : digits ≠ []
  all : ∀ c ∈ digits, isDigit c = true
  noZero : digits.head? = some '0' → digits = ['0']

/-- What is compared: a name that is no keyword, or a numeral. -/
inductive Operand where
  | name (word : List Char) (isWord : IsWord word) (free : Grammar.keyword? word = none)
  | numeral (digits : List Char) (isNumeral : IsNumeral digits)

namespace Operand

/-- The text of an operand. -/
def chars : Operand → List Char
  | name word _ _ => word
  | numeral digits _ => digits

/-- The token of an operand. -/
def symbol : Operand → Symbol
  | name .. => 1
  | numeral .. => 119

end Operand

/-- The blanks on one side of an operator. -/
structure Gap where
  chars : List Char
  nonempty : chars ≠ []
  blank : ∀ c ∈ chars, c ∈ spaces

/-- A single space. -/
def Gap.space : Gap := ⟨[' '], List.cons_ne_nil _ _, by decide⟩

/-- An operator between blanks, and the operand behind it. -/
structure Step where
  before : Gap
  operator : Operator
  behind : Gap
  operand : Operand

/-- A chain of comparisons. -/
structure Chain where
  operand : Operand
  steps : List Step

/-- The text behind an operand. -/
def textOf : List Step → List Char
  | [] => [';']
  | s :: steps => s.before.chars ++ (s.operator.text ++
      (s.behind.chars ++ (s.operand.chars ++ textOf steps)))

/-- The text of a chain. -/
def Chain.text (c : Chain) : List Char :=
  "const ok = ".toList ++ (c.operand.chars ++ textOf c.steps)

/-- The characters that a chain may have. -/
def isOfChain (d : Char) : Bool :=
  isLetter d || isDigit d ||
    (spaces ++ ['<', '>', '=', '!', '&', '|', '+', '-', '*', '%', ';']).contains d

/-- A chain has no other characters.  In particular it has no question mark, on which the reading of
tokens could depend. -/
theorem Chain.isOfChain_of_mem (c : Chain) : ∀ d ∈ c.text, isOfChain d = true := by
  have blanks (gap : Gap) : ∀ d ∈ gap.chars, isOfChain d = true := fun d mem => by
    have known : ∀ d ∈ spaces, isOfChain d = true := by decide
    exact known d (gap.blank d mem)
  have operands (x : Operand) : ∀ d ∈ x.chars, isOfChain d = true := fun d mem => by
    cases x with
    | name word isWord free => rw [isOfChain, isWord.letters d mem, Bool.true_or, Bool.true_or]
    | numeral digits isNumeral => rw [isOfChain, isNumeral.all d mem, Bool.or_true, Bool.true_or]
  have operators (o : Operator) : ∀ d ∈ o.text, isOfChain d = true := by
    cases o <;> decide
  have steps (steps : List Step) : ∀ d ∈ textOf steps, isOfChain d = true := by
    induction steps with
    | nil => decide
    | cons s steps ih =>
      intro d mem
      simp only [textOf, List.mem_append] at mem
      rcases mem with mem | mem | mem | mem | mem
      · exact blanks s.before d mem
      · exact operators s.operator d mem
      · exact blanks s.behind d mem
      · exact operands s.operand d mem
      · exact ih d mem
  have beginning : ∀ d ∈ ['c', 'o', 'n', 's', 't', ' ', 'o', 'k', ' ', '=', ' '], isOfChain d = true := by
    decide
  intro d mem
  rcases List.mem_append.mp mem with mem | mem
  · exact beginning d mem
  · rcases List.mem_append.mp mem with mem | mem
    · exact operands c.operand d mem
    · exact steps c.steps d mem

/-! ### Stations -/

/-- What the parser can have come to: something of the beginning, the blanks before an operand,
what follows an operand, the second character of an operator, or the end. -/
inductive Station where
  | begin (c : Chain)
  | named (c : Chain)
  | equals (c : Chain)
  | before (prev : Option Operator) (gap : Gap) (x : Operand) (steps : List Step)
  | behind (prev : Option Operator) (x : Operand) (steps : List Step)
  | within (o : Operator) (long : o.long = true) (gap : Gap) (x : Operand) (steps : List Step)
  | ended

namespace Station

/-- The kind of a station. -/
def site : Station → Site
  | begin _ => .begin
  | named _ => .named
  | equals _ => .equals
  | before prev .. => .before prev
  | behind _ _ steps => .behind (steps.head?.map Step.operator)
  | within o .. => .within o
  | ended => .ended

/-- The text that is left at a station. -/
def rest : Station → List Char
  | begin c => c.text
  | named c => [' '] ++ (['o', 'k'] ++ ([' '] ++ (['='] ++ ([' '] ++
      (c.operand.chars ++ textOf c.steps)))))
  | equals c => [' '] ++ (['='] ++ ([' '] ++ (c.operand.chars ++ textOf c.steps)))
  | before _ gap x steps => gap.chars ++ (x.chars ++ textOf steps)
  | behind _ _ steps => textOf steps
  | within o _ gap x steps => o.text.tail ++ (gap.chars ++ (x.chars ++ textOf steps))
  | ended => []

/-- The station behind the next character of an operator, or behind the next token. -/
def follow : Station → Station
  | begin c => named c
  | named c => equals c
  | equals c => before none .space c.operand c.steps
  | before prev _ x steps => behind prev x steps
  | behind _ _ [] => ended
  | behind _ _ (s :: steps) =>
    if long : s.operator.long then within s.operator long s.behind s.operand steps
    else before (some s.operator) s.behind s.operand steps
  | within o _ gap x steps => before (some o) gap x steps
  | ended => ended

/-- The stations that follow the operands of some steps, up to the end. -/
def countOf : List Step → Nat
  | [] => 1
  | s :: steps => (if s.operator.long then 3 else 2) + countOf steps

/-- The stations that follow a station, up to the end. -/
def left : Station → Nat
  | begin c => 4 + countOf c.steps
  | named c => 3 + countOf c.steps
  | equals c => 2 + countOf c.steps
  | before _ _ _ steps => 1 + countOf steps
  | behind _ _ steps => countOf steps
  | within _ _ _ _ steps => 2 + countOf steps
  | ended => 0

theorem follow_long {s : Step} (long : s.operator.long = true) (prev : Option Operator) (x : Operand)
    (steps : List Step) :
    (behind prev x (s :: steps)).follow = within s.operator long s.behind s.operand steps :=
  dif_pos long

theorem follow_short {s : Step} (short : s.operator.long = false) (prev : Option Operator)
    (x : Operand) (steps : List Step) :
    (behind prev x (s :: steps)).follow = before (some s.operator) s.behind s.operand steps :=
  dif_neg (by rw [short]; exact Bool.false_ne_true)

/-- A station is followed by others, or it is the end.  The number of stations left goes down by
one. -/
theorem left_follow (σ : Station) : σ.follow.left = σ.left - 1 := by
  match σ with
  | begin c | named c | equals c => simp only [follow, left]; omega
  | before .. | within .. => simp only [follow, left]; omega
  | behind _ _ [] => rfl
  | behind _ _ (s :: steps) =>
    cases long : s.operator.long with
    | true => rw [follow_long long]; simp only [left, countOf, long, if_true]; omega
    | false => rw [follow_short long]; simp only [left, countOf, long, Bool.false_eq_true, if_false]; omega
  | ended => rfl

theorem countOf_pos (steps : List Step) : 0 < countOf steps := by
  cases steps with
  | nil => exact Nat.one_pos
  | cons s steps => simp only [countOf]; split <;> omega

/-- The text up to the next station.  It is empty only at the end. -/
theorem rest_follow (σ : Station) :
    ∃ taken, σ.rest = taken ++ σ.follow.rest ∧ (taken = [] → σ = ended) := by
  match σ with
  | begin c => exact ⟨"const".toList, rfl, fun none => by cases none⟩
  | named c => exact ⟨[' ', 'o', 'k'], rfl, fun none => by cases none⟩
  | equals c => exact ⟨[' ', '='], rfl, fun none => by cases none⟩
  | before prev gap x steps =>
    exact ⟨gap.chars ++ x.chars, (List.append_assoc ..).symm, fun none =>
      absurd (List.append_eq_nil_iff.mp none).1 gap.nonempty⟩
  | behind _ _ [] => exact ⟨[';'], rfl, fun none => by cases none⟩
  | behind _ _ (s :: steps) =>
    have nonempty (chars : List Char) : s.before.chars ++ chars ≠ [] := fun none =>
      s.before.nonempty (List.append_eq_nil_iff.mp none).1
    cases long : s.operator.long with
    | true =>
      refine ⟨s.before.chars ++ [s.operator.text.headD ' '], ?_, fun none => absurd none (nonempty _)⟩
      rw [follow_long long]
      simp only [rest, textOf, List.append_assoc]
      cases s.operator <;> rfl
    | false =>
      refine ⟨s.before.chars ++ s.operator.text, ?_, fun none => absurd none (nonempty _)⟩
      rw [follow_short long]
      simp only [rest, textOf, List.append_assoc]
  | within o long gap x steps =>
    refine ⟨o.text.tail, rfl, fun none => ?_⟩
    cases o <;> cases none <;> cases long
  | ended => exact ⟨[], rfl, fun _ => rfl⟩

end Station

/-! ### The stations of a chain -/

namespace Chain

variable (c : Chain)

/-- The stations of a chain, by number. -/
def station : Nat → Station
  | 0 => .begin c
  | i + 1 => (station i).follow

/-- The number of the end. -/
def last : Nat := 4 + Station.countOf c.steps

variable {c} {i j : Nat}

theorem station_left : (c.station i).left = c.last - i := by
  induction i with
  | zero => rfl
  | succ i ih => rw [station, Station.left_follow, ih, Nat.sub_sub]

theorem eq_last_of_ended (inside : i ≤ c.last) (ended : c.station i = .ended) : i = c.last := by
  have left := station_left (c := c) (i := i)
  rw [ended, Station.left] at left
  omega

theorem rest_suffix (later : i ≤ j) : (c.station j).rest <:+ (c.station i).rest := by
  induction later with
  | refl => exact List.suffix_refl _
  | @step j _ ih =>
    obtain ⟨taken, text, -⟩ := (c.station j).rest_follow
    exact (List.IsSuffix.trans ⟨taken, text.symm⟩ ih)

/-- What is left at a later station is less than at an earlier one. -/
theorem rest_length_lt (later : i < j) (inside : j ≤ c.last) :
    (c.station j).rest.length < (c.station i).rest.length := by
  obtain ⟨taken, text, stops⟩ := (c.station i).rest_follow
  have nonempty : taken ≠ [] := fun none => by
    have := eq_last_of_ended (by omega) (stops none)
    omega
  have length := congrArg List.length text
  rw [List.length_append] at length
  have pos := List.length_pos_iff.mpr nonempty
  have suffix := (rest_suffix (c := c) (show i + 1 ≤ j from later)).length_le
  rw [station] at suffix
  omega

variable (c) in
/-- There are no more stations than characters. -/
theorem last_le : c.last ≤ c.text.length := by
  have upTo (i : Nat) (inside : i ≤ c.last) : i + (c.station i).rest.length ≤ c.text.length := by
    induction i with
    | zero => exact Nat.le_of_eq (Nat.zero_add _)
    | succ i ih =>
      have before := ih (by omega)
      have less := rest_length_lt (Nat.lt_add_one i) inside
      omega
  have all := upTo c.last (Nat.le_refl _)
  omega

/-! ### Places -/

variable (c) in
/-- The place of the text where a station is. -/
def place (i : Nat) : Cursor :=
  (Cursor.ofText c.text).behind (c.text.take (c.text.length - (c.station i).rest.length))
    (c.station i).rest

variable (c) in
theorem place_zero : c.place 0 = Cursor.ofText c.text := by
  have none : c.text.length - (c.station 0).rest.length = 0 := Nat.sub_self _
  rw [place, none]
  rfl

@[simp] theorem place_rest : (c.place i).rest = (c.station i).rest := Cursor.behind_rest ..

/-- Going on behind the text between two stations leads from the one to the other. -/
theorem place_behind {taken : List Char} (rest : (c.station i).rest = taken ++ (c.station j).rest) :
    (c.place i).behind taken (c.station j).rest = c.place j := by
  obtain ⟨before, text⟩ := rest_suffix (c := c) (Nat.zero_le i)
  have text : c.text = before ++ (taken ++ (c.station j).rest) := by
    rw [← rest, text]
    rfl
  -- what lies before a station is the text without what is left there
  have upTo : ∀ {chars left : List Char}, c.text = chars ++ left →
      c.text.take (c.text.length - left.length) = chars := by
    intro chars left text
    rw [text, List.length_append, Nat.add_sub_cancel, List.take_left]
  rw [place, place, rest, upTo text, upTo (text.trans (List.append_assoc ..).symm),
    Cursor.behind_append]

/-- **The stations lie in the text in their order.**  Between two of them there is some text, so an
offset tells which station a version is at. -/
theorem place_offset_lt (later : i < j) (inside : j ≤ c.last) :
    (c.place i).offset < (c.place j).offset := by
  obtain ⟨taken, text⟩ := rest_suffix (c := c) (Nat.le_of_lt later)
  have shorter := rest_length_lt later inside
  have length := congrArg List.length text
  rw [List.length_append] at length
  have more := Cursor.offset_le_behind (c.place i) taken (c.station j).rest
  rw [place_behind text.symm] at more
  omega

/-- Stations at the same offset are the same, which a region asks for. -/
theorem place_injective (insideI : i ≤ c.last) (insideJ : j ≤ c.last)
    (same : (c.place i).offset = (c.place j).offset) : i = j := by
  rcases Nat.lt_trichotomy i j with less | same' | more
  · have := place_offset_lt less insideJ
    omega
  · exact same'
  · have := place_offset_lt more insideI
    omega

/-- Offsets are ordered as the numbers are. -/
theorem place_offset_le_iff (insideI : i ≤ c.last) (insideJ : j ≤ c.last) :
    (c.place i).offset ≤ (c.place j).offset ↔ i ≤ j := by
  constructor
  · intro le
    by_contra less
    have := place_offset_lt (Nat.lt_of_not_le less) insideI
    omega
  · intro le
    rcases Nat.lt_or_eq_of_le le with less | rfl
    · exact Nat.le_of_lt (place_offset_lt less insideJ)
    · exact Nat.le_refl _

/-- A text of some characters takes at most four times as many bytes. -/
theorem place_offset_le : (c.place i).offset ≤ 4 * c.text.length := by
  have walk : ∀ (chars rest : List Char) (cursor : Cursor),
      (cursor.behind chars rest).offset ≤ cursor.offset + 4 * chars.length := by
    intro chars rest
    induction chars with
    | nil => exact fun _ => Nat.le_refl _
    | cons d chars ih =>
      intro cursor
      have later := ih (cursor.past d (chars ++ rest))
      have width : Cursor.width d ≤ 4 := by
        rw [Cursor.width]
        split
        · decide
        · split
          · decide
          · split <;> decide
      have offset : (cursor.past d (chars ++ rest)).offset = cursor.offset + Cursor.width d := rfl
      rw [Cursor.behind_cons, List.length_cons]
      omega
  refine Nat.le_trans (walk _ _ _) ?_
  rw [List.length_take]
  have start : (Cursor.ofText c.text).offset = 0 := rfl
  omega

end Chain

end JsxDetect.Comparison
