import Mathlib.Data.List.Forall2
import JsxDetect.Log.Format
import JsxDetect.Proofs.Text.Json

/-!
# The lines of a JSON log

In a JSON log an event is a document without blanks.  Whoever reads it with a reader for JSON gets
back the event: its level, its target, its message and the values that it carries, texts character
for character and numbers as they are spelled.  Since there is no control character in a literal
there is none in the document either, and so it cannot be more than a line, whatever texts the
event carries.

## Main Definitions

* `Event.document`: what the line of an event says
* `Event.SaidBy`: a line says what an event is, and stays a line

## Main Results

* `Json.spells_object`: an object is read back, if its values are
* `Event.saidBy_jsonLine`: the line of an event says what it is
* `Event.document_injective`: and no line says so of two events

## Design Notes

The line of an event is written by concatenation and read by a parser, and what connects them is
`Spells`, which is proved from the inside out: fields, the object of the fields, the event.  That
the line stays a line is a separate property, `Printed`, with the same structure.  Both are for any
event, also one with texts that are made to look like the end of a document.
-/

namespace JsxDetect

theorem JsxKind.name_inj {kind kind' : JsxKind} : kind.name = kind'.name ↔ kind = kind' := by
  cases kind <;> cases kind' <;> simp [name]

/-- What a value that an event carries is in a document. -/
def FieldValue.document : FieldValue → Json
  | number value => .number (toString value)
  | text value => .string value

/-- A number and a text are told apart, and so are two numbers by their digits. -/
theorem FieldValue.document_injective {value value' : FieldValue}
    (same : value.document = value'.document) : value = value' := by
  cases value with
  | text value =>
    cases value' with
    | text value' => rw [Json.string.inj same]
    | number value' => cases same
  | number value =>
    cases value' with
    | text value' => cases same
    | number value' =>
      have digits : Nat.toDigits 10 value = Nat.toDigits 10 value' := by
        have literals := Json.number.inj same
        rw [Nat.toString_eq_ofList_toDigits, Nat.toString_eq_ofList_toDigits] at literals
        exact String.ofList_injective literals
      have numbers := congrArg (fun digits => Nat.ofDigitChars 10 digits 0) digits
      rw [Nat.ofDigitChars_ten_toDigits, Nat.ofDigitChars_ten_toDigits] at numbers
      rw [numbers]

/-- What the line of an event says. -/
def Event.document (timestamp : List Char) (event : Event) : Json :=
  .object
    [("timestamp", .string (String.ofList timestamp)),
      ("level", .string event.level.name),
      ("fields", .object (("message", .string event.message) ::
        event.fields.map fun (name, value) => (name, value.document))),
      ("target", .string event.target)]

/-- A line says what an event is, and has no control character that could end it. -/
structure Event.SaidBy (timestamp : List Char) (event : Event) (line : List Char) : Prop where
  printed : Printed line
  document : Json.read line = some (event.document timestamp)

/-! ### Objects -/

namespace Json

/-- A member of an object without blanks. -/
def memberText (member : String × List Char) : List Char := quote member.1.toList ++ ':' :: member.2

/-- A member is read as a name and a value. -/
def SpellsMember (member : String × List Char) (json : String × Json) : Prop :=
  member.1 = json.1 ∧ Spells member.2 json.2

variable {member : String × List Char} {json : String × Json}
  {members : List (String × List Char)} {jsons : List (String × Json)}

/-- A member begins with the quote of its name. -/
theorem memberText_eq (member : String × List Char) : memberText member =
    '"' :: (member.1.toList.flatMap quoteChar ++ '"' :: ':' :: member.2) := by
  rw [memberText, quote_append]

theorem readName_memberText (member : String × List Char) (rest : List Char) :
    readName (memberText member ++ rest) = some (member.1, member.2 ++ rest) := by
  rw [memberText_eq, List.cons_append, List.append_assoc, List.cons_append, List.cons_append,
    readName, skipBlanks_token rfl]
  simp only [readString_quote, skipBlanks_token (c := ':') rfl, Option.bind_eq_bind,
    Option.bind_some, String.ofList_toList]

theorem length_lt_memberText (member : String × List Char) :
    member.2.length < (memberText member).length := by
  rw [memberText, List.length_append, List.length_cons]
  omega

/-- A member before others. -/
theorem readMembers_more (spells : SpellsMember member json) {fuel : Nat}
    (enough : (memberText member).length ≤ fuel + 1) (rest : List Char) :
    readMembers (fuel + 1) (memberText member ++ ',' :: rest) =
      (readMembers fuel rest).map fun more => (json :: more.1, more.2) := by
  obtain ⟨name, value⟩ := spells
  have shorter := length_lt_memberText member
  have read := value fuel (',' :: rest) (by omega) (by simp [Behind])
  simp only [readMembers, readName_memberText, read, name, Option.bind_eq_bind, Option.bind_some]
  rfl

/-- A member before the closing brace. -/
theorem readMembers_last (spells : SpellsMember member json) {fuel : Nat}
    (enough : (memberText member).length ≤ fuel + 1) (rest : List Char) :
    readMembers (fuel + 1) (memberText member ++ '\x7d' :: rest) = some ([json], rest) := by
  obtain ⟨name, value⟩ := spells
  have shorter := length_lt_memberText member
  have read := value fuel ('\x7d' :: rest) (by omega) (by simp [Behind])
  simp only [readMembers, readName_memberText, read, name, Option.bind_eq_bind, Option.bind_some]
  rfl

/-- The members of an object are read one after the other, by induction on them. -/
theorem readMembers_intercalate (here : SpellsMember member json)
    (later : List.Forall₂ SpellsMember members jsons) (fuel : Nat) (rest : List Char)
    (enough : (List.intercalate [','] ((member :: members).map memberText)).length ≤ fuel) :
    readMembers fuel (List.intercalate [','] ((member :: members).map memberText) ++ '\x7d' :: rest) =
      some (json :: jsons, rest) := by
  have pos := length_lt_memberText member
  induction later generalizing member json fuel with
  | nil =>
    rw [List.map_singleton, List.intercalate_singleton] at enough ⊢
    obtain ⟨fuel, rfl⟩ : ∃ less, fuel = less + 1 := ⟨fuel - 1, by omega⟩
    rw [readMembers_last here enough]
  | @cons next nextJson members jsons first later ih =>
    have joined : List.intercalate [','] ((member :: next :: members).map memberText) =
        memberText member ++ ',' :: List.intercalate [','] ((next :: members).map memberText) := by
      simp [List.intercalate_cons_cons]
    rw [joined, List.length_append, List.length_cons] at enough
    obtain ⟨fuel, rfl⟩ : ∃ less, fuel = less + 1 := ⟨fuel - 1, by omega⟩
    have read := ih first fuel (by omega) (length_lt_memberText next)
    rw [joined, List.append_assoc, List.cons_append, readMembers_more here (by omega), read]
    rfl

/-- **An object is read back**, if its values are.  The members are told by their names and kept in
order; nothing is assumed of the names. -/
theorem spells_object (here : SpellsMember member json)
    (later : List.Forall₂ SpellsMember members jsons) :
    Spells (Event.object (member :: members)) (.object (json :: jsons)) := by
  intro fuel rest enough _
  have text : Event.object (member :: members) =
      '\x7b' :: (List.intercalate [','] ((member :: members).map memberText) ++ ['\x7d']) := rfl
  rw [text, List.length_cons, List.length_append, List.length_singleton] at enough
  obtain ⟨fuel, rfl⟩ : ∃ less, fuel = less + 1 := ⟨fuel - 1, by omega⟩
  have read := readMembers_intercalate here later fuel rest (by omega)
  rw [text, List.cons_append, List.append_assoc, List.singleton_append]
  obtain ⟨more, begins⟩ : ∃ more, skipBlanks (List.intercalate [',']
      ((member :: members).map memberText) ++ '\x7d' :: rest) = '"' :: more := by
    rw [List.map_cons, memberText_eq, List.intercalate_cons_cons_left, List.cons_append]
    exact ⟨_, skipBlanks_token rfl _⟩
  exact readValue_object begins read

end Json

/-! ### Events -/

namespace Event

/-- A field of an event is read back. -/
theorem spellsMember_field (field : String × FieldValue) :
    Json.SpellsMember (field.1, field.2.json) (field.1, field.2.document) := by
  refine ⟨rfl, ?_⟩
  cases field.2 with
  | number value => exact Json.spells_number value
  | text value =>
    have spells := Json.spells_quote value.toList
    rw [String.ofList_toList] at spells
    exact spells

theorem spellsMember_text (name text : String) :
    Json.SpellsMember (name, quote text.toList) (name, .string text) :=
  spellsMember_field (name, .text text)

theorem spells_fields (event : Event) :
    List.Forall₂ Json.SpellsMember (event.fields.map fun (name, value) => (name, value.json))
      (event.fields.map fun (name, value) => (name, value.document)) := by
  rw [List.forall₂_map_left_iff, List.forall₂_map_right_iff]
  exact List.forall₂_same.mpr fun field _ => spellsMember_field field

/-- The line of an event is read as its document. -/
theorem read_jsonLine (timestamp : List Char) (event : Event) :
    Json.read (event.jsonLine timestamp) = some (event.document timestamp) := by
  have fields : Json.Spells
      (object (("message", quote event.message.toList) ::
        event.fields.map fun (name, value) => (name, value.json)))
      (.object (("message", .string event.message) ::
        event.fields.map fun (name, value) => (name, value.document))) :=
    Json.spells_object (spellsMember_text "message" event.message) event.spells_fields
  refine Json.Spells.read (Json.spells_object ⟨rfl, Json.spells_quote timestamp⟩ ?_)
  exact .cons (spellsMember_text "level" event.level.name)
    (.cons ⟨rfl, fields⟩ (.cons (spellsMember_text "target" event.target) .nil))

/-! ### Lines -/

/-- Texts without control characters have none with commas between them. -/
theorem printed_intercalate {texts : List (List Char)} (each : ∀ text ∈ texts, Printed text) :
    Printed (List.intercalate [','] texts) := by
  induction texts with
  | nil => simp [Printed]
  | cons text texts ih =>
    obtain ⟨first, others⟩ := List.forall_mem_cons.mp each
    cases texts with
    | nil => simpa using first
    | cons next texts =>
      rw [List.intercalate_cons_cons, printed_append, printed_append]
      exact ⟨⟨first, by simp [Printed]⟩, ih others⟩

/-- An object has no control character, if its values have none. -/
theorem printed_object {members : List (String × List Char)}
    (values : ∀ member ∈ members, Printed member.2) : Printed (object members) := by
  have each : ∀ text ∈ members.map Json.memberText, Printed text := by
    rw [List.forall_mem_map]
    intro member mem
    rw [Json.memberText, printed_append, printed_cons]
    exact ⟨printed_quote _, by decide, values member mem⟩
  show Printed ('\x7b' :: List.intercalate [','] (members.map Json.memberText) ++ ['\x7d'])
  rw [List.cons_append, printed_cons, printed_append]
  exact ⟨by decide, printed_intercalate each, by simp [Printed]⟩

/-- A value has no control character. -/
theorem printed_json (value : FieldValue) : Printed value.json := by
  cases value with
  | number value =>
    intro c mem
    rw [FieldValue.json, Nat.toString_eq_ofList_toDigits, String.toList_ofList] at mem
    have digit := Nat.isDigit_of_mem_toDigits (by decide) (by decide) mem
    exact Nat.le_trans (by decide) (Char.isDigit_iff_toNat.mp digit).1
  | text value => exact printed_quote _

/-- The line of an event has none. -/
theorem printed_jsonLine (timestamp : List Char) (event : Event) :
    Printed (event.jsonLine timestamp) := by
  have fields : ∀ member ∈ ("message", quote event.message.toList) ::
      event.fields.map fun (name, value) => (name, value.json), Printed member.2 := by
    rw [List.forall_mem_cons, List.forall_mem_map]
    exact ⟨printed_quote _, fun field _ => printed_json field.2⟩
  refine printed_object ?_
  simp [printed_quote, printed_object fields]

/-- **The line of an event** says what it is, and is one line.  Texts of the event may hold
anything, also what looks like the end of the document. -/
theorem saidBy_jsonLine (timestamp : List Char) (event : Event) :
    event.SaidBy timestamp (event.jsonLine timestamp) :=
  ⟨event.printed_jsonLine timestamp, event.read_jsonLine timestamp⟩

/-- What an event says and carries is what it is. -/
theorem eq_of_fields {event event' : Event} (messages : event.message = event'.message)
    (carried : event.fields = event'.fields) : event = event' := by
  -- Events of different kinds say different things, those of one kind what they carry.
  cases event <;> cases event' <;> simp_all [message, fields, JsxKind.name_inj]

/-- **No line says of two events what they are.**  The message and the fields determine the event,
and its level and target with it. -/
theorem document_injective {timestamp other : List Char} {event event' : Event}
    (same : event.document timestamp = event'.document other) :
    timestamp = other ∧ event = event' := by
  simp only [document, Json.object.injEq, List.cons.injEq, Prod.mk.injEq, Json.string.injEq,
    true_and, and_true] at same
  obtain ⟨times, -, ⟨messages, carried⟩, -⟩ := same
  have injective : Function.Injective fun field : String × FieldValue =>
      (field.1, field.2.document) := by
    intro field field' equal
    obtain ⟨names, values⟩ := Prod.mk.inj equal
    exact Prod.ext names (FieldValue.document_injective values)
  exact ⟨String.ofList_injective times,
    eq_of_fields messages (List.map_injective_iff.mpr injective carried)⟩

end Event

end JsxDetect
