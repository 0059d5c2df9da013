import JsxDetect.Proofs.Text.Decoding
import JsxDetect.Source

/-!
# Files with a null byte

A text with a null character is taken for binary data and not looked at.  What is asked for is a
null character of the decoded text, while it is files that are binary or not, and these need not
be valid UTF-8.  Both come to the same for every content of a file: decoding gives as many null
characters as there are null bytes, wherever these are.

## Main Definitions

* `FileSystem.Stores`: a path leads to a file with some content
* `TakenForBinary`: what comes of a text with a null character

## Main Results

* `detectIn_of_null`, `detectIn_of_no_null`: what is reported of a text
* `detectFile_of_content`: what is reported of a file
* `null_guard_exact`: a file is taken for binary data exactly if it has a null byte

## Design Notes

The guard looks at decoded characters, and the claim is about bytes.  Between them is one equation,
that decoding preserves the number of nulls.  The events of a run are compared by `tellsOfTree`,
because what should be shown is not only that no JSX is reported but that the text was not looked
at.
-/

namespace JsxDetect

/-- The path leads to a regular file with some content, whatever bytes these are. -/
def FileSystem.Stores (fs : FileSystem) (path content : Bytes) : Prop :=
  ∃ trail, fs.resolve path = .ok trail ∧ fs.node? trail = some (.file content)

/-- Does the event come of looking at the tree of a text? -/
def Event.tellsOfTree : Event → Bool
  | .syntaxErrors _ | .jsxFound _ => true
  | _ => false

/-- What comes of a text with a null character: it contains no JSX, that it is binary data is told
last, and nothing is told of a tree. -/
structure TakenForBinary (outcome : Outcome Bool) (text : List Char) : Prop where
  result : outcome.result = .ok false
  told : outcome.events.getLast? = some (.binaryText (Utf8.encode text).length)
  noTree : ∀ event ∈ outcome.events, event.tellsOfTree = false

/-! ### Texts -/

theorem detectIn_of_null {text : List Char} (null : '\x00' ∈ text) :
    detectIn text = ⟨none, [.binaryText (Utf8.encode text).length]⟩ := by
  rw [detectIn, if_pos (List.contains_iff_mem.mpr null), byteLength_eq]

/-- Of a text without a null character the errors are told, then the first JSX. -/
theorem detectIn_of_no_null {text : List Char} (noNull : '\x00' ∉ text) :
    detectIn text = ⟨(Parse.parse text).firstJsx? fun _ => true,
      (if (Parse.parse text).hasError then [.syntaxErrors (Utf8.encode text).length] else []) ++
        (((Parse.parse text).firstJsx? fun _ => true).map Event.jsxFound).toList⟩ := by
  have isText : ¬text.contains '\x00' = true := fun null => noNull (List.contains_iff_mem.mp null)
  rw [detectIn, if_neg isText, byteLength_eq]
  dsimp only
  cases (Parse.parse text).firstJsx? fun _ => true with
  | none => simp
  | some kind => rfl

/-- Of a text without one this event is not told. -/
theorem binaryText_not_mem {text : List Char} (noNull : '\x00' ∉ text) (len : Nat) :
    .binaryText len ∉ (detectIn text).events := by
  rw [detectIn_of_no_null noNull]
  intro mem
  rcases List.mem_append.mp mem with errors | found
  · split at errors
    · cases List.mem_singleton.mp errors
    · cases errors
  · obtain ⟨kind, -, same⟩ := Option.map_eq_some_iff.mp (Option.mem_toList.mp found)
    cases same

/-! ### Files -/

section Files

variable {access : Bytes → Access} {path content : Bytes}

/-- The text of a file is the decoded content, of which reading reports the rest. -/
theorem decodeFile_result (path content : Bytes) :
    (decodeFile path content).result = .ok (Utf8.decodeLossy content) := by
  rw [decodeFile, Utf8.decode?]
  cases Utf8.wellFormed content with
  | true => rfl
  | false => rfl

/-- Reading a file reports neither a null character nor anything of a tree. -/
theorem mem_decodeFile_events {event : Event} (mem : event ∈ (decodeFile path content).events) :
    event.tellsOfTree = false ∧ ∀ len, event ≠ .binaryText len := by
  rw [decodeFile] at mem
  cases decoded : Utf8.decode? content with
  | some text =>
    rw [decoded] at mem
    rw [List.mem_singleton.mp mem]
    exact ⟨rfl, nofun⟩
  | none =>
    rw [decoded] at mem
    rcases List.mem_cons.mp mem with rfl | second
    · exact ⟨rfl, nofun⟩
    · rw [List.mem_singleton.mp second]
      exact ⟨rfl, nofun⟩

/-- What is reported of a file is what is reported of reading it, then of its text. -/
theorem detectFile_of_content (given : access path = .content content) :
    detectFile access path = ⟨.ok (detectIn (Utf8.decodeLossy content)).jsx,
      (decodeFile path content).events ++ (detectIn (Utf8.decodeLossy content)).events⟩ := by
  have loaded : load access path = decodeFile path content := by simp only [load, given]
  rw [detectFile, loaded, Outcome.andThen, decodeFile_result]
  rfl

theorem access_of_stores {fs : FileSystem} (stored : fs.Stores path content) :
    fs.access path = .content content := by
  obtain ⟨trail, leads, node⟩ := stored
  exact FileSystem.access_of_content leads node

/-- A file with a null byte is taken for binary data. -/
theorem takenForBinary_of_null (given : access path = .content content) (null : 0 ∈ content) :
    TakenForBinary (detectFile access path) (Utf8.decodeLossy content) := by
  have inText := (Utf8.null_mem_decodeLossy_iff content).mpr null
  rw [detectFile_of_content given, detectIn_of_null inText]
  refine ⟨rfl, List.getLast?_concat, fun event mem => ?_⟩
  rcases List.mem_append.mp mem with loading | binary
  · exact (mem_decodeFile_events loading).1
  · rw [List.mem_singleton.mp binary]
    rfl

/-- Of a file without a null byte nothing like that is told. -/
theorem binaryText_not_mem_detectFile (given : access path = .content content)
    (noNull : 0 ∉ content) (len : Nat) : .binaryText len ∉ (detectFile access path).events := by
  have noNullText : '\x00' ∉ Utf8.decodeLossy content := fun null =>
    noNull ((Utf8.null_mem_decodeLossy_iff content).mp null)
  rw [detectFile_of_content given]
  intro mem
  rcases List.mem_append.mp mem with loading | looking
  · exact (mem_decodeFile_events loading).2 len rfl
  · exact binaryText_not_mem noNullText len looking

end Files

/-- **The guard against binary data is exact** on the bytes of a file, whatever bytes these are:
the file is taken for binary data if, and only if, one of them is null, since decoding neither
loses a null byte nor makes up a null character. -/
theorem null_guard_exact (fs : FileSystem) (path content : Bytes)
    (stored : fs.Stores path content) :
    (TakenForBinary (detectFile fs.access path) (Utf8.decodeLossy content) ↔ 0 ∈ content) ∧
      (0 ∉ content → ∀ len, .binaryText len ∉ (detectFile fs.access path).events) ∧
      (Utf8.decodeLossy content).count '\x00' = content.count 0 := by
  have given := access_of_stores stored
  refine ⟨⟨fun taken => ?_, takenForBinary_of_null given⟩, binaryText_not_mem_detectFile given,
    Utf8.count_null_decodeLossy content⟩
  refine Decidable.byContradiction fun noNull => ?_
  exact binaryText_not_mem_detectFile given noNull _ (List.mem_of_getLast? taken.told)

/-- A file in which a null byte cuts a character off, and an element follows. -/
theorem null_in_cut_character :
    let content : Bytes := [0xE2, 0x82, 0x00, 0x3C, 0x61, 0x2F, 0x3E]
    let fs : FileSystem := ⟨[([[0x61]], .file content)], []⟩
    fs.Stores [0x61] content ∧
      TakenForBinary (detectFile fs.access [0x61]) (Utf8.decodeLossy content) := by
  intro content fs
  have stored : fs.Stores [0x61] content := ⟨[[0x61]], rfl, rfl⟩
  exact ⟨stored, (null_guard_exact fs [0x61] content stored).1.mpr (by decide)⟩

end JsxDetect
