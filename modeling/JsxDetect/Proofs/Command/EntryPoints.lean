import JsxDetect.Proofs.Command.ExitCodes
import JsxDetect.Proofs.Detection.Answer
import JsxDetect.Proofs.Text.RoundTrip

/-!
# The ways to a text

A text is looked at as it stands, as a value, as the content of a file, or because a request
names it or its file.  This module shows that the answer is the same on each way, and so is what
there is to report: nothing is trimmed, replaced or normalised before the text is looked at,
since the bytes of a text are decoded as this text.  Only a request takes an empty text for none.

## Main Definitions

* `FileSystem.Holds`: a path leads to a file with a text
* `EntryPointsAgree`: what each way to a text comes to

## Main Results

* `entry_points_agree`: all ways agree for every text

## Design Notes

Each way to a text is a composition of decoding, detection and output, and what is to be shown is
that decoding undoes encoding, `decodeFile_encodeString`.  All else is evaluation.  The result is a
structure with a field for each way, so that a way that is added later becomes a field and not a new
theorem; and the two ways that differ on the empty text have a condition there.
-/

namespace JsxDetect

/-- The path leads to a regular file whose content are the bytes of a text. -/
def FileSystem.Holds (fs : FileSystem) (path : Bytes) (text : String) : Prop :=
  ∃ trail, fs.resolve path = .ok trail ∧
    fs.node? trail = some (.file (Utf8.encodeString text))

/-- What each way to a text comes to. -/
structure EntryPointsAgree (fs : FileSystem) (text : String) : Prop where
  /-- As a value. -/
  value : detectValue (.string text) = (detect text).outcome
  /-- As the content of a file, reading which is reported first. -/
  file : ∀ path, fs.Holds path text → detectFile fs.access path =
    ⟨.ok (detect text).jsx,
      .fileLoaded (Failure.showPath path) text.utf8ByteSize :: (detect text).events⟩
  /-- The path is reported as it is, if it is a text. -/
  path_shown : ∀ path : String, Failure.showPath (Utf8.encodeString path) = path
  /-- The text itself gives no occasion to report on files. -/
  events : ∀ path, .invalidUtf8 path ∉ (detect text).events ∧
    ∀ len, .fileLoaded path len ∉ (detect text).events
  /-- As the content of a file that a request names, if the answer can be written. -/
  fileRequest : ∀ (request : Request) (path : String) (answers errors : Sink),
    request.file = some path → path ≠ "" → fs.Holds (Utf8.encodeString path) text →
    answers.fits (Utf8.encode (answerText request (.file path) (detect text).jsx)) = true →
    run fs.access request answers errors =
      ⟨.ofAnswer (detect text).jsx,
        Utf8.encode (answerText request (.file path) (detect text).jsx), [],
        .fileLoaded path text.utf8ByteSize :: (detect text).events⟩
  /-- As what a request holds, if the answer can be written. -/
  sourceRequest : ∀ (request : Request) (answers errors : Sink),
    request.file = none → request.source = some text → text ≠ "" →
    answers.fits (Utf8.encode (answerText request (.source text) (detect text).jsx)) = true →
    run fs.access request answers errors =
      ⟨.ofAnswer (detect text).jsx,
        Utf8.encode (answerText request (.source text) (detect text).jsx), [],
        (detect text).events⟩
  /-- An empty text contains no JSX, but a request for it is one for nothing. -/
  empty : text = "" → (detect text).jsx = false ∧
    ∀ (request : Request) (answers errors : Sink),
      request.file = none → request.source = some text →
      (judge fs.access request).result = .error .missingInput ∧
        (run fs.access request answers errors).exit = .failure

/-! ### Files -/

section Files

variable {fs : FileSystem} {path : Bytes} {text : String}

theorem access_of_holds (holds : fs.Holds path text) :
    fs.access path = .content (Utf8.encodeString text) := by
  obtain ⟨trail, leads, node⟩ := holds
  exact FileSystem.access_of_content leads node

theorem decodeFile_encodeString (path : Bytes) (text : String) :
    decodeFile path (Utf8.encodeString text) =
      ⟨.ok text.toList, [.fileLoaded (Failure.showPath path) text.utf8ByteSize]⟩ := by
  rw [decodeFile, ← Utf8.length_encodeString, Utf8.encodeString, Utf8.decode?_encode]

theorem detectFile_of_holds (holds : fs.Holds path text) : detectFile fs.access path =
    ⟨.ok (detect text).jsx,
      .fileLoaded (Failure.showPath path) text.utf8ByteSize :: (detect text).events⟩ := by
  simp only [detectFile, load, access_of_holds holds, decodeFile_encodeString]
  rfl

theorem showPath_encodeString (path : String) :
    Failure.showPath (Utf8.encodeString path) = path := by
  rw [Failure.showPath, Utf8.encodeString, Utf8.decodeLossy_encode, String.ofList_toList]

end Files

/-! ### What is reported -/

/-- Looking at a text, there are only three things to report. -/
theorem mem_events_detectIn {text : List Char} {event : Event}
    (mem : event ∈ (detectIn text).events) :
    (∃ len, event = .binaryText len) ∨ (∃ len, event = .syntaxErrors len) ∨
      ∃ kind, event = .jsxFound kind := by
  have inErrors {errors : Bool} {len : Nat}
      (mem : event ∈ if errors then [Event.syntaxErrors len] else []) :
      event = .syntaxErrors len := by
    cases errors with
    | false => cases mem
    | true => exact List.mem_singleton.mp mem
  unfold detectIn at mem
  split at mem
  · exact .inl ⟨_, List.mem_singleton.mp mem⟩
  · dsimp only at mem
    generalize Parse.parse text = tree at mem
    cases first : tree.firstJsx? fun _ => true with
    | none =>
      rw [first] at mem
      exact .inr (.inl ⟨_, inErrors mem⟩)
    | some kind =>
      rw [first] at mem
      rcases List.mem_append.mp mem with reported | reported
      · exact .inr (.inl ⟨_, inErrors reported⟩)
      · exact .inr (.inr ⟨kind, List.mem_singleton.mp reported⟩)

theorem invalidUtf8_not_mem (text : List Char) (path : String) :
    .invalidUtf8 path ∉ (detectIn text).events := fun mem => by
  rcases mem_events_detectIn mem with ⟨_, same⟩ | ⟨_, same⟩ | ⟨_, same⟩ <;> cases same

theorem fileLoaded_not_mem (text : List Char) (path : String) (len : Nat) :
    .fileLoaded path len ∉ (detectIn text).events := fun mem => by
  rcases mem_events_detectIn mem with ⟨_, same⟩ | ⟨_, same⟩ | ⟨_, same⟩ <;> cases same

/-! ### Requests -/

/-- A run whose input is answered, by what it writes to. -/
theorem run_of_input {access : Bytes → Access} {request : Request} {input : Input} {jsx : Bool}
    {events : List Event} {answers : Sink} (errors : Sink) (selected : request.input = some input)
    (answered : detectInput access input = ⟨.ok jsx, events⟩)
    (fits : answers.fits (Utf8.encode (answerText request input jsx)) = true) :
    run access request answers errors =
      ⟨.ofAnswer jsx, Utf8.encode (answerText request input jsx), [], events⟩ := by
  have judged : judge access request = ⟨.ok (input, jsx), events⟩ := by
    simp only [judge, selected, answered, Outcome.andThen, List.append_nil]
  simp only [run_eq, judged, fits]
  rfl

/-- A text without a `<` is without JSX; the empty text is one. -/
theorem detect_empty : (detect "").jsx = false := by
  rw [← Bool.not_eq_true]
  intro jsx
  have inTree := (detectIn_jsx_iff List.not_mem_nil).mp jsx
  cases ((Parse.parse_grounded []).tagged_of_hasJsx inTree).mem_text

/-- **All ways to a text agree**, for every text and every file system.  In particular nothing is
lost or added between the bytes of a file and the text that is looked at, be it a byte order mark, a
null character or blanks at the end. -/
theorem entry_points_agree (fs : FileSystem) (text : String) : EntryPointsAgree fs text where
  value := rfl
  file _ holds := detectFile_of_holds holds
  path_shown := showPath_encodeString
  events path := ⟨invalidUtf8_not_mem _ path, fileLoaded_not_mem _ path⟩
  fileRequest request path answers errors named present holds fits := by
    have answered : detectInput fs.access (.file path) =
        ⟨.ok (detect text).jsx, .fileLoaded path text.utf8ByteSize :: (detect text).events⟩ := by
      rw [detectInput, detectFile_of_holds holds, showPath_encodeString]
    exact run_of_input errors (Request.input_of_file named present) answered fits
  sourceRequest request answers errors noFile given present fits := by
    have selected : request.input = some (.source text) :=
      Request.input_of_source (fun path named => by rw [noFile] at named; cases named) given present
    exact run_of_input errors selected rfl fits
  empty isEmpty := by
    subst isEmpty
    refine ⟨detect_empty, fun request answers errors noFile given => ?_⟩
    have noInput : request.input = none :=
      Request.input_of_neither (fun path named => by rw [noFile] at named; cases named)
        (fun text named => (Option.some.inj (given.symm.trans named)).symm)
    have fails : request.FailsWith fs.access .missingInput := .noInput noInput
    have judged := judge_of_failsWith fails
    refine ⟨judged, ?_⟩
    simp only [run_eq, judged]
    rfl

/-- A request for a file behind a link, with a byte order mark and an open tag in it. -/
theorem entry_points_marked_file :
    let text := "\uFEFF<a>"
    let fs : FileSystem :=
      ⟨[([[0x61]], .file (Utf8.encodeString text)), ([[0x6C]], .link [0x2F, 0x61])], []⟩
    let request : Request := ⟨some "x", some "l", false, true⟩
    fs.Holds (Utf8.encodeString "l") text ∧
      run fs.access request .unlimited .unlimited =
        ⟨.ofAnswer (detect text).jsx, [], [], .fileLoaded "l" 6 :: (detect text).events⟩ := by
  intro text fs request
  have holds : fs.Holds (Utf8.encodeString "l") text := ⟨[[0x61]], by decide, rfl⟩
  exact ⟨holds, (entry_points_agree fs text).fileRequest request "l" _ _ rfl (by decide) holds rfl⟩

end JsxDetect
