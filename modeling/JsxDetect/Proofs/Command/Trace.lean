import JsxDetect.Proofs.Command.EntryPoints
import JsxDetect.Proofs.Detection.NullGuard

/-!
# What a run tells

A run tells what it does in events, for whoever reads its log.  They come from four places: from
reading a file, from the guard against binary data, from the tree of the text and from the end of
the run.  This module shows that together they are true, and complete.  What should be told is
said below by three relations, one for each part of a run, that look at the files, the text and
its tree and not at how the run is carried out.

The lengths are those of different things: a file is as long as its bytes, while a text that was
repaired is as long as the bytes it would have had.

## Main Definitions

* `Loading`, `Looking`, `Ending`: what the three parts of a run should tell
* `TrueTrace`: the events of a run are true

## Main Results

* `run_trueTrace`: they are true for every run

## Design Notes

**Three relations.**  `Loading`, `Looking` and `Ending` say what should be told by each part of a
run, from the files, the text and its tree.  They are functional, as the lemmas `unique` show, and
total.  So `TrueTrace` determines the events of a run together with its exit: there is no second
list of events that would be just as true.

**What an event may carry.**  Lengths are those of contents when a file is loaded and of decoded
texts when a text is looked at, and these differ when bytes were replaced.  The relations state them
separately, with no appeal to the program's own functions for them beyond the decoder.
-/

namespace JsxDetect

open Parse SyntaxTree

/-! ### What should be told -/

/-- An event is told, once, if something holds, and nothing is told otherwise. -/
inductive ToldIf (holds : Prop) (event : Event) : List Event → Prop where
  | told (yes : holds) : ToldIf holds event [event]
  | nothing (no : ¬holds) : ToldIf holds event []

/-- The first JSX node is told by its kind, if there is one. -/
inductive FirstTold (nodes : List SyntaxInfo) : List Event → Prop where
  | told {before after : List SyntaxInfo} {info : SyntaxInfo} {kind : JsxKind}
      (split : nodes = before ++ info :: after) (first : ∀ other ∈ before, jsxKind other = none)
      (here : jsxKind info = some kind) : FirstTold nodes [.jsxFound kind]
  | nothing (plain : ∀ info ∈ nodes, jsxKind info = none) : FirstTold nodes []

/-- What should be told of getting a text from an input, and the text, if there is one. -/
inductive Loading (access : Bytes → Access) : Option Input → Option (List Char) → List Event → Prop
  where
  | noInput : Loading access none none []
  | source (text : String) : Loading access (some (.source text)) (some text.toList) []
  | unloaded {path : String}
      (refused : ∀ content, access (Utf8.encodeString path) ≠ .content content) :
      Loading access (some (.file path)) none []
  | loaded {path : String} {text : List Char}
      (content : access (Utf8.encodeString path) = .content (Utf8.encode text)) :
      Loading access (some (.file path)) (some text)
        [.fileLoaded path (Utf8.encode text).length]
  | repaired {path : String} {bytes : Bytes}
      (content : access (Utf8.encodeString path) = .content bytes)
      (invalid : ∀ text, Utf8.encode text ≠ bytes) :
      Loading access (some (.file path)) (some (Utf8.decodeLossy bytes))
        [.fileLoaded path bytes.length, .invalidUtf8 path]

/-- What should be told of looking at a text, if there is one. -/
inductive Looking : Option (List Char) → List Event → Prop where
  | noText : Looking none []
  | binary {text : List Char} (null : '\x00' ∈ text) :
      Looking (some text) [.binaryText (Utf8.encode text).length]
  | parsed {text : List Char} {errors found : List Event} (noNull : '\x00' ∉ text)
      (faulty : ToldIf (parse text).Faulty (.syntaxErrors (Utf8.encode text).length) errors)
      (first : FirstTold (parse text).nodes found) : Looking (some text) (errors ++ found)

/-- Why a run fails: there is no answer, or the answer does not fit where it is written. -/
inductive Request.RunFailsWith (access : Bytes → Access) (request : Request) (answers : Sink) :
    Failure → Prop where
  | unanswered {failure : Failure} (fails : request.FailsWith access failure) :
      RunFailsWith access request answers failure
  | unwritten {input : Input} {jsx : Bool} (answered : request.AnswersWith access input jsx)
      (full : answers.fits (Utf8.encode (answerText request input jsx)) = false) :
      RunFailsWith access request answers (.output Sink.refusal)

/-- How a run should end, and what should be told of that. -/
inductive Ending (access : Bytes → Access) (request : Request) (answers : Sink) :
    Exit → List Event → Prop where
  | answered {input : Input} {jsx : Bool} (answered : request.AnswersWith access input jsx)
      (fits : answers.fits (Utf8.encode (answerText request input jsx)) = true) :
      Ending access request answers (.ofAnswer jsx) []
  | failed {failure : Failure} (fails : request.RunFailsWith access answers failure) :
      Ending access request answers .failure [.failed failure.message]

/-- The events of a run are true: what should be told is told, in this order, and nothing else. -/
structure TrueTrace (access : Bytes → Access) (request : Request) (answers errors : Sink)
    (run : Run) : Prop where
  inOrder : ∃ text loading looking ending, Loading access request.input text loading ∧
    Looking text looking ∧ Ending access request answers run.exit ending ∧
    run.events = loading ++ looking ++ ending
  /-- JSX is told exactly if it is the answer, whether or not the answer can be written. -/
  found_iff : (∃ kind, .jsxFound kind ∈ run.events) ↔
    ∃ input, request.AnswersWith access input true
  /-- A failure is told exactly if the run ends with one. -/
  failed_iff : (∃ message, .failed message ∈ run.events) ↔ run.exit = .failure
  /-- Nothing but the failure is told, if there is no answer. -/
  onlyFailure : ∀ failure, request.FailsWith access failure →
    run.events = [.failed failure.message]
  /-- It is the failure that the user is told. -/
  sameText : request.quiet = false → ∀ message, .failed message ∈ run.events →
    run.stderr = errors.accept (Utf8.encode ("Error: ".toList ++ message.toList ++ ['\n']))

/-! ### Getting a text -/

section Loading

variable {access : Bytes → Access} {request : Request} {input : Input} {failure : Failure}
  {text : List Char} {jsx : Bool}

/-- A content that is not valid is decoded with replacements, and this is told behind the length. -/
theorem decodeFile_of_invalid {path content : Bytes} (invalid : ∀ text, Utf8.encode text ≠ content) :
    decodeFile path content = ⟨.ok (Utf8.decodeLossy content),
      [.fileLoaded (Failure.showPath path) content.length,
        .invalidUtf8 (Failure.showPath path)]⟩ := by
  have refused : Utf8.decode? content = none := by
    cases decoded : Utf8.decode? content with
    | none => rfl
    | some text => exact absurd (Utf8.decode?_eq_some_iff.mp decoded) (invalid text)
  rw [decodeFile, refused]

theorem decodeFile_encode (path : Bytes) (text : List Char) :
    decodeFile path (Utf8.encode text) =
      ⟨.ok text, [.fileLoaded (Failure.showPath path) (Utf8.encode text).length]⟩ := by
  rw [decodeFile, Utf8.decode?_encode]

/-- A file that is not loaded has no content, and nothing is told of it. -/
theorem load_error {path : Bytes} (refused : (load access path).result = .error failure) :
    (load access path).events = [] ∧ ∀ content, access path ≠ .content content := by
  unfold load at refused ⊢
  split at refused
  case h_5 content given =>
    rw [decodeFile_result] at refused
    cases refused
  all_goals exact ⟨rfl, by simp_all⟩

/-- Nothing is told of an input that cannot be loaded. -/
theorem loading_of_error (refused : input.text? access = .error failure) :
    Loading access (some input) none [] ∧ (detectInput access input).events = [] := by
  cases input with
  | source text => cases refused
  | file path =>
    obtain ⟨silent, none⟩ := load_error refused
    refine ⟨.unloaded none, ?_⟩
    rw [Input.text?] at refused
    rw [detectInput, detectFile, Outcome.andThen, refused]
    exact silent

/-- Of an input that can be loaded, that is told before anything about its text. -/
theorem loading_of_ok (loaded : input.text? access = .ok text) :
    ∃ loading, Loading access (some input) (some text) loading ∧
      (detectInput access input).events = loading ++ (detectIn text).events := by
  cases input with
  | source source =>
    cases loaded
    exact ⟨[], .source source, rfl⟩
  | file path =>
    cases given : access (Utf8.encodeString path) with
    | content content =>
      have whole : load access (Utf8.encodeString path) =
          decodeFile (Utf8.encodeString path) content := by simp only [load, given]
      rw [Input.text?, whole] at loaded
      rw [detectInput, detectFile, whole, Outcome.andThen, loaded]
      by_cases valid : ∃ original, Utf8.encode original = content
      · obtain ⟨original, rfl⟩ := valid
        rw [decodeFile_encode, showPath_encodeString] at loaded ⊢
        cases loaded
        exact ⟨_, .loaded given, rfl⟩
      · have invalid : ∀ original, Utf8.encode original ≠ content :=
          fun original same => valid ⟨original, same⟩
        rw [decodeFile_of_invalid invalid, showPath_encodeString] at loaded ⊢
        cases loaded
        exact ⟨_, .repaired given invalid, rfl⟩
    | refused cause =>
      rw [Input.text?, load, given] at loaded
      cases cause <;> cases loaded
    | notAFile =>
      rw [Input.text?, load, given] at loaded
      cases loaded
    | unreadable cause =>
      rw [Input.text?, load, given] at loaded
      cases loaded

/-- Getting a text tells neither of JSX nor of a failure. -/
theorem Loading.not_mem {given : Option Input} {loaded : Option (List Char)} {loading : List Event}
    (told : Loading access given loaded loading) :
    (∀ kind, .jsxFound kind ∉ loading) ∧ ∀ message, .failed message ∉ loading := by
  cases told <;> simp

/-- There is one thing to tell of getting a text. -/
theorem Loading.unique {given : Option Input} {loaded loaded' : Option (List Char)}
    {loading loading' : List Event} (one : Loading access given loaded loading)
    (two : Loading access given loaded' loading') : loaded = loaded' ∧ loading = loading' := by
  cases one with
  | noInput =>
    cases two
    exact ⟨rfl, rfl⟩
  | source text =>
    cases two
    exact ⟨rfl, rfl⟩
  | unloaded refused =>
    cases two with
    | unloaded _ => exact ⟨rfl, rfl⟩
    | loaded content => exact absurd content (refused _)
    | repaired content _ => exact absurd content (refused _)
  | loaded content =>
    cases two with
    | unloaded refused => exact absurd content (refused _)
    | loaded content' =>
      have same := Access.content.inj (content.symm.trans content')
      have sameText := congrArg Utf8.decode? same
      rw [Utf8.decode?_encode, Utf8.decode?_encode] at sameText
      exact ⟨sameText, by rw [same]⟩
    | repaired content' invalid =>
      exact absurd (Access.content.inj (content.symm.trans content')) (invalid _)
  | repaired content invalid =>
    cases two with
    | unloaded refused => exact absurd content (refused _)
    | loaded content' =>
      exact absurd (Access.content.inj (content'.symm.trans content)) (invalid _)
    | repaired content' _ =>
      cases Access.content.inj (content.symm.trans content')
      exact ⟨rfl, rfl⟩

end Loading

/-! ### Looking at it -/

theorem firstTold_findSome (nodes : List SyntaxInfo) :
    FirstTold nodes ((nodes.findSome? jsxKind).map Event.jsxFound).toList := by
  cases first : nodes.findSome? jsxKind with
  | none => exact .nothing (List.findSome?_eq_none_iff.mp first)
  | some kind =>
    obtain ⟨before, info, after, split, here, earlier⟩ := List.findSome?_eq_some_iff.mp first
    exact .told split earlier here

/-- **Looking at a text** tells what it should.  That a tree has an error is told from a count that
the parser keeps; here it becomes a fault among the nodes. -/
theorem looking_detectIn (text : List Char) : Looking (some text) (detectIn text).events := by
  by_cases null : '\x00' ∈ text
  · rw [detectIn_of_null null]
    exact .binary null
  · rw [detectIn_of_no_null null, SyntaxTree.firstJsx?_eq]
    refine .parsed null ?_ (firstTold_findSome _)
    cases faulty : (parse text).hasError with
    | true => exact .told ((parse_hasError_iff text).mp faulty)
    | false =>
      refine .nothing fun holds => ?_
      rw [(parse_hasError_iff text).mpr holds] at faulty
      cases faulty

/-- JSX is told exactly if it is the answer. -/
theorem jsxFound_mem_iff (text : List Char) :
    (∃ kind, .jsxFound kind ∈ (detectIn text).events) ↔ (detectIn text).jsx = true := by
  constructor
  · rintro ⟨kind, mem⟩
    exact jsx_of_jsxFound mem rfl
  · intro jsx
    by_cases null : '\x00' ∈ text
    · rw [detectIn_of_null null] at jsx
      cases jsx
    · obtain ⟨kind, found⟩ := Option.isSome_iff_exists.mp jsx
      refine ⟨kind, ?_⟩
      rw [detectIn_of_no_null null] at found ⊢
      dsimp only at found ⊢
      simp [found]

/-- There is one thing to tell of the first JSX node. -/
theorem FirstTold.eq {nodes : List SyntaxInfo} {found : List Event}
    (first : FirstTold nodes found) :
    found = ((nodes.findSome? jsxKind).map Event.jsxFound).toList := by
  cases first with
  | told split earlier here =>
    have first := List.findSome?_eq_some_iff.mpr ⟨_, _, _, split, here, earlier⟩
    rw [first]
    rfl
  | nothing plain =>
    rw [List.findSome?_eq_none_iff.mpr plain]
    rfl

/-- There is one way to tell an event or not. -/
theorem ToldIf.unique {holds : Prop} {event : Event} {events events' : List Event}
    (one : ToldIf holds event events) (two : ToldIf holds event events') : events = events' := by
  cases one with
  | told yes =>
    cases two with
    | told _ => rfl
    | nothing no => exact absurd yes no
  | nothing no =>
    cases two with
    | told yes => exact absurd yes no
    | nothing _ => rfl

/-- There is one thing to tell of looking at a text. -/
theorem Looking.unique {loaded : Option (List Char)} {looking looking' : List Event}
    (one : Looking loaded looking) (two : Looking loaded looking') : looking = looking' := by
  cases one with
  | noText =>
    cases two
    rfl
  | binary null =>
    cases two with
    | binary _ => rfl
    | parsed noNull _ _ => exact absurd null noNull
  | parsed noNull faulty first =>
    cases two with
    | binary null => exact absurd null noNull
    | parsed _ faulty' first' => rw [faulty.unique faulty', first.eq, first'.eq]

theorem failed_not_mem (text : List Char) (message : String) :
    .failed message ∉ (detectIn text).events := by
  intro mem
  rcases mem_events_detectIn mem with ⟨_, same⟩ | ⟨_, same⟩ | ⟨_, same⟩ <;> cases same

/-! ### Requests -/

section Requests

variable {access : Bytes → Access} {request : Request} {input : Input} {failure : Failure}
  {jsx : Bool} {answers : Sink}

/-- A request is not answered in two ways. -/
theorem Request.AnswersWith.unique {other : Input} {jsx' : Bool}
    (one : request.AnswersWith access input jsx) (two : request.AnswersWith access other jsx') :
    input = other ∧ jsx = jsx' := by
  have judged := judge_of_answersWith one
  rw [judge_of_answersWith two] at judged
  cases judged
  exact ⟨rfl, rfl⟩

/-- A request does not fail in two ways. -/
theorem Request.FailsWith.unique {failure' : Failure} (one : request.FailsWith access failure)
    (two : request.FailsWith access failure') : failure = failure' := by
  have judged := judge_of_failsWith one
  rw [judge_of_failsWith two] at judged
  cases judged
  rfl

/-- A request that fails is not answered. -/
theorem Request.FailsWith.not_answers (fails : request.FailsWith access failure) :
    ¬request.AnswersWith access input jsx := by
  intro answered
  have judged := judge_of_failsWith fails
  rw [judge_of_answersWith answered] at judged
  cases judged

/-- A run does not fail in two ways. -/
theorem Request.RunFailsWith.unique {failure' : Failure}
    (one : request.RunFailsWith access answers failure)
    (two : request.RunFailsWith access answers failure') : failure = failure' := by
  cases one with
  | unanswered fails =>
    cases two with
    | unanswered fails' => exact fails.unique fails'
    | unwritten answered _ => exact absurd answered fails.not_answers
  | unwritten answered _ =>
    cases two with
    | unanswered fails => exact absurd answered fails.not_answers
    | unwritten _ _ => rfl

/-- A run whose answer fits does not fail. -/
theorem Request.AnswersWith.not_fails (answered : request.AnswersWith access input jsx)
    (fits : answers.fits (Utf8.encode (answerText request input jsx)) = true) :
    ¬request.RunFailsWith access answers failure := by
  intro fails
  cases fails with
  | unanswered unanswered => exact unanswered.not_answers answered
  | unwritten answered' full =>
    obtain ⟨rfl, rfl⟩ := answered.unique answered'
    rw [fits] at full
    cases full

/-- There is one way for a run to end. -/
theorem Ending.unique {exit exit' : Exit} {ending ending' : List Event}
    (one : Ending access request answers exit ending)
    (two : Ending access request answers exit' ending') : exit = exit' ∧ ending = ending' := by
  cases one with
  | answered answered fits =>
    cases two with
    | answered answered' _ =>
      obtain ⟨-, rfl⟩ := answered.unique answered'
      exact ⟨rfl, rfl⟩
    | failed fails => exact absurd fails (answered.not_fails fits)
  | failed fails =>
    cases two with
    | answered answered fits => exact absurd fails (answered.not_fails fits)
    | failed fails' =>
      rw [fails.unique fails']
      exact ⟨rfl, rfl⟩

/-- **There is one true trace of a run**, so that what it tells is all there is to tell.  The exit
is determined with it, as a failure is told exactly if the run ends with one. -/
theorem TrueTrace.unique {errors : Sink} {run run' : Run}
    (one : TrueTrace access request answers errors run)
    (two : TrueTrace access request answers errors run') :
    run.exit = run'.exit ∧ run.events = run'.events := by
  obtain ⟨text, loading, looking, ending, loaded, looked, ended, events⟩ := one.inOrder
  obtain ⟨text', loading', looking', ending', loaded', looked', ended', events'⟩ := two.inOrder
  obtain ⟨rfl, rfl⟩ := loaded.unique loaded'
  obtain ⟨sameExit, rfl⟩ := ended.unique ended'
  rw [events, events', looked.unique looked']
  exact ⟨sameExit, rfl⟩

/-- Judging a request that fails, nothing is told. -/
theorem events_of_failsWith (fails : request.FailsWith access failure) :
    Loading access request.input none [] ∧ (judge access request).events = [] := by
  cases fails with
  | noInput missing =>
    rw [judge, missing]
    exact ⟨.noInput, rfl⟩
  | @unloadable input _ selected refused =>
    obtain ⟨told, silent⟩ := loading_of_error refused
    have unanswered : (detectInput access input).result = .error failure := by
      rw [detectInput_result, refused]
      rfl
    rw [judge, selected]
    refine ⟨told, ?_⟩
    simp only [Outcome.andThen, unanswered, silent]

/-- Judging a request that is answered, getting its text is told, then looking at it. -/
theorem events_of_answersWith (answered : request.AnswersWith access input jsx) :
    ∃ text loading, Loading access request.input (some text) loading ∧
      jsx = (detectIn text).jsx ∧
      (judge access request).events = loading ++ (detectIn text).events := by
  obtain ⟨selected, text, loaded, rfl⟩ := answered
  obtain ⟨loading, told, events⟩ := loading_of_ok loaded
  have result : (detectInput access input).result = .ok (detectIn text).jsx := by
    rw [detectInput_result, loaded]
    rfl
  refine ⟨text, loading, selected ▸ told, rfl, ?_⟩
  rw [judge, selected]
  simp only [Outcome.andThen, result, List.append_nil, events]

/-- Judging a request tells what it should. -/
theorem judge_told (access : Bytes → Access) (request : Request) :
    ∃ text loading looking, Loading access request.input text loading ∧ Looking text looking ∧
      (judge access request).events = loading ++ looking := by
  rcases failsWith_or_answersWith access request with ⟨failure, fails⟩ | ⟨input, jsx, answered⟩
  · obtain ⟨told, silent⟩ := events_of_failsWith fails
    exact ⟨none, [], [], told, .noText, silent⟩
  · obtain ⟨text, loading, told, -, events⟩ := events_of_answersWith answered
    exact ⟨some text, loading, _, told, looking_detectIn text, events⟩

/-- Judging a request, no failure is told yet. -/
theorem failed_not_mem_judge (access : Bytes → Access) (request : Request) (message : String) :
    .failed message ∉ (judge access request).events := by
  rcases failsWith_or_answersWith access request with ⟨failure, fails⟩ | ⟨input, jsx, answered⟩
  · rw [(events_of_failsWith fails).2]
    exact List.not_mem_nil
  · obtain ⟨text, loading, told, -, events⟩ := events_of_answersWith answered
    rw [events, List.mem_append, not_or]
    exact ⟨told.not_mem.2 message, failed_not_mem text message⟩

/-- Judging a request, JSX is told exactly if it is the answer. -/
theorem jsxFound_mem_judge_iff (access : Bytes → Access) (request : Request) :
    (∃ kind, .jsxFound kind ∈ (judge access request).events) ↔
      ∃ input, request.AnswersWith access input true := by
  constructor
  · rintro ⟨kind, mem⟩
    rcases failsWith_or_answersWith access request with ⟨failure, fails⟩ | ⟨input, jsx, answered⟩
    · rw [(events_of_failsWith fails).2] at mem
      cases mem
    · obtain ⟨text, loading, told, rfl, events⟩ := events_of_answersWith answered
      rw [events, List.mem_append] at mem
      have found := mem.resolve_left (told.not_mem.1 kind)
      rw [(jsxFound_mem_iff text).mp ⟨kind, found⟩] at answered
      exact ⟨input, answered⟩
  · rintro ⟨input, answered⟩
    obtain ⟨text, loading, -, jsx, events⟩ := events_of_answersWith answered
    obtain ⟨kind, found⟩ := (jsxFound_mem_iff text).mpr jsx.symm
    rw [events]
    exact ⟨kind, List.mem_append_right _ found⟩

end Requests

/-! ### Runs -/

section Runs

variable {access : Bytes → Access} {request : Request} {input : Input} {failure : Failure}
  {jsx : Bool} {answers : Sink}

/-- The events of a run that fails are true, whether or not there is an answer. -/
theorem trueTrace_of_fails (errors : Sink) (stdout : Bytes)
    (fails : request.RunFailsWith access answers failure) :
    TrueTrace access request answers errors
      (Run.failed request errors stdout (judge access request).events failure) where
  inOrder := by
    obtain ⟨text, loading, looking, told, looked, events⟩ := judge_told access request
    refine ⟨text, loading, looking, _, told, looked, .failed fails, ?_⟩
    rw [← events]
    rfl
  found_iff := by
    rw [← jsxFound_mem_judge_iff]
    simp [Run.failed]
  failed_iff := ⟨fun _ => rfl, fun _ =>
    ⟨failure.message, List.mem_append_right _ (List.mem_singleton.mpr rfl)⟩⟩
  onlyFailure failure' unanswered := by
    rw [← fails.unique (.unanswered unanswered)]
    simp [Run.failed, (events_of_failsWith unanswered).2]
  sameText loud message mem := by
    have last := (List.mem_append.mp mem).resolve_left
      (failed_not_mem_judge access request message)
    cases List.mem_singleton.mp last
    simp [Run.failed_eq, failureText_eq, loud]

/-- The events of a run whose answer is written are true. -/
theorem trueTrace_of_fits (errors : Sink) (stdout : Bytes)
    (answered : request.AnswersWith access input jsx)
    (fits : answers.fits (Utf8.encode (answerText request input jsx)) = true) :
    TrueTrace access request answers errors
      ⟨.ofAnswer jsx, stdout, [], (judge access request).events⟩ where
  inOrder := by
    obtain ⟨text, loading, looking, told, looked, events⟩ := judge_told access request
    refine ⟨text, loading, looking, [], told, looked, .answered answered fits, ?_⟩
    rw [events, List.append_nil]
  found_iff := jsxFound_mem_judge_iff access request
  failed_iff := by
    constructor
    · rintro ⟨message, mem⟩
      exact absurd mem (failed_not_mem_judge access request message)
    · intro failed
      cases jsx <;> cases failed
  onlyFailure failure unanswered := absurd answered unanswered.not_answers
  sameText loud message mem := absurd mem (failed_not_mem_judge access request message)

/-- **The events of every run are true**, and no other run has true events in its place.  This is
for every request, all contents of files and all sinks, those that refuse the answer included. -/
theorem run_trueTrace (access : Bytes → Access) (request : Request) (answers errors : Sink) :
    TrueTrace access request answers errors (run access request answers errors) ∧
      ∀ other, TrueTrace access request answers errors other →
        other.exit = (run access request answers errors).exit ∧
          other.events = (run access request answers errors).events := by
  have trueTrace : TrueTrace access request answers errors (run access request answers errors) := by
    rcases failsWith_or_answersWith access request with ⟨failure, fails⟩ | ⟨input, jsx, answered⟩
    · simp only [run_eq, judge_of_failsWith fails]
      exact trueTrace_of_fails errors [] (.unanswered fails)
    · simp only [run_eq, judge_of_answersWith answered]
      split
      · next fits => exact trueTrace_of_fits errors _ answered fits
      · next full => exact trueTrace_of_fails errors _ (.unwritten answered (by simpa using full))
  exact ⟨trueTrace, fun other claimed => claimed.unique trueTrace⟩

/-- A file of three bytes, one of them ill-formed, whose text has five. -/
example : (run (fun _ => .content [0xFF, 0x00, 0x3C]) ⟨none, some "b", false, true⟩
    ⟨some 0⟩ .unlimited).events =
      [.fileLoaded "b" 3, .invalidUtf8 "b", .binaryText 5] := by decide +kernel

end Runs

end JsxDetect
