import JsxDetect.Proofs.Command.ExitCodes
import JsxDetect.Proofs.Text.Json
import JsxDetect.Proofs.Text.RoundTrip

/-!
# The report is faithful

Whoever reads the report with a reader for JSON gets back the answer and the input, character
for character: no input can end its literal, add a member or break the layout of the report.

## Main Definitions

* `Input.document`: what a report says

## Main Results

* `read_report`: the report says what it should
* `report_faithful`: so does what a run writes

## Design Notes

The report is laid out by hand in the program, with a line for each member.  It is followed here
line by line by the reader for JSON, with what is still to be read as a variable, so the proof has
the same shape as the layout.  That the report is always on five lines comes from literals having no
line feed; injectivity comes from the reader being a function.
-/

namespace JsxDetect

namespace Input

/-- The name of the kind of an input. -/
def type : Input → String
  | file _ => "file"
  | source _ => "string"

/-- The name under which an input is told. -/
def key : Input → String
  | file _ => "file"
  | source _ => "source"

/-- What was selected: the path of a file or a text. -/
def selected : Input → String
  | file path => path
  | source text => text

/-- What the report on an input says. -/
def document (jsx : Bool) (input : Input) : Json :=
  .object [("hasJSX", .boolean jsx), ("inputType", .string input.type),
    (input.key, .string input.selected)]

theorem document_injective {jsx otherJsx : Bool} {input other : Input}
    (same : input.document jsx = other.document otherJsx) : input = other ∧ jsx = otherJsx := by
  cases input <;> cases other <;> simp_all [document, type, key, selected]

end Input

/-! ### Lines of the report -/

namespace Json

theorem readValue_boolean (fuel : Nat) (value : Bool) (rest : List Char) :
    readValue (fuel + 1) (' ' :: ((if value then "true" else "false").toList ++ rest)) =
      some (.boolean value, rest) := by
  cases value <;> rfl

variable {fuel : Nat} {value : List Char} {json : Json}

/-- A line of the report begins with a name. -/
theorem readName_reportLine (name : String) (value rest : List Char) :
    readName ('\n' :: (reportLine name value ++ rest)) = some (name, ' ' :: (value ++ rest)) := by
  have line : reportLine name value ++ rest = ' ' :: ' ' :: '"' ::
      (name.toList.flatMap quoteChar ++ '"' :: ':' :: ' ' :: (value ++ rest)) := by
    simp only [reportLine, quote, List.append_assoc, List.cons_append, List.nil_append]
  have atName : skipBlanks ('\n' :: (reportLine name value ++ rest)) =
      '"' :: (name.toList.flatMap quoteChar ++ '"' :: ':' :: ' ' :: (value ++ rest)) := by
    rw [line, skipBlanks_blank rfl, skipBlanks_blank rfl, skipBlanks_blank rfl,
      skipBlanks_token rfl]
  simp only [readName, atName, readString_quote, String.ofList_toList, Option.bind_eq_bind,
    Option.bind_some]
  rfl

theorem readMembers_line (name : String) (read : ∀ rest, readValue fuel (' ' :: (value ++ rest)) =
    some (json, rest)) (rest : List Char) :
    readMembers (fuel + 1) ('\n' :: (reportLine name value ++ ',' :: rest)) =
      (readMembers fuel rest).map fun more => ((name, json) :: more.1, more.2) := by
  simp only [readMembers, readName_reportLine, read, Option.bind_eq_bind, Option.bind_some]
  rfl

theorem readMembers_lastLine (name : String) (read : ∀ rest, readValue fuel (' ' :: (value ++ rest)) =
    some (json, rest)) (rest : List Char) :
    readMembers (fuel + 1) ('\n' :: (reportLine name value ++ '\n' :: '\x7d' :: rest)) =
      some ([(name, json)], rest) := by
  simp only [readMembers, readName_reportLine, read, Option.bind_eq_bind, Option.bind_some]
  rfl

end Json

/-! ### The report -/

/-- The lines of the report, one behind the other. -/
theorem report_eq (jsx : Bool) (input : Input) : report jsx input =
    '\x7b' :: '\n' ::
      (reportLine "hasJSX" (if jsx then "true" else "false").toList ++ ',' :: '\n' ::
      (reportLine "inputType" (quote input.type.toList) ++ ',' :: '\n' ::
      (reportLine input.key (quote input.selected.toList) ++ '\n' :: ['\x7d']))) := by
  cases input with
  | file path => simp only [report, List.append_assoc, List.cons_append]; rfl
  | source text => simp only [report, List.append_assoc, List.cons_append]; rfl

/-- **The report says what it should**, to whoever reads it.  The three members are read in order,
and nothing is left behind the brace; the input may hold quotes, line feeds and backslashes. -/
theorem read_report (jsx : Bool) (input : Input) :
    Json.read (report jsx input) = some (input.document jsx) := by
  have literal (text : String) (fuel : Nat) (rest : List Char) :
      Json.readValue (fuel + 1) (' ' :: (quote text.toList ++ rest)) =
        some (.string text, rest) := by
    rw [Json.readValue_blank rfl, Json.readValue_quote, String.ofList_toList]
  obtain ⟨fuel, enough⟩ : ∃ fuel, (report jsx input).length + 1 = fuel + 5 := by
    refine ⟨(report jsx input).length - 4, ?_⟩
    rw [report_eq]
    simp only [List.length_cons, List.length_append]
    omega
  have members := Json.readMembers_line "hasJSX" (Json.readValue_boolean (fuel + 2) jsx) ('\n' ::
      (reportLine "inputType" (quote input.type.toList) ++ ',' :: '\n' ::
      (reportLine input.key (quote input.selected.toList) ++ '\n' :: ['\x7d'])))
  rw [Json.readMembers_line _ (literal input.type _),
    Json.readMembers_lastLine _ (literal input.selected _)] at members
  rw [Json.read, enough, report_eq, Json.readValue_object rfl members]
  rfl

theorem count_reportLine {value : List Char} (sameLine : '\n' ∉ value) (name : String) :
    (reportLine name value).count '\n' = 0 := by
  have literal := line_feed_not_mem_quote name.toList
  refine List.count_eq_zero.mpr ?_
  simp [reportLine, literal, sameLine]

/-- The report has the same lines, whatever it tells. -/
theorem count_report (jsx : Bool) (input : Input) : (report jsx input).count '\n' = 4 := by
  have word : '\n' ∉ (if jsx then "true" else "false").toList := by cases jsx <;> decide
  have first := count_reportLine word "hasJSX"
  have second := count_reportLine (line_feed_not_mem_quote input.type.toList) "inputType"
  have third := count_reportLine (line_feed_not_mem_quote input.selected.toList) input.key
  rw [report_eq]
  simp [List.count_append, first, second, third]

/-! ### Runs -/

section Runs

variable {access : Bytes → Access} {request : Request} {input : Input} {jsx : Bool}

/-- What a run with an answer writes is the report, if one is asked for. -/
theorem stdout_of_answersWith (verbose : request.verbose = true) (loud : request.quiet = false)
    (answers : request.AnswersWith access input jsx) :
    (request.wholeRun access).stdout = Utf8.encode (report jsx input ++ ['\n']) := by
  rw [wholeRun_of_answersWith answers]
  simp only [answerText_eq, verbose, loud, if_true]
  rfl

/-- **The report is faithful.**  If a report is asked for and there is an answer, what is written
is a JSON document and a line feed.  The document says whether there is JSX, which is how the run
exits, of which kind the input is, and what it is, character for character, and nothing else.
It is on five lines whatever the input is, and another run that writes the same has the same
input and the same answer. -/
theorem report_faithful (access : Bytes → Access) (request : Request) (input : Input) (jsx : Bool)
    (verbose : request.verbose = true) (loud : request.quiet = false)
    (answers : request.AnswersWith access input jsx) :
    (∃ document, Utf8.decode? (request.wholeRun access).stdout = some (document ++ ['\n']) ∧
      Json.read document = some (input.document jsx) ∧
      (document ++ ['\n']).count '\n' = 5) ∧
    ((request.wholeRun access).exit = .detected ↔ jsx = true) ∧
    ∀ (otherAccess : Bytes → Access) (other : Request) (otherInput : Input) (otherJsx : Bool),
      other.verbose = true → other.quiet = false →
      other.AnswersWith otherAccess otherInput otherJsx →
      (other.wholeRun otherAccess).stdout = (request.wholeRun access).stdout →
      otherInput = input ∧ otherJsx = jsx := by
  have written := stdout_of_answersWith verbose loud answers
  refine ⟨⟨report jsx input, ?_, read_report jsx input, ?_⟩, ?_, ?_⟩
  · rw [written, Utf8.decode?_encode]
  · rw [List.count_append, count_report]
    rfl
  · rw [wholeRun_of_answersWith answers]
    cases jsx <;> simp [Exit.ofAnswer]
  · intro otherAccess other otherInput otherJsx otherVerbose otherLoud otherAnswers same
    rw [written, stdout_of_answersWith otherVerbose otherLoud otherAnswers] at same
    have texts := List.append_cancel_right (Utf8.encode_injective same)
    have documents := read_report otherJsx otherInput
    rw [texts, read_report] at documents
    exact (Input.document_injective (Option.some.inj documents)).imp Eq.symm Eq.symm

/-- A report on a text that would end its literal and its line. -/
theorem report_faithful_breaking_out :
    let request : Request := ⟨some "\"\n,\\", none, true, false⟩
    let input : Input := .source "\"\n,\\"
    request.AnswersWith (fun _ => .notAFile) input false ∧
    ∃ document,
      Utf8.decode? (request.wholeRun fun _ => .notAFile).stdout = some (document ++ ['\n']) ∧
      Json.read document = some (input.document false) := by
  intro request input
  have answers : request.AnswersWith (fun _ => .notAFile) input false :=
    ⟨rfl, _, rfl, by decide +kernel⟩
  obtain ⟨⟨document, written, reads, -⟩, -⟩ :=
    report_faithful (fun _ => .notAFile) request input false rfl rfl answers
  exact ⟨answers, document, written, reads⟩

end Runs

end JsxDetect
