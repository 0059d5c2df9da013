import JsxDetect.Proofs.Command.ExitCodes

/-!
# Sinks that become full

A run may be stopped by the sink it writes to at any byte, also between two pieces of its answer.
What it comes to then is told here by what the same run comes to if nothing is ever refused: the
sinks take the first bytes of what would be written, and the exit is another one exactly if the
answer is cut.

## Main Results

* `run_of_failsWith`, `run_of_answersWith`: a run by the sinks it writes to
* `run_on_full_sinks`: a run compared with the whole run

## Design Notes

A sink takes bytes up to a limit, and writing to it is a loop that may write less than it is given.
What matters of it are two facts: the bytes taken are the first ones, and writing fails exactly if
there are more.  A run then has three cases, no answer, an answer that fits and one that is cut,
with one equation each, and the comparison with the whole run is read off them.  The limits of both
sinks are independent; that of the second never enters into the exit.
-/

namespace JsxDetect

section FullSinks

variable {access : Bytes → Access} {request : Request} {input : Input} {failure : Failure}
  {jsx : Bool} (answers errors : Sink)

/-- A run without an answer writes nothing but the failure. -/
theorem run_of_failsWith (fails : request.FailsWith access failure) :
    run access request answers errors =
      ⟨.failure, [], errors.accept (Utf8.encode (failureText request failure)),
        (judge access request).events ++ [.failed failure.message]⟩ := by
  rw [run_eq, judge_of_failsWith fails]
  exact Run.failed_eq request errors [] (judge access request).events failure

/-- A run with an answer that fits writes the answer alone. -/
theorem run_of_answersWith (answered : request.AnswersWith access input jsx)
    (fits : answers.fits (Utf8.encode (answerText request input jsx)) = true) :
    run access request answers errors =
      ⟨.ofAnswer jsx, Utf8.encode (answerText request input jsx), [],
        (judge access request).events⟩ := by
  rw [run_eq, judge_of_answersWith answered]
  exact if_pos fits

/-- A run with an answer that does not fit writes what is taken of it, and fails. -/
theorem run_of_cut (answered : request.AnswersWith access input jsx)
    (full : answers.fits (Utf8.encode (answerText request input jsx)) = false) :
    run access request answers errors =
      ⟨.failure, answers.accept (Utf8.encode (answerText request input jsx)),
        errors.accept (Utf8.encode (failureText request (.output Sink.refusal))),
        (judge access request).events ++ [.failed (Failure.output Sink.refusal).message]⟩ := by
  rw [run_eq, judge_of_answersWith answered, ← Run.failed_eq]
  exact if_neg (by rw [full]; exact Bool.false_ne_true)

/-- Nothing is written of the answer to a quiet request, so it always fits. -/
theorem fits_of_quiet (quiet : request.quiet = true) :
    answers.fits (Utf8.encode (answerText request input jsx)) = true := by
  have nothing : Utf8.encode (answerText request input jsx) = [] := by
    rw [answerText_eq, if_pos quiet]
    rfl
  rw [nothing]
  exact (answers.fits_iff []).mpr answers.accept_nil

/-- The exit of a run does not depend on where failures are told. -/
theorem run_exit_congr (other : Sink) :
    (run access request answers errors).exit = (run access request answers other).exit := by
  rcases failsWith_or_answersWith access request with ⟨failure, fails⟩ | ⟨input, jsx, answered⟩
  · rw [run_of_failsWith answers errors fails, run_of_failsWith answers other fails]
  · cases fits : answers.fits (Utf8.encode (answerText request input jsx)) with
    | true =>
      rw [run_of_answersWith answers errors answered fits,
        run_of_answersWith answers other answered fits]
    | false => rw [run_of_cut answers errors answered fits, run_of_cut answers other answered fits]

/-- The exit of a quiet run does not depend on any sink. -/
theorem run_exit_of_quiet (quiet : request.quiet = true) :
    (run access request answers errors).exit = (request.wholeRun access).exit := by
  rcases failsWith_or_answersWith access request with ⟨failure, fails⟩ | ⟨input, jsx, answered⟩
  · rw [run_of_failsWith answers errors fails, wholeRun_of_failsWith fails]
    rfl
  · rw [run_of_answersWith answers errors answered (fits_of_quiet answers quiet),
      wholeRun_of_answersWith answered]

end FullSinks

/-- **A run on sinks that become full**, compared with the whole run, for all requests and files and
whatever the sinks take.  If the answer fits, all is the same but that failures may be cut.
Otherwise the first bytes of the answer are written, the run fails, and the failure that is told, as
far as it is taken, is that the sink is full.  Where failures are told never matters for the exit,
and nothing does for that of a quiet run. -/
theorem run_on_full_sinks (access : Bytes → Access) (request : Request)
    (answerLimit errorLimit : Nat) :
    let whole := request.wholeRun access
    let cut := run access request ⟨some answerLimit⟩ ⟨some errorLimit⟩
    (whole.stdout.length ≤ answerLimit →
      cut.stdout = whole.stdout ∧ cut.exit = whole.exit ∧
        cut.stderr = whole.stderr.take errorLimit) ∧
    (answerLimit < whole.stdout.length →
      cut.stdout = whole.stdout.take answerLimit ∧ cut.exit = .failure ∧
        cut.stderr = (Utf8.encodeString
          "Error: Failed to write output: writer is full\n").take errorLimit) ∧
    (∀ errors, (run access request ⟨some answerLimit⟩ errors).exit = cut.exit) ∧
    (request.quiet = true →
      ∀ answers errors, (run access request answers errors).exit = whole.exit) := by
  intro whole cut
  refine ⟨fun enough => ?_, fun short => ?_, fun errors => run_exit_congr _ _ _,
    fun quiet answers errors => run_exit_of_quiet answers errors quiet⟩
  · rcases failsWith_or_answersWith access request with ⟨failure, fails⟩ | ⟨input, jsx, answered⟩
    · have written : whole = ⟨.failure, [], Utf8.encode (failureText request failure), _⟩ :=
        run_of_failsWith .unlimited .unlimited fails
      have taken : cut = ⟨.failure, [], (Utf8.encode (failureText request failure)).take errorLimit,
          _⟩ := run_of_failsWith ⟨some answerLimit⟩ ⟨some errorLimit⟩ fails
      rw [written, taken]
      exact ⟨rfl, rfl, rfl⟩
    · have written : whole = _ := wholeRun_of_answersWith answered
      rw [written] at enough ⊢
      have fits : Sink.fits ⟨some answerLimit⟩
          (Utf8.encode (answerText request input jsx)) = true := decide_eq_true enough
      have taken : cut = _ := run_of_answersWith _ ⟨some errorLimit⟩ answered fits
      rw [taken]
      exact ⟨rfl, rfl, List.take_nil.symm⟩
  · rcases failsWith_or_answersWith access request with ⟨failure, fails⟩ | ⟨input, jsx, answered⟩
    · have written : whole = _ := wholeRun_of_failsWith fails
      rw [written] at short
      exact absurd short (Nat.not_lt_zero _)
    · have written : whole = _ := wholeRun_of_answersWith answered
      rw [written] at short ⊢
      have full : Sink.fits ⟨some answerLimit⟩
          (Utf8.encode (answerText request input jsx)) = false :=
        decide_eq_false (Nat.not_le_of_lt short)
      have loud : request.quiet = false := by
        rw [← Bool.not_eq_true]
        intro quiet
        rw [fits_of_quiet _ quiet] at full
        cases full
      have told : failureText request (.output Sink.refusal) =
          "Error: Failed to write output: writer is full\n".toList := by
        rw [failureText_eq, loud]
        decide
      have taken : cut = _ := run_of_cut _ ⟨some errorLimit⟩ answered full
      rw [taken, told]
      exact ⟨rfl, rfl, rfl⟩

/-- A report that is cut between its last brace and the line feed, and a failure that is cut too. -/
theorem run_on_full_sinks_report :
    let request : Request := ⟨some "a", none, true, false⟩
    let access : Bytes → Access := fun _ => .notAFile
    63 < (request.wholeRun access).stdout.length ∧
      (run access request ⟨some 63⟩ ⟨some 5⟩).stdout =
        Utf8.encode (report false (.source "a")) ∧
      (run access request ⟨some 63⟩ ⟨some 5⟩).exit = .failure ∧
      (run access request ⟨some 63⟩ ⟨some 5⟩).stderr = Utf8.encodeString "Error" := by
  intro request access
  have short : 63 < (request.wholeRun access).stdout.length := by decide +kernel
  obtain ⟨written, exit, told⟩ := (run_on_full_sinks access request 63 5).2.1 short
  exact ⟨short, written.trans (by decide +kernel), exit, told.trans (by decide)⟩

end JsxDetect
