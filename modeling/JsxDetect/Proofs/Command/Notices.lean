import JsxDetect.Proofs.Command.ArgumentGrammar

/-!
# Help and version

A call that asks for the help or the version succeeds without a run, and to scripts success means
that there is JSX.  So it matters when such an option is heard: exactly if nothing before it is
wrong.  Arguments are read from left to right, and a value is checked when the next option asks
for it; thus an option hears of everything that is wrong before it and of nothing behind it.

Reading is here looked at from the place where it stops.  Behind arguments that were read there
are three ways to go on: reading has stopped whatever follows, it goes on, or it goes on behind
two dashes, where nothing is an option.

## Main Definitions

* `Notice.AskedBy`: the arguments that ask for a notice
* `AsksAt`: an argument asks for a notice, and all before it is admissible
* `NoticesHeard`: when a call is answered with a notice

## Main Results

* `Reading.argument_notice_iff`, `Reading.arguments_notice_iff`: where reading stops for a notice
* `Reading.arguments_append`: how reading goes on behind some arguments
* `notices_heard`: a notice is given exactly if all before the option for it is admissible

## Design Notes

**An exact condition.**  The claim is an equivalence, so it has to be known of every way to stop
that it is not for a notice, and the many lemmas `..._ne_notice` say so, one for each step.  They
share `bind_ne_notice`: a step first checks what is pending, and this check never stops for a
notice.

**The pending value.**  The value of an option is checked when the next option comes, not when it is
read.  So an option for a notice is heard behind a value that is not yet known to be a text, if and
only if it turns out to be one.  `resolve` is this check, and it is why `AsksAt` speaks of a run
that the arguments before would ask for by themselves: asking so, the last value is checked, too.

**What follows.**  `arguments_append` shows that how reading goes on behind some arguments is one of
three things, determined by these arguments.  That nothing behind a notice matters, and that no
error before it is forgotten, both follow.
-/

namespace JsxDetect

open Reading (dash orStop)

/-! ### Asking for a notice -/

namespace Notice

/-- The long name of the option for the notice. -/
def name : Notice → String
  | help => "help"
  | version => "version"

/-- The letter of the option for the notice. -/
def letter : Notice → UInt8
  | help => 0x68
  | version => 0x56

/-- The option for the notice. -/
def argument : Notice → Argument
  | help => .help
  | version => .version

end Notice

/-- Is the flag set in a request? -/
def Flag.isSet (request : Request) : Flag → Bool
  | verbose => request.verbose
  | quiet => request.quiet

/-- An argument asks for a notice, behind others that come to a request: by a long option, or by a
letter behind flags that were not given before, whatever follows the letter. -/
inductive Notice.AskedBy (notice : Notice) (request : Request) : Bytes → Prop where
  | long : AskedBy notice request (dash :: dash :: Utf8.encodeString notice.name)
  | cluster (flags : List Flag) (rest : Bytes) (once : flags.Nodup)
      (fresh : ∀ flag ∈ flags, flag.isSet request = false) :
      AskedBy notice request (dash :: (Item.letters flags ++ notice.letter :: rest))

/-- An argument asks for a notice behind arguments that by themselves ask for a run, none of which
is two dashes. -/
structure AsksAt (program : Bytes) (before : List Bytes) (asking : Bytes) (notice : Notice) :
    Prop where
  inOptions : [dash, dash] ∉ before
  admissible : ∃ request, parseArguments (program :: before) = .run request ∧
    notice.AskedBy request asking

namespace Notice.AskedBy

variable {notice : Notice} {request : Request} {asking : Bytes}

/-- It begins with a dash and does not end there. -/
theorem not_isPlain (asked : notice.AskedBy request asking) : ¬IsPlain asking := by
  rintro (same | noDash)
  · cases asked with
    | long => cases same
    | cluster flags rest =>
      have empty := (List.cons.inj same).2
      simp at empty
  · cases asked with
    | long => exact noDash rfl
    | cluster => exact noDash rfl

/-- An argument that asks for a notice is not two dashes. -/
theorem goesOn (asked : notice.AskedBy request asking) : asking ≠ [dash, dash] := by
  intro same
  subst same
  generalize whole : [dash, dash] = bytes at asked
  cases asked with
  | long => cases notice <;> cases whole
  | cluster flags rest =>
    have letters := (List.cons.inj whole).2
    cases flags with
    | nil =>
      have letter := (List.cons.inj letters).1
      cases notice <;> cases letter
    | cons flag flags =>
      have letter := (List.cons.inj letters).1
      cases flag <;> cases letter

end Notice.AskedBy

namespace Reading

variable {r next settled : Reading} {notice : Notice}

/-! ### Checking the pending value -/

theorem orStop_ne_notice (checked : Reading × Option Complaint) :
    orStop checked ≠ .error (.notice notice) := by
  obtain ⟨r, _ | complaint⟩ := checked <;> exact nofun

theorem pending_take (r : Reading) (argument : Argument) :
    (r.take argument).1.pending = r.pending := by
  unfold take
  split <;> rfl

/-- Taking a value does not change what is pending, as long as the way it is stored does not. -/
theorem pending_takeValue {argument : Argument} {value : Bytes}
    {store : String → Reading → Reading}
    (stores : ∀ text taken, (store text taken).pending = taken.pending) :
    (r.takeValue argument value store).1.pending = r.pending := by
  have taken := pending_take r argument
  unfold takeValue
  generalize r.take argument = step at taken
  obtain ⟨other, _ | complaint⟩ := step
  · dsimp only
    split
    · rw [stores]
      exact taken
    · exact taken
  · exact taken

theorem eq_of_orStop {checked : Reading × Option Complaint} (ok : orStop checked = .ok r) :
    checked.1 = r := by
  obtain ⟨other, _ | complaint⟩ := checked
  · exact Except.ok.inj ok
  · cases ok

/-- After the check nothing is pending. -/
theorem pending_of_resolve (resolved : orStop r.resolve = .ok settled) :
    settled.pending = none := by
  rw [← eq_of_orStop resolved]
  unfold resolve
  split
  · rfl
  · rfl
  · exact pending_takeValue fun _ _ => rfl
  · exact pending_takeValue fun _ _ => rfl

/-- With nothing pending there is nothing to check. -/
theorem resolve_of_pending (none : r.pending = none) : orStop r.resolve = .ok r := by
  obtain ⟨used, file, source, pending, seen⟩ := r
  cases none
  rfl

theorem resolve_used (resolved : orStop r.resolve = .ok settled) (used : List Argument) :
    orStop ({ settled with used := used } : Reading).resolve =
      .ok { settled with used := used } := by
  have nothing : settled.pending = none := pending_of_resolve resolved
  have pending : ({ settled with used := used } : Reading).pending = none := nothing
  exact resolve_of_pending pending

/-- A value that is there is never complained of as missing. -/
theorem missingFile_ne_takeValue {argument : Argument} {value : Bytes}
    {store : String → Reading → Reading} :
    orStop (r.takeValue argument value store) ≠ .error (.complaint .missingFile) := by
  unfold takeValue take
  by_cases old : r.used.contains argument
  · rw [if_pos old]
    exact nofun
  · rw [if_neg old]
    dsimp only
    cases Utf8.decode? value <;> exact nofun

/-- Only a path that is still to come is missing. -/
theorem not_complete_of_missingFile
    (missing : orStop r.resolve = .error (.complaint .missingFile)) : ¬r.Complete := by
  intro complete
  unfold resolve at missing
  split at missing
  · cases missing
  · next pending => exact complete pending
  · exact missingFile_ne_takeValue missing
  · exact missingFile_ne_takeValue missing

/-! ### Options -/

theorem option_of_notice (r : Reading) (notice : Notice) :
    r.option notice.argument = (orStop r.resolve).bind fun _ => .error (.notice notice) := by
  cases notice <;> rfl

theorem option_of_flag (r : Reading) (flag : Flag) : r.option flag.given.argument =
    (orStop r.resolve).bind fun settled => orStop (settled.take flag.given.argument) := by
  cases flag <;> rfl

theorem isSet_request (r : Reading) (flag : Flag) :
    flag.isSet r.request = r.used.contains flag.given.argument := by
  cases flag <;> rfl

/-- A flag is taken if it was not given before. -/
theorem option_flag_ok_iff {flag : Flag} : r.option flag.given.argument = .ok next ↔
    ∃ settled, orStop r.resolve = .ok settled ∧ flag.isSet settled.request = false ∧
      next = { settled with used := settled.used ++ [flag.given.argument] } := by
  rw [option_of_flag]
  cases orStop r.resolve with
  | error stop =>
    refine iff_of_false nofun ?_
    rintro ⟨settled, same, -⟩
    cases same
  | ok settled =>
    show orStop (settled.take flag.given.argument) = .ok next ↔ _
    unfold take
    cases old : settled.used.contains flag.given.argument with
    | true =>
      refine iff_of_false nofun ?_
      rintro ⟨other, same, fresh, -⟩
      cases same
      rw [isSet_request, old] at fresh
      cases fresh
    | false =>
      have fresh : flag.isSet settled.request = false := (isSet_request settled flag).trans old
      constructor
      · intro ok
        exact ⟨settled, rfl, fresh, (Except.ok.inj ok).symm⟩
      · rintro ⟨other, same, -, rfl⟩
        cases same
        rfl

/-- A flag that was taken is set from then on, and no other flag is. -/
theorem isSet_taken (settled : Reading) (flag other : Flag) :
    other.isSet { settled with used := settled.used ++ [flag.given.argument] }.request = false ↔
      other ≠ flag ∧ other.isSet settled.request = false := by
  have same : other.given.argument = flag.given.argument ↔ other = flag := by
    cases other <;> cases flag <;> decide
  simp only [isSet_request, List.contains_eq_mem, List.mem_append, List.mem_singleton, same,
    decide_eq_false_iff_not, not_or]
  exact and_comm

/-- A step that begins with a check of what is pending stops for a notice only after it. -/
theorem bind_ne_notice {rest : Reading → Except Stop Reading}
    (never : ∀ settled, rest settled ≠ .error (.notice notice)) :
    (orStop r.resolve).bind rest ≠ .error (.notice notice) := by
  cases resolved : orStop r.resolve with
  | error stop =>
    intro same
    cases same
    exact orStop_ne_notice r.resolve resolved
  | ok settled => exact never settled

theorem option_flag_ne_notice (flag : Flag) :
    r.option flag.given.argument ≠ .error (.notice notice) := by
  rw [option_of_flag]
  exact bind_ne_notice fun settled => orStop_ne_notice _

theorem fileOption_ne_notice (path : Option Bytes) :
    r.fileOption path ≠ .error (.notice notice) := by
  apply bind_ne_notice
  intro settled
  cases path with
  | none => exact nofun
  | some path => exact orStop_ne_notice _

theorem positional_ne_notice (text : Bytes) : r.positional text ≠ .error (.notice notice) := by
  unfold positional
  split
  · exact nofun
  · exact bind_ne_notice fun settled => nofun

/-! ### Where reading stops for a notice -/

/-- A long option stops for a notice exactly if it is the name of one. -/
theorem long_notice_iff {bytes : Bytes} : r.long bytes = .error (.notice notice) ↔
    bytes = Utf8.encodeString notice.name ∧ ∃ settled, orStop r.resolve = .ok settled := by
  constructor
  · intro stopped
    have whole := splitValue_sound bytes
    unfold long at stopped
    dsimp only at stopped
    generalize splitValue bytes = split at whole stopped
    obtain ⟨name, value⟩ := split
    cases known : Argument.options.find? (Utf8.encodeString ·.1 = name) with
    | none =>
      simp only [known, unknownLong, unknown] at stopped
      split at stopped <;> cases stopped
    | some found =>
      have named : Utf8.encodeString found.1 = name := by simpa using List.find?_some known
      have listed := List.mem_of_find?_eq_some known
      simp only [known] at stopped
      simp only [Argument.options, List.mem_cons, List.not_mem_nil, or_false] at listed
      -- The options for a notice stop for it unless there is a value; no other option does.
      have ofNotice (other : Notice) (isName : Utf8.encodeString other.name = name)
          (stopped : (value.elim (r.option other.argument) fun value => .error (.complaint
            (.unneededValue other.argument (Utf8.decodeLossy value)
              (r.used ++ [other.argument])))) = .error (.notice notice)) :
          bytes = Utf8.encodeString notice.name ∧ ∃ settled, orStop r.resolve = .ok settled := by
        cases value with
        | some value => cases stopped
        | none =>
          rw [Option.elim_none, option_of_notice] at stopped
          cases resolved : orStop r.resolve with
          | error stop =>
            rw [resolved] at stopped
            cases stopped
            exact absurd resolved (orStop_ne_notice _)
          | ok settled =>
            rw [resolved] at stopped
            cases stopped
            refine ⟨?_, settled, rfl⟩
            rw [whole, isName]
            exact List.append_nil name
      rcases listed with rfl | rfl | rfl | rfl | rfl
      · exact absurd stopped (fileOption_ne_notice value)
      · cases value with
        | none => exact absurd stopped (option_flag_ne_notice .verbose)
        | some value => cases stopped
      · cases value with
        | none => exact absurd stopped (option_flag_ne_notice .quiet)
        | some value => cases stopped
      · exact ofNotice .help named (by cases value <;> exact stopped)
      · exact ofNotice .version named (by cases value <;> exact stopped)
  · rintro ⟨rfl, settled, resolved⟩
    have known : Argument.options.find?
        (Utf8.encodeString ·.1 = Utf8.encodeString notice.name) =
          some (notice.name, notice.argument) := by cases notice <;> decide
    have noSign : equals ∉ Utf8.encodeString notice.name := by cases notice <;> decide
    have split := splitValue_name noSign none
    rw [Option.elim_none, List.append_nil] at split
    have reads : r.long (Utf8.encodeString notice.name) = r.option notice.argument := by
      unfold long
      rw [split]
      simp only [known]
      cases notice <;> rfl
    rw [reads, option_of_notice, resolved]
    rfl

/-- A letter that is known, but for that of the file, is that of a flag or of a notice. -/
theorem letter_cases {letter : UInt8} {argument : Argument}
    (known : letterOption letter = some argument) :
    (∃ flag : Flag, letter = flag.letter) ∨ ∃ notice : Notice, letter = notice.letter := by
  unfold letterOption at known
  split at known
  · exact .inl ⟨.verbose, ‹_›⟩
  · split at known
    · exact .inl ⟨.quiet, ‹_›⟩
    · split at known
      · exact .inr ⟨.help, ‹_›⟩
      · split at known
        · exact .inr ⟨.version, ‹_›⟩
        · cases known

theorem cluster_of_notice (r : Reading) (notice : Notice) (rest : Bytes) :
    r.cluster (notice.letter :: rest) =
      (orStop r.resolve).bind fun _ => .error (.notice notice) := by
  have reads : r.cluster (notice.letter :: rest) =
      (r.option notice.argument).bind fun next => next.cluster rest := by cases notice <;> rfl
  rw [reads, option_of_notice]
  cases orStop r.resolve <;> rfl

/-- Behind flags that were not given before, the letter of a notice is read. -/
theorem cluster_asks {flags : List Flag} (once : flags.Nodup)
    (resolved : orStop r.resolve = .ok settled)
    (fresh : ∀ flag ∈ flags, flag.isSet settled.request = false) (rest : Bytes) :
    r.cluster (Item.letters flags ++ notice.letter :: rest) = .error (.notice notice) := by
  induction flags generalizing r settled with
  | nil =>
    have reads := cluster_of_notice r notice rest
    rw [resolved] at reads
    exact reads
  | cons flag flags ih =>
    obtain ⟨new, once⟩ := List.nodup_cons.mp once
    have taken := option_flag_ok_iff.mpr
      ⟨settled, resolved, fresh flag List.mem_cons_self, rfl⟩
    have reads := cluster_flag r flag (Item.letters flags ++ notice.letter :: rest)
    rw [taken] at reads
    refine reads.trans (ih once (resolve_used resolved _) ?_)
    intro other mem
    rw [isSet_taken]
    exact ⟨fun same => new (same ▸ mem), fresh other (List.mem_cons_of_mem flag mem)⟩

/-- A cluster that asks for a notice does so behind flags that were not given before. -/
theorem cluster_notice {bytes : Bytes} (stopped : r.cluster bytes = .error (.notice notice)) :
    ∃ settled flags rest, orStop r.resolve = .ok settled ∧ flags.Nodup ∧
      (∀ flag ∈ flags, flag.isSet settled.request = false) ∧
      bytes = Item.letters flags ++ notice.letter :: rest := by
  induction bytes generalizing r with
  | nil => cases stopped
  | cons letter bytes ih =>
    by_cases isFile : letter = fileLetter
    · rw [isFile, cluster_file] at stopped
      exact absurd stopped (fileOption_ne_notice _)
    · cases known : letterOption letter with
      | none =>
        rw [cluster, if_neg isFile, known] at stopped
        cases stopped
      | some argument =>
        rcases letter_cases known with ⟨flag, rfl⟩ | ⟨other, rfl⟩
        · rw [cluster_flag] at stopped
          cases step : r.option flag.given.argument with
          | error stop =>
            rw [step] at stopped
            cases stopped
            exact absurd step (option_flag_ne_notice flag)
          | ok next =>
            rw [step] at stopped
            -- From here on the flag is set, so those that follow are others.
            obtain ⟨settled, resolved, new, rfl⟩ := option_flag_ok_iff.mp step
            obtain ⟨other, flags, rest, same, once, fresh, rfl⟩ := ih stopped
            rw [resolve_used resolved] at same
            cases same
            simp only [isSet_taken] at fresh
            refine ⟨settled, flag :: flags, rest, resolved, ?_, ?_, rfl⟩
            · exact List.nodup_cons.mpr ⟨fun mem => (fresh flag mem).1 rfl, once⟩
            · exact List.forall_mem_cons.mpr ⟨new, fun other mem => (fresh other mem).2⟩
        · rw [cluster_of_notice] at stopped
          cases resolved : orStop r.resolve with
          | error stop =>
            rw [resolved] at stopped
            cases stopped
            exact absurd resolved (orStop_ne_notice _)
          | ok settled =>
            rw [resolved] at stopped
            cases stopped
            exact ⟨settled, [], bytes, rfl, .nil, List.forall_mem_nil _, rfl⟩

/-- An argument stops reading for a notice exactly if it asks for it and what is pending is
admissible. -/
theorem argument_notice_iff {asking : Bytes} : r.argument asking = .error (.notice notice) ↔
    ∃ settled, orStop r.resolve = .ok settled ∧ notice.AskedBy settled.request asking := by
  constructor
  · intro stopped
    rcases argument_cases asking with ⟨bytes, rfl⟩ | ⟨byte, bytes, notDash, rfl⟩ | isPlain
    · obtain ⟨rfl, settled, resolved⟩ := long_notice_iff.mp stopped
      exact ⟨settled, resolved, .long⟩
    · rw [argument_cluster notDash] at stopped
      obtain ⟨settled, flags, rest, resolved, once, fresh, same⟩ := cluster_notice stopped
      rw [same]
      exact ⟨settled, resolved, .cluster flags rest once fresh⟩
    · rw [argument_plain isPlain] at stopped
      unfold plain at stopped
      split at stopped
      · cases stopped
      · exact absurd stopped (positional_ne_notice asking)
  · rintro ⟨settled, resolved, asked⟩
    cases asked with
    | long => exact long_notice_iff.mpr ⟨rfl, settled, resolved⟩
    | cluster flags rest once fresh =>
      have reads : r.argument (dash :: (Item.letters flags ++ notice.letter :: rest)) =
          r.cluster (Item.letters flags ++ notice.letter :: rest) := by
        cases flags with
        | nil => exact argument_cluster (by cases notice <;> decide) rest
        | cons flag flags => exact argument_cluster (by cases flag <;> decide) _
      rw [reads]
      exact cluster_asks once resolved fresh rest

/-- Behind two dashes nothing is an option. -/
theorem positionals_ne_notice (texts : List Bytes) :
    r.positionals texts ≠ .error (.notice notice) := by
  induction texts generalizing r with
  | nil => exact orStop_ne_notice r.resolve
  | cons text texts ih =>
    intro stopped
    rw [positionals] at stopped
    cases step : r.positional text with
    | error stop =>
      rw [step] at stopped
      cases stopped
      exact positional_ne_notice text step
    | ok next =>
      rw [step] at stopped
      exact ih stopped

/-- Reading stops for a notice exactly if an argument asks for it, in front of which there is
nothing wrong and no end of the options. -/
theorem arguments_notice_iff {all : List Bytes} : r.arguments all = .error (.notice notice) ↔
    ∃ before asking after last, all = before ++ asking :: after ∧ [dash, dash] ∉ before ∧
      r.arguments before = .ok last ∧ notice.AskedBy last.request asking := by
  constructor
  · intro stopped
    induction all generalizing r with
    | nil => exact absurd stopped (orStop_ne_notice r.resolve)
    | cons argument rest ih =>
      by_cases isEnd : argument = [dash, dash]
      · rw [arguments, if_pos isEnd] at stopped
        exact absurd stopped (positionals_ne_notice rest)
      · rw [arguments_cons isEnd] at stopped
        cases step : r.argument argument with
        | error stop =>
          rw [step] at stopped
          cases stopped
          obtain ⟨settled, resolved, asked⟩ := argument_notice_iff.mp step
          exact ⟨[], argument, rest, settled, rfl, List.not_mem_nil, resolved, asked⟩
        | ok next =>
          rw [step] at stopped
          obtain ⟨before, asking, after, last, rfl, inOptions, ok, asked⟩ := ih stopped
          refine ⟨argument :: before, asking, after, last, rfl, ?_, ?_, asked⟩
          · rw [List.mem_cons, not_or]
            exact ⟨fun same => isEnd same.symm, inOptions⟩
          · rw [arguments_cons isEnd, step]
            exact ok
  · rintro ⟨before, asking, after, last, rfl, inOptions, ok, asked⟩
    induction before generalizing r with
    | nil =>
      have stopped := argument_notice_iff.mpr ⟨last, ok, asked⟩
      rw [List.nil_append, arguments_cons asked.goesOn, stopped]
      rfl
    | cons argument before ih =>
      rw [List.mem_cons, not_or] at inOptions
      have goesOn : argument ≠ [dash, dash] := fun same => inOptions.1 same.symm
      rw [arguments_cons goesOn] at ok
      rw [List.cons_append, arguments_cons goesOn]
      cases step : r.argument argument with
      | error stop =>
        rw [step] at ok
        cases ok
      | ok next =>
        rw [step] at ok
        exact ih inOptions.2 ok

/-! ### How reading goes on -/

/-- Behind some texts reading has stopped, or it goes on with what follows. -/
theorem positionals_append (r : Reading) (texts : List Bytes) :
    (∃ stop, ∀ more, r.positionals (texts ++ more) = .error stop) ∨
      ∃ last : Reading, ∀ more, r.positionals (texts ++ more) = last.positionals more := by
  induction texts generalizing r with
  | nil => exact .inr ⟨r, fun _ => rfl⟩
  | cons text texts ih =>
    cases step : r.positional text with
    | error stop =>
      refine .inl ⟨stop, fun more => ?_⟩
      rw [List.cons_append, positionals, step]
      rfl
    | ok next =>
      have reads (more : List Bytes) :
          r.positionals (text :: texts ++ more) = next.positionals (texts ++ more) := by
        rw [List.cons_append, positionals, step]
        rfl
      simp only [reads]
      exact ih next

/-- Behind some arguments reading has stopped whatever follows, or it goes on, or it goes on
behind two dashes. -/
theorem arguments_append (r : Reading) (before : List Bytes) :
    (∃ stop, ∀ more, r.arguments (before ++ more) = .error stop) ∨
      (∃ last : Reading, ∀ more, r.arguments (before ++ more) = last.arguments more) ∨
      ∃ last : Reading, ∀ more, r.arguments (before ++ more) = last.positionals more := by
  induction before generalizing r with
  | nil => exact .inr (.inl ⟨r, fun _ => rfl⟩)
  | cons argument before ih =>
    by_cases isEnd : argument = [dash, dash]
    · have reads (more : List Bytes) :
          r.arguments (argument :: before ++ more) = r.positionals (before ++ more) := by
        rw [List.cons_append, arguments, if_pos isEnd]
      simp only [reads]
      exact (positionals_append r before).imp_right .inr
    · cases step : r.argument argument with
      | error stop =>
        refine .inl ⟨stop, fun more => ?_⟩
        rw [List.cons_append, arguments_cons isEnd, step]
        rfl
      | ok next =>
        have reads (more : List Bytes) :
            r.arguments (argument :: before ++ more) = next.arguments (before ++ more) := by
          rw [List.cons_append, arguments_cons isEnd, step]
          rfl
        simp only [reads]
        exact ih next

/-! ### What is wrong stays wrong -/

/-- A step that begins with a check of what is pending succeeds only if this is admissible. -/
theorem resolved_of_bind {rest : Reading → Except Stop Reading}
    (ok : (orStop r.resolve).bind rest = .ok next) :
    ∃ settled, orStop r.resolve = .ok settled := by
  cases resolved : orStop r.resolve with
  | error stop =>
    rw [resolved] at ok
    cases ok
  | ok settled => exact ⟨settled, rfl⟩

theorem resolved_of_positional {text : Bytes} (ok : r.positional text = .ok next) :
    ∃ settled, orStop r.resolve = .ok settled := by
  unfold positional at ok
  split at ok
  · cases ok
  · exact resolved_of_bind ok

/-- Unless a path is still to come, no argument is taken before what is pending is checked. -/
theorem resolved_of_argument {argument : Bytes} (complete : r.Complete)
    (ok : r.argument argument = .ok next) : ∃ settled, orStop r.resolve = .ok settled := by
  rcases argument_cases argument with ⟨bytes, rfl⟩ | ⟨letter, bytes, notDash, rfl⟩ | isPlain
  · rcases long_ok ok with ⟨path, -, ok⟩ | ⟨flag, -, ok⟩
    · exact resolved_of_bind ok
    · exact resolved_of_bind ok
  · rw [argument_cluster notDash, cluster] at ok
    split at ok
    · exact resolved_of_bind ok
    · split at ok
      · next option _ =>
        cases step : r.option option with
        | ok middle => exact resolved_of_bind step
        | error stop =>
          rw [step] at ok
          cases ok
      · cases ok
  · rw [argument_plain isPlain, plain_of_complete complete] at ok
    exact resolved_of_positional ok

/-- If something is wrong with what is pending, no arguments that follow are accepted. -/
theorem arguments_ne_ok {stop : Stop} (complete : r.Complete)
    (wrong : orStop r.resolve = .error stop) (all : List Bytes) : r.arguments all ≠ .ok next := by
  have unresolved : ¬∃ settled, orStop r.resolve = .ok settled := by
    rintro ⟨settled, resolved⟩
    rw [wrong] at resolved
    cases resolved
  intro ok
  cases all with
  | nil => exact unresolved ⟨next, ok⟩
  | cons argument rest =>
    by_cases isEnd : argument = [dash, dash]
    · rw [arguments, if_pos isEnd] at ok
      cases rest with
      | nil => exact unresolved ⟨next, ok⟩
      | cons text texts =>
        rw [positionals] at ok
        cases step : r.positional text with
        | error stop =>
          rw [step] at ok
          cases ok
        | ok middle => exact unresolved (resolved_of_positional step)
    · rw [arguments_cons isEnd] at ok
      cases step : r.argument argument with
      | error stop =>
        rw [step] at ok
        cases ok
      | ok middle => exact unresolved (resolved_of_argument complete step)

/-- After an error in some arguments no notice is given, unless the error is that a path is
missing, which may still come. -/
theorem arguments_ne_notice {before more : List Bytes} {complaint : Complaint}
    (wrong : r.arguments before = .error (.complaint complaint))
    (notMissing : complaint ≠ .missingFile) :
    r.arguments (before ++ more) ≠ .error (.notice notice) := by
  intro heard
  have whole := List.append_nil before
  rcases arguments_append r before with ⟨stop, stops⟩ | ⟨last, goes⟩ | ⟨last, goes⟩
  · have same := stops []
    rw [whole, wrong] at same
    rw [stops more, ← same] at heard
    cases heard
  -- The error is in what is pending, and is found before any argument is heard.
  · have pending : orStop last.resolve = .error (.complaint complaint) := by
      rw [← wrong, ← whole, goes]
      rfl
    have complete : last.Complete := by
      intro waiting
      refine notMissing ?_
      simp only [resolve, waiting, orStop] at pending
      cases pending
      rfl
    rw [goes] at heard
    obtain ⟨accepted, -, -, middle, -, -, ok, -⟩ := arguments_notice_iff.mp heard
    exact arguments_ne_ok complete pending accepted ok
  · rw [goes] at heard
    exact positionals_ne_notice more heard

/-- While a path is still to come, an option is not heard. -/
theorem arguments_ne_notice_of_missing {before after : List Bytes} {asking : Bytes}
    (missing : r.arguments before = .error (.complaint .missingFile)) (notPlain : ¬IsPlain asking) :
    r.arguments (before ++ asking :: after) ≠ .error (.notice notice) := by
  intro heard
  have whole := List.append_nil before
  rcases arguments_append r before with ⟨stop, stops⟩ | ⟨last, goes⟩ | ⟨last, goes⟩
  · have same := stops []
    rw [whole, missing] at same
    rw [stops, ← same] at heard
    cases heard
  -- Reading waits for the path, and what asks is the next argument, which is none.
  · have pending : orStop last.resolve = .error (.complaint .missingFile) := by
      rw [← missing, ← whole, goes]
      rfl
    have waiting : ¬last.Complete := not_complete_of_missingFile pending
    rw [goes] at heard
    obtain ⟨accepted, other, rest, middle, same, inOptions, ok, asked⟩ :=
      arguments_notice_iff.mp heard
    cases accepted with
    | nil =>
      rw [arguments, pending] at ok
      cases ok
    | cons argument accepted =>
      obtain ⟨rfl, -⟩ := List.cons.inj same
      rw [List.mem_cons, not_or] at inOptions
      rw [arguments_cons fun same => inOptions.1 same.symm] at ok
      cases step : last.argument asking with
      | error stop =>
        rw [step] at ok
        cases ok
      | ok next => exact (complete_of_argument step).elim notPlain waiting
  · rw [goes] at heard
    exact positionals_ne_notice _ heard

end Reading

/-! ### Calls -/

section Calls

variable {program : Bytes} {arguments before : List Bytes} {asking : Bytes} {notice : Notice}
  {name : List Char}

theorem parse_run_iff_reading {request : Request} :
    parseArguments (program :: arguments) = .run request ↔
      ∃ last, Reading.start.arguments arguments = .ok last ∧ last.request = request := by
  rw [parseArguments]
  cases Reading.start.arguments arguments with
  | ok last => simp
  | error stop => cases stop <;> simp

theorem parse_info_iff_reading : parseArguments (program :: arguments) = .info notice name ↔
    name = calledName program ∧
      Reading.start.arguments arguments = .error (.notice notice) := by
  rw [parseArguments]
  cases Reading.start.arguments arguments with
  | ok last => simp
  | error stop => cases stop <;> simp [and_comm, eq_comm]

/-- A call is answered with a complaint exactly if reading stops with it. -/
theorem parse_usage_iff_reading {complaint : Complaint} :
    parseArguments (program :: arguments) = .usage complaint name ↔
      name = calledName program ∧
        Reading.start.arguments arguments = .error (.complaint complaint) := by
  rw [parseArguments]
  cases Reading.start.arguments arguments with
  | ok last => simp
  | error stop => cases stop <;> simp [and_comm, eq_comm]

/-- A notice is given exactly if an argument asks for it and all before that is admissible. -/
theorem parse_info_iff : parseArguments (program :: arguments) = .info notice name ↔
    name = calledName program ∧ ∃ before asking after,
      arguments = before ++ asking :: after ∧ AsksAt program before asking notice := by
  rw [parse_info_iff_reading, Reading.arguments_notice_iff]
  refine and_congr_right fun _ => ?_
  constructor
  · rintro ⟨before, asking, after, last, split, inOptions, ok, asked⟩
    exact ⟨before, asking, after, split, inOptions, last.request,
      parse_run_iff_reading.mpr ⟨last, ok, rfl⟩, asked⟩
  · rintro ⟨before, asking, after, split, inOptions, request, asksRun, asked⟩
    obtain ⟨last, ok, rfl⟩ := parse_run_iff_reading.mp asksRun
    exact ⟨before, asking, after, last, split, inOptions, ok, asked⟩

/-- Arguments that ask for a run hold no argument that asks for a notice. -/
theorem AsksAt.not_within {after : List Bytes} (asks : AsksAt program before asking notice)
    {request : Request} : parseArguments (program :: (before ++ asking :: after)) ≠ .run request := by
  intro asksRun
  rw [parse_info_iff.mpr ⟨rfl, before, asking, after, rfl, asks⟩] at asksRun
  cases asksRun

/-- There is one argument at most that is heard to ask for a notice. -/
theorem AsksAt.unique {before' after after' : List Bytes} {asking' : Bytes} {notice' : Notice}
    (asks : AsksAt program before asking notice) (asks' : AsksAt program before' asking' notice')
    (same : before ++ asking :: after = before' ++ asking' :: after') :
    before = before' ∧ asking = asking' := by
  obtain ⟨request, asksRun, -⟩ := asks.admissible
  obtain ⟨request', asksRun', -⟩ := asks'.admissible
  rcases List.append_eq_append_iff.mp same with ⟨between, split, rest⟩ | ⟨between, split, rest⟩
  · cases between with
    | nil => exact ⟨by rw [split, List.append_nil], (List.cons.inj rest).1⟩
    | cons argument between =>
      obtain ⟨rfl, -⟩ := List.cons.inj rest
      rw [split] at asksRun'
      exact absurd asksRun' asks.not_within
  · cases between with
    | nil => exact ⟨by rw [split, List.append_nil], (List.cons.inj rest).1.symm⟩
    | cons argument between =>
      obtain ⟨rfl, -⟩ := List.cons.inj rest
      rw [split] at asksRun
      exact absurd asksRun asks'.not_within

end Calls

/-- When calls by a name are answered with a notice. -/
structure NoticesHeard (program : Bytes) : Prop where
  /-- A notice is given exactly if an argument asks for it and all before that is admissible. -/
  info_iff : ∀ (arguments : List Bytes) (notice : Notice) (name : List Char),
    parseArguments (program :: arguments) = .info notice name ↔
      name = calledName program ∧ ∃ before asking after,
        arguments = before ++ asking :: after ∧ AsksAt program before asking notice
  /-- It is the first such argument that is heard, since there is no other. -/
  first : ∀ (before before' after after' : List Bytes) (asking asking' : Bytes)
    (notice notice' : Notice), AsksAt program before asking notice →
    AsksAt program before' asking' notice' →
    before ++ asking :: after = before' ++ asking' :: after' →
    before = before' ∧ asking = asking' ∧ notice = notice'
  /-- Nothing that follows matters, be it right or wrong. -/
  kept : ∀ (arguments more : List Bytes) (notice : Notice) (name : List Char),
    parseArguments (program :: arguments) = .info notice name →
    parseArguments (program :: (arguments ++ more)) = .info notice name
  /-- After an error, but for a path that may still come, no notice is given. -/
  afterError : ∀ (before more : List Bytes) (complaint : Complaint) (notice : Notice)
    (name name' : List Char), complaint ≠ .missingFile →
    parseArguments (program :: before) = .usage complaint name →
    parseArguments (program :: (before ++ more)) ≠ .info notice name'
  /-- Where a path is still to come, nothing is heard that asks for a notice. -/
  afterFile : ∀ (before after : List Bytes) (asking : Bytes) (request : Request)
    (notice notice' : Notice) (name name' : List Char), notice.AskedBy request asking →
    parseArguments (program :: before) = .usage .missingFile name →
    parseArguments (program :: (before ++ asking :: after)) ≠ .info notice' name'
  /-- Behind two dashes nothing is heard that was not heard before them. -/
  afterDashes : ∀ (before after : List Bytes) (notice : Notice) (name : List Char),
    parseArguments (program :: (before ++ [dash, dash] :: after)) = .info notice name →
    parseArguments (program :: before) = .info notice name

/-- **Help and version win exactly when nothing before them is wrong.**  The parts are about which
call is answered with a notice, which option is heard, and what the arguments behind it and before
it change. -/
theorem notices_heard (program : Bytes) : NoticesHeard program where
  info_iff _ _ _ := parse_info_iff
  first before before' after after' asking asking' notice notice' asks asks' same := by
    obtain ⟨rfl, rfl⟩ := asks.unique asks' same
    refine ⟨rfl, rfl, ?_⟩
    have heard := parse_info_iff.mpr ⟨rfl, before, asking, after, rfl, asks⟩
    have heard' := parse_info_iff.mpr ⟨rfl, before, asking, after, rfl, asks'⟩
    rw [heard] at heard'
    cases heard'
    rfl
  kept arguments more notice name heard := by
    obtain ⟨named, before, asking, after, rfl, asks⟩ := parse_info_iff.mp heard
    refine parse_info_iff.mpr ⟨named, before, asking, after ++ more, ?_, asks⟩
    rw [List.append_assoc, List.cons_append]
  afterError before more complaint notice name name' notMissing wrong heard := by
    obtain ⟨-, wrong⟩ := parse_usage_iff_reading.mp wrong
    exact Reading.arguments_ne_notice wrong notMissing (parse_info_iff_reading.mp heard).2
  afterFile before after asking request notice notice' name name' asked missing heard := by
    obtain ⟨-, missing⟩ := parse_usage_iff_reading.mp missing
    exact Reading.arguments_ne_notice_of_missing missing asked.not_isPlain
      (parse_info_iff_reading.mp heard).2
  afterDashes before after notice name heard := by
    obtain ⟨named, earlier, asking, later, split, asks⟩ := parse_info_iff.mp heard
    obtain ⟨request, -, asked⟩ := asks.admissible
    refine parse_info_iff.mpr ⟨named, earlier, asking, ?_⟩
    -- The two dashes are neither what asks nor before it, so they stand behind it.
    rcases List.append_eq_append_iff.mp split with ⟨between, same, rest⟩ | ⟨between, same, rest⟩
    · cases between with
      | nil => exact absurd (List.cons.inj rest).1.symm asked.goesOn
      | cons argument between =>
        obtain ⟨rfl, -⟩ := List.cons.inj rest
        refine absurd ?_ asks.inOptions
        rw [same]
        exact List.mem_append_right _ List.mem_cons_self
    · cases between with
      | nil => exact absurd (List.cons.inj rest).1 asked.goesOn
      | cons argument between =>
        obtain ⟨rfl, -⟩ := List.cons.inj rest
        exact ⟨between, same, asks⟩

end JsxDetect
