import JsxDetect.Proofs.Command.Spelling

/-!
# The grammar of arguments

Reading arguments accepts exactly the spellings of requests, and finds exactly what they mean.
In one direction every item of a spelling is read as what it gives; in the other, every argument
that is accepted is an item, or asks for a path that makes an item of it.

## Main Results

* `Reading.arguments_item`, `Reading.arguments_spelling`: spellings are accepted
* `Reading.argument_sound`, `Reading.arguments_sound`: nothing else is
* `parse_run_iff`: arguments ask for a run exactly if they spell its request

## Design Notes

**Both directions by the same cases.**  An argument begins with two dashes, with one, or with none,
and `argument_cases` is this distinction.  For completeness each shape of an item is read,
`arguments_item`; for soundness each argument that is accepted is taken apart, `argument_sound`.
Neither direction looks at what a reading is made of: the module on readings says what the steps do
in terms of what was given.

**A path that is still to come.**  An option for a file may stand at the end of an argument and take
the next one as its path.  So one item may be two arguments, and the reading in between is one that
is not `Complete`.  In the soundness direction such an argument is not an item but `AsksFor` one,
and the induction is on the number of arguments and not on their list.
-/

namespace JsxDetect

/-! ### The shapes of arguments -/

namespace Reading

variable {r next : Reading} {given : List Given}

/-- An argument begins with two dashes, is a cluster of letters, or does not look like an option. -/
theorem argument_cases (bytes : Bytes) :
    (∃ rest, bytes = dash :: dash :: rest) ∨
      (∃ byte rest, byte ≠ dash ∧ bytes = dash :: byte :: rest) ∨ IsPlain bytes := by
  cases bytes with
  | nil => exact .inr (.inr (.inr nofun))
  | cons first bytes =>
    by_cases isDash : first = dash
    · subst isDash
      cases bytes with
      | nil => exact .inr (.inr (.inl rfl))
      | cons byte rest =>
        by_cases two : byte = dash
        · exact .inl ⟨rest, by rw [two]⟩
        · exact .inr (.inl ⟨byte, rest, two, rfl⟩)
    · exact .inr (.inr (.inr fun same => isDash (Option.some.inj same)))

theorem argument_long (r : Reading) (bytes : Bytes) :
    r.argument (dash :: dash :: bytes) = r.long bytes := rfl

theorem argument_cluster {byte : UInt8} (one : byte ≠ dash) (bytes : Bytes) :
    r.argument (dash :: byte :: bytes) = r.cluster (byte :: bytes) := by
  rw [dash, argument]
  exact one

theorem argument_plain {bytes : Bytes} (isPlain : IsPlain bytes) :
    r.argument bytes = r.plain bytes := by
  rcases isPlain with rfl | noDash
  · rfl
  · rw [argument]
    · exact fun _ same => noDash (by rw [same]; rfl)
    · exact fun _ _ same => noDash (by rw [same]; rfl)

/-- A name without an equals sign is split from what is behind the first one. -/
theorem splitValue_name {name : Bytes} (noSign : equals ∉ name) (value : Option Bytes) :
    splitValue (name ++ value.elim [] (equals :: ·)) = (name, value) := by
  have all : ∀ byte ∈ name, (decide (byte ≠ equals)) = true := fun byte mem =>
    decide_eq_true fun same => noSign (same ▸ mem)
  have taken : (name ++ value.elim [] (equals :: ·)).takeWhile (· ≠ equals) = name := by
    rw [List.takeWhile_append_of_pos all]
    cases value with
    | none => exact List.append_nil name
    | some value => simp
  rw [splitValue, taken, List.drop_left]
  cases value with
  | none => rfl
  | some value => rfl

/-- Whatever is split is the name, and perhaps an equals sign and the value. -/
theorem splitValue_sound (bytes : Bytes) :
    bytes = (splitValue bytes).1 ++ (splitValue bytes).2.elim [] (equals :: ·) := by
  induction bytes with
  | nil => rfl
  | cons byte bytes ih =>
    by_cases sign : byte = equals
    · rw [splitValue, List.takeWhile_cons_of_neg (by simpa using sign), sign]
      rfl
    · rw [splitValue] at ih ⊢
      rw [List.takeWhile_cons_of_pos (by simpa using sign), List.length_cons, List.drop_succ_cons]
      cases rest : bytes.drop (bytes.takeWhile (· ≠ equals)).length with
      | nil =>
        rw [rest] at ih
        exact congrArg (byte :: ·) ih
      | cons sign value =>
        rw [rest] at ih
        exact congrArg (byte :: ·) ih

/-! ### Long options -/

theorem long_file (r : Reading) (path : Option Bytes) :
    r.long (Utf8.encodeString "file" ++ path.elim [] (equals :: ·)) = r.fileOption path := by
  have known : Argument.options.find? (Utf8.encodeString ·.1 = Utf8.encodeString "file") =
      some ("file", .file) := by decide
  rw [long, splitValue_name (by decide)]
  simp only [known]

/-- The long option of a flag. -/
theorem long_flag (r : Reading) (flag : Flag) :
    r.long (Utf8.encodeString flag.name) = r.option flag.given.argument := by
  have known : Argument.options.find? (Utf8.encodeString ·.1 = Utf8.encodeString flag.name) =
      some (flag.name, flag.given.argument) := by cases flag <;> decide
  have noSign : equals ∉ Utf8.encodeString flag.name := by cases flag <;> decide
  have split := splitValue_name noSign none
  rw [Option.elim_none, List.append_nil] at split
  rw [long, split]
  simp only [known]
  cases flag <;> rfl

theorem option_notice {argument : Argument} (notice : argument = .help ∨ argument = .version) :
    r.option argument ≠ .ok next := by
  rw [option]
  cases orStop r.resolve with
  | error stop => exact nofun
  | ok settled => rcases notice with rfl | rfl <;> exact nofun

/-- A long option that reading accepts is one of those of the grammar. -/
theorem long_ok {bytes : Bytes} (ok : r.long bytes = .ok next) :
    (∃ path, bytes = Utf8.encodeString "file" ++ path.elim [] (equals :: ·) ∧
      r.fileOption path = .ok next) ∨
    ∃ flag : Flag, bytes = Utf8.encodeString flag.name ∧
      r.option flag.given.argument = .ok next := by
  have whole := splitValue_sound bytes
  rw [long] at ok
  dsimp only at ok
  generalize splitValue bytes = split at whole ok
  obtain ⟨name, value⟩ := split
  cases known : Argument.options.find? (Utf8.encodeString ·.1 = name) with
  | none =>
    simp only [known, unknownLong, unknown] at ok
    split at ok <;> cases ok
  | some found =>
    have named : Utf8.encodeString found.1 = name := by simpa using List.find?_some known
    have listed := List.mem_of_find?_eq_some known
    simp only [known] at ok
    -- A value is refused by all options but that for a file.
    have flagOk (argument : Argument)
        (ok : (value.elim (r.option argument) fun value => .error (.complaint (.unneededValue
          argument (Utf8.decodeLossy value) (r.used ++ [argument])))) = .ok next) :
        bytes = name ∧ r.option argument = .ok next := by
      cases value with
      | none => exact ⟨by rw [whole]; exact List.append_nil name, ok⟩
      | some value => cases ok
    simp only [Argument.options, List.mem_cons, List.not_mem_nil, or_false] at listed
    rcases listed with rfl | rfl | rfl | rfl | rfl
    · exact .inl ⟨value, by rw [named]; exact whole, ok⟩
    · obtain ⟨same, ok⟩ := flagOk .verbose (by cases value <;> exact ok)
      exact .inr ⟨.verbose, by rw [same]; exact named.symm, ok⟩
    · obtain ⟨same, ok⟩ := flagOk .quiet (by cases value <;> exact ok)
      exact .inr ⟨.quiet, by rw [same]; exact named.symm, ok⟩
    · exact absurd (flagOk .help (by cases value <;> exact ok)).2 (option_notice (.inl rfl))
    · exact absurd (flagOk .version (by cases value <;> exact ok)).2 (option_notice (.inr rfl))

/-! ### Clusters -/

/-- What is behind the letter for a file is its path, if there is something. -/
theorem attachedPath_behind {behind : Bytes} (nonempty : behind ≠ []) :
    attachedPath behind = some (behindLetter behind) := by
  cases behind with
  | nil => exact absurd rfl nonempty
  | cons byte rest =>
    rw [attachedPath, behindLetter, List.head?_cons, List.tail_cons]
    by_cases sign : byte = equals
    · rw [if_pos sign, if_pos (congrArg some sign)]
    · rw [if_neg sign, if_neg fun same => sign (Option.some.inj same)]

theorem cluster_flag (r : Reading) (flag : Flag) (rest : Bytes) :
    r.cluster (flag.letter :: rest) =
      (r.option flag.given.argument).bind fun next => next.cluster rest := by
  cases flag <;> rfl

theorem cluster_file (r : Reading) (rest : Bytes) :
    r.cluster (fileLetter :: rest) = r.fileOption (attachedPath rest) := by
  rw [cluster, if_pos rfl]

theorem snoc_flags (given : List Given) (flag : Flag) (flags : List Flag) :
    given ++ (flag :: flags).map Flag.given = given ++ [flag.given] ++ flags.map Flag.given := by
  rw [List.append_assoc, List.map_cons]
  rfl

/-- The flags at the beginning of a cluster are taken, if all is admissible. -/
theorem cluster_flags (holds : r.Holds given) (complete : r.Complete) {flags : List Flag}
    (admissible : Admissible (given ++ flags.map Flag.given)) (rest : Bytes) :
    ∃ next : Reading, r.cluster (Item.letters flags ++ rest) = next.cluster rest ∧
      next.Holds (given ++ flags.map Flag.given) ∧ next.Complete := by
  induction flags generalizing r given with
  | nil => exact ⟨r, rfl, (List.append_nil given).symm ▸ holds, complete⟩
  | cons flag flags ih =>
    rw [snoc_flags] at admissible ⊢
    obtain ⟨next, ok, nextHolds, nextComplete⟩ :=
      (option_flag holds flag.value?_given).ok complete admissible.of_append
    obtain ⟨last, same, lastHolds⟩ := ih nextHolds nextComplete admissible
    refine ⟨last, ?_, lastHolds⟩
    rw [← same]
    exact (cluster_flag r flag _).trans (by rw [ok]; rfl)

/-- A letter that is known is that of a flag, or asks for a notice. -/
theorem letterOption_cases {letter : UInt8} {argument : Argument}
    (known : letterOption letter = some argument) :
    (∃ flag : Flag, letter = flag.letter ∧ argument = flag.given.argument) ∨
      argument = .help ∨ argument = .version := by
  rw [letterOption] at known
  split at known
  · next same => exact .inl ⟨.verbose, same, (Option.some.inj known).symm⟩
  · split at known
    · next same => exact .inl ⟨.quiet, same, (Option.some.inj known).symm⟩
    · split at known
      · exact .inr (.inl (Option.some.inj known).symm)
      · split at known
        · exact .inr (.inr (Option.some.inj known).symm)
        · cases known

/-- A cluster that reading accepts consists of flags, and perhaps the letter for a file. -/
theorem cluster_ok (holds : r.Holds given) (complete : r.Complete) {bytes : Bytes}
    (ok : r.cluster bytes = .ok next) :
    ∃ flags : List Flag,
      (bytes = Item.letters flags ∧ next.Holds (given ++ flags.map Flag.given) ∧ next.Complete) ∨
      ∃ (before : Reading) (behind : Bytes),
        bytes = Item.letters flags ++ fileLetter :: behind ∧
        before.Holds (given ++ flags.map Flag.given) ∧
        before.fileOption (attachedPath behind) = .ok next := by
  -- on the letters: flags come first, until the letter for a file takes all that is behind it
  induction bytes generalizing r given with
  | nil =>
    cases ok
    exact ⟨[], .inl ⟨rfl, (List.append_nil given).symm ▸ holds, complete⟩⟩
  | cons letter rest ih =>
    by_cases isFile : letter = fileLetter
    · rw [isFile, cluster_file] at ok
      exact ⟨[], .inr ⟨r, rest, by rw [isFile]; rfl, (List.append_nil given).symm ▸ holds, ok⟩⟩
    · rw [cluster, if_neg isFile] at ok
      cases known : letterOption letter with
      | none =>
        rw [known] at ok
        cases ok
      | some argument =>
        replace ok : (r.option argument).bind (·.cluster rest) = .ok next := by
          rw [known] at ok
          exact ok
        cases step : r.option argument with
        | error stop =>
          rw [step] at ok
          cases ok
        | ok middle =>
          rw [step] at ok
          rcases letterOption_cases known with ⟨flag, rfl, rfl⟩ | notice
          · obtain ⟨-, middleHolds, middleComplete⟩ :=
              (option_flag holds flag.value?_given).of_ok step
            obtain ⟨flags, found⟩ := ih middleHolds middleComplete ok
            refine ⟨flag :: flags, ?_⟩
            rw [snoc_flags]
            rcases found with ⟨same, inLine⟩ | ⟨before, behind, same, inLine⟩
            · exact .inl ⟨congrArg (flag.letter :: ·) same, inLine⟩
            · exact .inr ⟨before, behind, congrArg (flag.letter :: ·) same, inLine⟩
          · exact absurd step (option_notice notice)

/-! ### All arguments -/

theorem arguments_cons {argument : Bytes} (goesOn : argument ≠ [dash, dash]) (rest : List Bytes) :
    r.arguments (argument :: rest) =
      (r.argument argument).bind fun next => next.arguments rest := by
  rw [arguments, if_neg goesOn]
  rfl

theorem IsPlain.goesOn {bytes : Bytes} (isPlain : IsPlain bytes) : bytes ≠ [dash, dash] := by
  rintro rfl
  rcases isPlain with same | noDash
  · cases same
  · exact noDash rfl

/-- A path that is still to come is the next argument. -/
theorem arguments_waiting (holds : r.Holds given) (waiting : ¬r.Complete) {path : Bytes}
    (isPlain : IsPlain path) : ∃ next : Reading, (∀ rest, r.arguments (path :: rest) =
      next.arguments rest) ∧ next.Holds (given ++ [.file path]) ∧ next.Complete := by
  obtain ⟨next, ok, inLine⟩ := plain_of_waiting holds waiting path
  refine ⟨next, fun rest => ?_, inLine⟩
  rw [arguments_cons (IsPlain.goesOn isPlain), argument_plain isPlain, ok]
  rfl

/-- The option for a file and then its path. -/
theorem arguments_detached {before : Reading} (holds : before.Holds given)
    (complete : before.Complete) {path argument : Bytes} (isPlain : IsPlain path)
    (admissible : Admissible (given ++ [.file path])) (goesOn : argument ≠ [dash, dash])
    (reads : r.argument argument = before.fileOption none) :
    ∃ next : Reading, (∀ rest, r.arguments ([argument, path] ++ rest) = next.arguments rest) ∧
      next.Holds (given ++ [.file path]) ∧ next.Complete := by
  rcases fileOption_none holds with ⟨-, middle, ok, inLine, waiting⟩ | ⟨wrong, -⟩
  · obtain ⟨next, goes, nextHolds⟩ := arguments_waiting inLine waiting isPlain
    refine ⟨next, fun rest => ?_, nextHolds⟩
    rw [List.cons_append, arguments_cons goesOn, reads, ok]
    exact goes rest
  · exact absurd ⟨complete, admissible.of_append⟩ wrong

/-- An argument that gives something by itself. -/
theorem arguments_single {step : Except Stop Reading} {more : List Given} {argument : Bytes}
    (goesOn : argument ≠ [dash, dash]) (reads : r.argument argument = step)
    (leads : ∃ next : Reading, step = .ok next ∧ next.Holds (given ++ more) ∧ next.Complete) :
    ∃ next : Reading, (∀ rest, r.arguments ([argument] ++ rest) = next.arguments rest) ∧
      next.Holds (given ++ more) ∧ next.Complete := by
  obtain ⟨next, ok, inLine⟩ := leads
  refine ⟨next, fun rest => ?_, inLine⟩
  rw [List.singleton_append, arguments_cons goesOn, reads, ok]
  rfl

/-- A cluster with at least one letter. -/
theorem argument_letters (r : Reading) (flags : List Flag) (bytes : Bytes)
    (letter : flags = [] → ∃ rest, bytes = fileLetter :: rest) :
    r.argument (dash :: (Item.letters flags ++ bytes)) = r.cluster (Item.letters flags ++ bytes) ∧
      dash :: (Item.letters flags ++ bytes) ≠ [dash, dash] := by
  cases flags with
  | nil =>
    obtain ⟨rest, rfl⟩ := letter rfl
    exact ⟨argument_cluster (by decide) rest, by simp [Item.letters, fileLetter, dash]⟩
  | cons flag flags =>
    have notDash : flag.letter ≠ dash := by cases flag <;> decide
    exact ⟨argument_cluster notDash _, by simp [Item.letters, notDash]⟩

/-- An item is read as what it gives, if all is admissible. -/
theorem arguments_item (holds : r.Holds given) (complete : r.Complete) {item : Item}
    (wellFormed : item.WellFormed) (admissible : Admissible (given ++ item.given)) :
    ∃ next : Reading, (∀ rest, r.arguments (item.words ++ rest) = next.arguments rest) ∧
      next.Holds (given ++ item.given) ∧ next.Complete := by
  cases item with
  | flag flag =>
    have notEnd : dash :: dash :: Utf8.encodeString flag.name ≠ [dash, dash] := by
      cases flag <;> decide
    exact arguments_single notEnd ((argument_long r _).trans (long_flag r flag))
      ((option_flag holds flag.value?_given).ok complete admissible)
  | cluster flags =>
    obtain ⟨reads, goesOn⟩ := argument_letters r flags []
      fun none => absurd none wellFormed
    rw [List.append_nil] at reads goesOn
    obtain ⟨next, ok, inLine⟩ := cluster_flags holds complete admissible []
    rw [List.append_nil] at ok
    exact arguments_single goesOn reads ⟨next, ok, inLine⟩
  | attached flags behind =>
    obtain ⟨reads, goesOn⟩ := argument_letters r flags (fileLetter :: behind)
      fun _ => ⟨_, rfl⟩
    rw [Item.given, ← List.append_assoc] at admissible ⊢
    obtain ⟨before, ok, inLine, beforeComplete⟩ :=
      cluster_flags holds complete admissible.of_append (fileLetter :: behind)
    rw [ok, cluster_file, attachedPath_behind wellFormed] at reads
    rw [List.append_assoc]
    refine arguments_single goesOn reads ?_
    rw [← List.append_assoc]
    exact (fileOption_some inLine _).ok beforeComplete admissible
  | detached flags path =>
    obtain ⟨reads, goesOn⟩ := argument_letters r flags [fileLetter]
      fun _ => ⟨_, rfl⟩
    rw [Item.given, ← List.append_assoc] at admissible ⊢
    obtain ⟨before, ok, inLine, beforeComplete⟩ :=
      cluster_flags holds complete admissible.of_append [fileLetter]
    rw [ok, cluster_file] at reads
    exact arguments_detached inLine beforeComplete wellFormed admissible goesOn reads
  | longAttached path =>
    have notEnd : dash :: dash :: Utf8.encodeString "file" ++ equals :: path ≠ [dash, dash] := by
      simp
    exact arguments_single notEnd ((argument_long r _).trans (long_file r (some path)))
      ((fileOption_some holds path).ok complete admissible)
  | longDetached path =>
    have notEnd : dash :: dash :: Utf8.encodeString "file" ≠ [dash, dash] := by decide
    have reads := (argument_long r _).trans (long_file r none)
    rw [Option.elim_none, List.append_nil] at reads
    exact arguments_detached holds complete wellFormed admissible notEnd reads
  | positional text =>
    refine arguments_single (IsPlain.goesOn wellFormed)
      ((argument_plain wellFormed).trans (plain_of_complete complete text))
      ((positional_leads holds text).ok complete admissible)

theorem snoc_texts (given : List Given) (text : Bytes) (texts : List Bytes) :
    given ++ (text :: texts).map Given.source =
      given ++ [.source text] ++ texts.map Given.source := by
  rw [List.append_assoc, List.map_cons]
  rfl

/-- The texts behind two dashes are taken, if all is admissible. -/
theorem positionals_ok (holds : r.Holds given) (complete : r.Complete) (texts : List Bytes)
    (admissible : Admissible (given ++ texts.map .source)) :
    ∃ last, r.positionals texts = .ok last ∧ last.HasTaken (given ++ texts.map .source) := by
  induction texts generalizing r given with
  | nil =>
    rw [List.map_nil, List.append_nil] at admissible ⊢
    rcases resolve_cases holds with ⟨-, settled, ok, inLine⟩ | ⟨wrong, -⟩
    · exact ⟨settled, ok, inLine.took⟩
    · exact absurd ⟨complete, admissible⟩ wrong
  | cons text texts ih =>
    rw [snoc_texts] at admissible ⊢
    obtain ⟨next, ok, nextHolds, nextComplete⟩ :=
      (positional_leads holds text).ok complete admissible.of_append
    obtain ⟨last, lastOk, took⟩ := ih nextHolds nextComplete admissible
    refine ⟨last, ?_, took⟩
    rw [positionals, ok]
    exact lastOk

/-- An item before a spelling. -/
theorem words_cons (item : Item) (items : List Item) (rest : Option (List Bytes)) :
    (Spelling.mk (item :: items) rest).words = item.words ++ (Spelling.mk items rest).words := by
  rw [Spelling.words, List.flatMap_cons, List.append_assoc]
  rfl

theorem given_cons (item : Item) (items : List Item) (rest : Option (List Bytes)) :
    given ++ (Spelling.mk (item :: items) rest).given =
      given ++ item.given ++ (Spelling.mk items rest).given := by
  rw [Spelling.given, List.flatMap_cons, List.append_assoc, List.append_assoc]
  rfl

/-- A spelling is read as what it gives, if all is admissible. -/
theorem arguments_spelling (holds : r.Holds given) (complete : r.Complete) {items : List Item}
    {rest : Option (List Bytes)} (wellFormed : ∀ item ∈ items, item.WellFormed)
    (admissible : Admissible (given ++ (Spelling.mk items rest).given)) :
    ∃ last, r.arguments (Spelling.mk items rest).words = .ok last ∧
      last.HasTaken (given ++ (Spelling.mk items rest).given) := by
  induction items generalizing r given with
  | nil =>
    cases rest with
    | none =>
      exact positionals_ok holds complete [] admissible
    | some texts =>
      exact positionals_ok holds complete texts admissible
  | cons item items ih =>
    rw [given_cons] at admissible ⊢
    obtain ⟨next, goes, nextHolds, nextComplete⟩ :=
      arguments_item holds complete (wellFormed item List.mem_cons_self) admissible.of_append
    rw [words_cons, goes]
    exact ih nextHolds nextComplete (fun item mem => wellFormed item (List.mem_cons_of_mem _ mem))
      admissible

/-! ### What is accepted -/

/-- While a path is still to come, nothing else is taken. -/
theorem resolve_waiting (waiting : ¬r.Complete) : ∃ stop, orStop r.resolve = .error stop := by
  have pending : r.pending = some (.file none) := Classical.byContradiction waiting
  refine ⟨.complaint .missingFile, ?_⟩
  simp only [resolve, pending, orStop]

theorem complete_of_option {argument : Argument} (ok : r.option argument = .ok next) :
    r.Complete := by
  refine Classical.byContradiction fun waiting => ?_
  obtain ⟨stop, stopped⟩ := resolve_waiting waiting
  rw [option, stopped] at ok
  cases ok

theorem complete_of_fileOption {path : Option Bytes} (ok : r.fileOption path = .ok next) :
    r.Complete := by
  refine Classical.byContradiction fun waiting => ?_
  obtain ⟨stop, stopped⟩ := resolve_waiting waiting
  rw [fileOption, stopped] at ok
  cases ok

/-- Only an argument that does not look like an option is taken whatever is pending. -/
theorem complete_of_argument {argument : Bytes} (ok : r.argument argument = .ok next) :
    IsPlain argument ∨ r.Complete := by
  rcases argument_cases argument with ⟨bytes, rfl⟩ | ⟨letter, bytes, notDash, rfl⟩ | isPlain
  · rcases long_ok ok with ⟨path, -, ok⟩ | ⟨flag, -, ok⟩
    · exact .inr (complete_of_fileOption ok)
    · exact .inr (complete_of_option ok)
  · rw [argument_cluster notDash, cluster] at ok
    split at ok
    · exact .inr (complete_of_fileOption ok)
    · split at ok
      · next option _ =>
        cases step : r.option option with
        | ok middle => exact .inr (complete_of_option step)
        | error stop =>
          rw [step] at ok
          cases ok
      · cases ok
  · exact .inl isPlain

/-- Behind two dashes all arguments are texts.  By induction on them. -/
theorem positionals_sound {last : Reading} (holds : r.Holds given) (texts : List Bytes)
    (ok : r.positionals texts = .ok last) :
    r.Complete ∧ last.HasTaken (given ++ texts.map .source) := by
  induction texts generalizing r given with
  | nil =>
    rw [List.map_nil, List.append_nil]
    rcases resolve_cases holds with ⟨complete, settled, resolved, inLine⟩ | ⟨-, stop, stopped⟩
    · rw [positionals, resolved] at ok
      cases ok
      exact ⟨complete, inLine.took⟩
    · rw [positionals, stopped] at ok
      cases ok
  | cons text texts ih =>
    cases step : r.positional text with
    | error stop =>
      rw [positionals, step] at ok
      cases ok
    | ok next =>
      rw [positionals, step] at ok
      obtain ⟨complete, nextHolds, -⟩ := (positional_leads holds text).of_ok step
      exact ⟨complete, snoc_texts given text texts ▸ (ih nextHolds ok).2⟩

/-- An argument that asks for a path: the path makes an item of it. -/
structure AsksFor (argument : Bytes) (more : List Given) (item : Bytes → Item) : Prop where
  words : ∀ path, (item path).words = [argument, path]
  wellFormed : ∀ path, IsPlain path → (item path).WellFormed
  given : ∀ path, (item path).given = more ++ [.file path]

/-- An argument that is accepted is an item, or asks for a path. -/
theorem argument_sound (holds : r.Holds given) (complete : r.Complete) {argument : Bytes}
    (goesOn : argument ≠ [dash, dash]) (ok : r.argument argument = .ok next) :
    (∃ item : Item, item.words = [argument] ∧ item.WellFormed ∧
      next.Holds (given ++ item.given) ∧ next.Complete) ∨
    ∃ more item, AsksFor argument more item ∧ next.Holds (given ++ more) ∧ ¬next.Complete := by
  have asks {before : Reading} (more : List Given) (item : Bytes → Item)
      (inLine : before.Holds (given ++ more)) (asksFor : AsksFor argument more item)
      (ok : before.fileOption none = .ok next) :
      ∃ more item, AsksFor argument more item ∧ next.Holds (given ++ more) ∧ ¬next.Complete := by
    rcases fileOption_none inLine with ⟨-, middle, same, nextHolds⟩ | ⟨-, stop, stopped⟩
    · rw [same] at ok
      cases ok
      exact ⟨more, item, asksFor, nextHolds⟩
    · rw [stopped] at ok
      cases ok
  rcases argument_cases argument with ⟨bytes, rfl⟩ | ⟨byte, bytes, notDash, rfl⟩ | isPlain
  · rw [argument_long] at ok
    rcases long_ok ok with ⟨path, rfl, taken⟩ | ⟨flag, rfl, taken⟩
    · cases path with
      | none =>
        rw [Option.elim_none, List.append_nil] at asks ⊢
        refine .inr (asks [] .longDetached ?_ ⟨?_, ?_, ?_⟩ taken)
        · exact (List.append_nil given).symm ▸ holds
        · exact fun _ => rfl
        · exact fun _ isPlain => isPlain
        · exact fun _ => rfl
      | some path =>
        exact .inl ⟨.longAttached path, rfl, trivial, ((fileOption_some holds path).of_ok taken).2⟩
    · exact .inl ⟨.flag flag, rfl, trivial,
        ((option_flag holds flag.value?_given).of_ok taken).2⟩
  · rw [argument_cluster notDash] at ok
    obtain ⟨flags, ⟨same, inLine⟩ | ⟨before, behind, same, inLine, ok⟩⟩ :=
      cluster_ok holds complete ok
    · refine .inl ⟨.cluster flags, by rw [same]; rfl, ?_, inLine⟩
      rintro rfl
      cases same
    -- a path that is attached is part of the item; otherwise it is the next argument
    · by_cases none : behind = []
      · subst none
        refine .inr (asks _ (.detached flags) inLine ⟨?_, ?_, ?_⟩ ok)
        · exact fun _ => by rw [same]; rfl
        · exact fun _ isPlain => isPlain
        · exact fun _ => rfl
      · rw [attachedPath_behind none] at ok
        have leads := ((fileOption_some inLine _).of_ok ok).2
        rw [List.append_assoc] at leads
        exact .inl ⟨.attached flags behind, by rw [same]; rfl, none, leads⟩
  · rw [argument_plain isPlain, plain_of_complete complete] at ok
    exact .inl ⟨.positional argument, rfl, isPlain, ((positional_leads holds argument).of_ok ok).2⟩

/-- While a path is still to come, arguments are accepted only if it comes next. -/
theorem arguments_waiting_sound {last : Reading} (holds : r.Holds given) (waiting : ¬r.Complete)
    {arguments : List Bytes} (ok : r.arguments arguments = .ok last) :
    ∃ path rest, arguments = path :: rest ∧ IsPlain path ∧ ∃ next : Reading,
      next.Holds (given ++ [.file path]) ∧ next.Complete ∧ next.arguments rest = .ok last := by
  cases arguments with
  | nil =>
    obtain ⟨stop, stopped⟩ := resolve_waiting waiting
    rw [Reading.arguments, stopped] at ok
    cases ok
  | cons argument rest =>
    by_cases isEnd : argument = [dash, dash]
    · rw [Reading.arguments, if_pos isEnd] at ok
      exact absurd (positionals_sound holds rest ok).1 waiting
    · rw [arguments_cons isEnd] at ok
      cases step : r.argument argument with
      | error stop =>
        rw [step] at ok
        cases ok
      | ok middle =>
        have isPlain := (complete_of_argument step).resolve_right waiting
        obtain ⟨next, taken, nextHolds, nextComplete⟩ := plain_of_waiting holds waiting argument
        rw [argument_plain isPlain, taken] at ok
        exact ⟨argument, rest, rfl, isPlain, next, nextHolds, nextComplete, ok⟩

/-- An item before what is a spelling of the rest. -/
theorem spelling_cons {last : Reading} {item : Item} {rest : List Bytes}
    (wellFormed : item.WellFormed) (found : ∃ s : Spelling, s.words = rest ∧
      (∀ item ∈ s.items, item.WellFormed) ∧ last.HasTaken (given ++ item.given ++ s.given)) :
    ∃ s : Spelling, s.words = item.words ++ rest ∧ (∀ item ∈ s.items, item.WellFormed) ∧
      last.HasTaken (given ++ s.given) := by
  obtain ⟨⟨items, texts⟩, words, allWellFormed, took⟩ := found
  refine ⟨⟨item :: items, texts⟩, ?_, List.forall_mem_cons.mpr ⟨wellFormed, allWellFormed⟩, ?_⟩
  · rw [words_cons, words]
  · rw [given_cons]
    exact took

/-- Arguments that are accepted are a spelling of what was taken.  An argument that asks for a
path is an item together with the next one, so the induction is on how many are left. -/
theorem arguments_sound {last : Reading} (holds : r.Holds given) (complete : r.Complete)
    {arguments : List Bytes} (ok : r.arguments arguments = .ok last) :
    ∃ s : Spelling, s.words = arguments ∧ (∀ item ∈ s.items, item.WellFormed) ∧
      last.HasTaken (given ++ s.given) := by
  have noItems : ∀ item ∈ ([] : List Item), item.WellFormed := fun _ mem => by cases mem
  obtain ⟨left, bound⟩ : ∃ left, arguments.length ≤ left := ⟨_, Nat.le_refl _⟩
  induction left generalizing r given arguments with
  | zero =>
    have none := List.eq_nil_of_length_eq_zero (Nat.le_zero.mp bound)
    subst none
    exact ⟨⟨[], none⟩, rfl, noItems, (positionals_sound holds [] ok).2⟩
  | succ left ih =>
    cases arguments with
    | nil => exact ⟨⟨[], none⟩, rfl, noItems, (positionals_sound holds [] ok).2⟩
    | cons argument rest =>
      rw [List.length_cons] at bound
      by_cases isEnd : argument = [dash, dash]
      · rw [Reading.arguments, if_pos isEnd] at ok
        exact ⟨⟨[], some rest⟩, by rw [isEnd]; rfl, noItems, (positionals_sound holds rest ok).2⟩
      · rw [arguments_cons isEnd] at ok
        cases step : r.argument argument with
        | error stop =>
          rw [step] at ok
          cases ok
        | ok next =>
          replace ok : next.arguments rest = .ok last := by
            rw [step] at ok
            exact ok
          rcases argument_sound holds complete isEnd step with
            ⟨item, words, wellFormed, inLine, nextComplete⟩ | ⟨more, item, asksFor, inLine, waiting⟩
          · have found := ih inLine nextComplete ok (by omega)
            rw [← List.singleton_append, ← words]
            exact spelling_cons wellFormed found
          · obtain ⟨path, others, rfl, isPlain, third, thirdHolds, thirdComplete, ok⟩ :=
              arguments_waiting_sound inLine waiting ok
            rw [List.length_cons] at bound
            have found := ih thirdHolds thirdComplete ok (by omega)
            rw [List.append_assoc, ← asksFor.given] at found
            have words := spelling_cons (asksFor.wellFormed path isPlain) found
            rwa [asksFor.words] at words

end Reading

/-! ### Calls -/

/-- **Reading accepts exactly the grammar of arguments**, and finds exactly what is meant.  The
arguments behind the name of the program ask for a run if and only if they spell its request. -/
theorem parse_run_iff (program : Bytes) (arguments : List Bytes) (request : Request) :
    parseArguments (program :: arguments) = .run request ↔
      ∃ s : Spelling, s.words = arguments ∧ s.WellFormed ∧ Means s.given request := by
  have complete : Reading.start.Complete := by simp [Reading.Complete, Reading.start]
  constructor
  · intro asked
    rw [parseArguments] at asked
    split at asked
    · next last ok =>
      obtain ⟨s, words, wellFormed, took⟩ :=
        Reading.arguments_sound Reading.holds_start complete ok
      rw [List.nil_append] at took
      cases asked
      exact ⟨s, words, ⟨wellFormed, took.admissible⟩, took.means⟩
    · cases asked
    · cases asked
  · rintro ⟨⟨items, rest⟩, rfl, wellFormed, means⟩
    obtain ⟨last, ok, took⟩ := Reading.arguments_spelling Reading.holds_start
      complete wellFormed.items wellFormed.admissible
    rw [List.nil_append] at took
    rw [parseArguments, ok]
    exact congrArg Invocation.run (took.means.unique means)

end JsxDetect
