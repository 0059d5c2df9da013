import JsxDetect.Command.Arguments

/-!
# What a reading holds

The arguments of a call give something to the request: a flag, the path of a file or a text.  In
between two arguments, a reading *holds* what was given so far: all of it but the value that is
pending was taken, each kind once and each value a text.

A step either keeps the reading in line with what was given, or what was given is not `Admissible`,
and then the step stops.  So reading succeeds exactly for what is admissible; this module is about
the steps, whatever arguments they come from.

## Main Definitions

* `Given`: what an argument gives
* `Admissible`: nothing is given twice, and all values are texts
* `Reading.Holds`: a reading is in line with what was given

## Main Results

* `Reading.resolve_cases`: checking the pending value
* `Reading.option_flag`, `Reading.fileOption_some`, `Reading.positional_leads`, …: the steps

## Design Notes

**Given and taken.**  A reading has a list of what it has used, one of what is pending, and the
fields of the request.  `HasTaken` relates all of them to a single list, what was given; `Holds`
allows for one value at the end that was read but not yet checked.  Every step is stated with
`Leads`: given a reading in line with `given`, it comes to one in line with `given` and one more
item, or stops.

**Failing for a reason.**  The second half of `Leads` is that a step stops only if what is given is
not `Admissible`, or a path was still to come.  This makes the lemmas usable in both directions, for
what is accepted and for what is not, and later modules never look at a reason to stop.
-/

namespace JsxDetect

/-- What an argument gives to a request. -/
inductive Given where
  | verbose
  | quiet
  | file (path : Bytes)
  | source (text : Bytes)
  deriving Repr, DecidableEq

namespace Given

/-- The kind of what is given. -/
def argument : Given → Argument
  | verbose => .verbose
  | quiet => .quiet
  | file _ => .file
  | source _ => .source

/-- The value that is given, if there is one. -/
def value? : Given → Option Bytes
  | file path => some path
  | source text => some text
  | _ => none

/-- The value that is given is a text. -/
def IsText (g : Given) : Prop := ∀ value ∈ g.value?, (Utf8.decode? value).isSome

/-- The path of a file as a text, if one is given. -/
def path? : Given → Option String
  | file path => (Utf8.decode? path).map String.ofList
  | _ => none

/-- The text that is given, if one is. -/
def text? : Given → Option String
  | source text => (Utf8.decode? text).map String.ofList
  | _ => none

end Given

/-- Nothing is given twice, and all values are texts. -/
structure Admissible (given : List Given) : Prop where
  once : (given.map Given.argument).Nodup
  texts : ∀ g ∈ given, g.IsText

/-- Nothing given is admissible. -/
theorem admissible_nil : Admissible [] := ⟨.nil, fun _ mem => by cases mem⟩

/-- One more item is admissible if its kind was not given before and its value is a text. -/
theorem admissible_concat {given : List Given} {g : Given} : Admissible (given ++ [g]) ↔
    Admissible given ∧ g.argument ∉ given.map Given.argument ∧ g.IsText := by
  have once : ((given ++ [g]).map Given.argument).Nodup ↔
      (given.map Given.argument).Nodup ∧ g.argument ∉ given.map Given.argument := by
    rw [List.map_append, List.map_singleton, List.nodup_append]
    constructor
    · rintro ⟨earlier, -, apart⟩
      exact ⟨earlier, fun mem => apart _ mem _ (List.mem_singleton.mpr rfl) rfl⟩
    · rintro ⟨earlier, fresh⟩
      refine ⟨earlier, by simp, fun kind mem other new same => ?_⟩
      rw [same, List.mem_singleton.mp new] at mem
      exact fresh mem
  constructor
  · intro admissible
    obtain ⟨earlier, fresh⟩ := once.mp admissible.once
    exact ⟨⟨earlier, fun g mem => admissible.texts g (List.mem_append_left _ mem)⟩, fresh,
      admissible.texts g (List.mem_append_right _ (List.mem_singleton.mpr rfl))⟩
  · rintro ⟨admissible, fresh, isText⟩
    refine ⟨once.mpr ⟨admissible.once, fresh⟩, fun other mem => ?_⟩
    rcases List.mem_append.mp mem with old | new
    · exact admissible.texts other old
    · rw [List.mem_singleton.mp new]
      exact isText

/-- What was given before is admissible if all is. -/
theorem Admissible.of_append {given more : List Given} (admissible : Admissible (given ++ more)) :
    Admissible given := by
  induction more generalizing given with
  | nil => rwa [List.append_nil] at admissible
  | cons g more ih =>
    rw [← List.singleton_append, ← List.append_assoc] at admissible
    exact (admissible_concat.mp (ih admissible)).1

/-- What a pending value gives. -/
def Pending.given : Pending → List Given
  | .file none => []
  | .file (some path) => [.file path]
  | .source text => [.source text]

namespace Reading

/-- All that was given was taken. -/
structure HasTaken (r : Reading) (given : List Given) : Prop where
  admissible : Admissible given
  used : r.used = given.map Given.argument
  file : r.file = given.findSome? Given.path?
  source : r.source = given.findSome? Given.text?

/-- The reading is in line with what was given: all but what is pending was taken. -/
structure Holds (r : Reading) (given : List Given) : Prop where
  took : ∃ taken, HasTaken r taken ∧ given = taken ++ r.pending.elim [] Pending.given
  seen : r.sourceSeen = true ↔ .source ∈ given.map Given.argument

/-- No path is still to come. -/
def Complete (r : Reading) : Prop := r.pending ≠ some (.file none)

/-- A step that takes what is given to `r`, unless something is wrong with it. -/
def Takes (step : Except Stop Reading) (r : Reading) (given : List Given) : Prop :=
  (∃ taken, step = .ok taken ∧ taken.HasTaken given ∧ taken.pending = r.pending ∧
      taken.sourceSeen = r.sourceSeen) ∨
    (¬Admissible given ∧ ∃ stop, step = .error stop)

variable {r : Reading} {given : List Given} {g : Given}

theorem holds_start : start.Holds [] :=
  ⟨⟨[], ⟨admissible_nil, rfl, rfl, rfl⟩, rfl⟩, by simp [start]⟩

/-! ### Taking -/

theorem take_fresh {argument : Argument} (fresh : argument ∉ r.used) :
    r.take argument = ({ r with used := r.used ++ [argument] }, none) := by
  rw [take, if_neg (by rwa [List.contains_iff_mem])]

/-- Stops at a repeated argument. -/
theorem take_repeated {argument : Argument} (old : argument ∈ r.used) :
    ∃ stopped, r.take argument = (stopped, some (.repeated argument)) := by
  rw [take, if_pos (List.contains_iff_mem.mpr old)]
  exact ⟨_, rfl⟩

/-- An item whose kind was used is not admissible. -/
theorem not_admissible_of_used (took : r.HasTaken given) (old : g.argument ∈ r.used) :
    ¬Admissible (given ++ [g]) := fun admissible => by
  rw [took.used] at old
  exact (admissible_concat.mp admissible).2.1 old

/-- What is given last does not change what was found before. -/
theorem findSome?_concat {α : Type} (f : Given → Option α) (given : List Given) (g : Given) :
    (given ++ [g]).findSome? f = (given.findSome? f).or (f g) := by
  rw [List.findSome?_append, List.findSome?_singleton]

/-- A flag is taken unless it was given before. -/
theorem takes_flag (took : r.HasTaken given) (flag : g.value? = none) :
    Takes (orStop (r.take g.argument)) r (given ++ [g]) := by
  by_cases old : g.argument ∈ r.used
  · obtain ⟨stopped, repeated⟩ := take_repeated old
    exact .inr ⟨not_admissible_of_used took old, _, by rw [repeated, orStop]⟩
  · have isText : g.IsText := fun value mem => by
      rw [flag] at mem
      cases mem
    have noPath : g.path? = none := by cases g <;> first | rfl | cases flag
    have noText : g.text? = none := by cases g <;> first | rfl | cases flag
    refine .inl ⟨{ r with used := r.used ++ [g.argument] }, by rw [take_fresh old, orStop],
      ⟨?_, ?_, ?_, ?_⟩, rfl, rfl⟩
    · exact admissible_concat.mpr ⟨took.admissible, took.used ▸ old, isText⟩
    · rw [List.map_append, List.map_singleton, ← took.used]
    · rw [findSome?_concat, noPath, Option.or_none]
      exact took.file
    · rw [findSome?_concat, noText, Option.or_none]
      exact took.source

/-- A value of a kind that was not given before is the only one of its kind. -/
theorem findSome?_of_fresh {α : Type} {f : Given → Option α}
    (fresh : g.argument ∉ given.map Given.argument)
    (alone : ∀ other : Given, other.argument ≠ g.argument → f other = none) :
    given.findSome? f = none := by
  refine List.findSome?_eq_none_iff.mpr fun other mem => alone other fun same => ?_
  rw [← same] at fresh
  exact fresh (List.mem_map_of_mem mem)

/-- Taking a value stops at a repeated argument and at a value that is no text. -/
theorem orStop_takeValue {value : Bytes} (took : r.HasTaken given) (isValue : g.value? = some value)
    (store : String → Reading → Reading) :
    (∃ text, Admissible (given ++ [g]) ∧ g.argument ∉ given.map Given.argument ∧
      Utf8.decode? value = some text ∧ orStop (r.takeValue g.argument value store) =
        .ok (store (String.ofList text) { r with used := r.used ++ [g.argument] })) ∨
    (¬Admissible (given ++ [g]) ∧ ∃ stop, orStop (r.takeValue g.argument value store) = .error stop) := by
  by_cases old : g.argument ∈ r.used
  · obtain ⟨stopped, repeated⟩ := take_repeated old
    exact .inr ⟨not_admissible_of_used took old, _, by rw [takeValue, repeated, orStop]⟩
  · have fresh : g.argument ∉ given.map Given.argument := took.used ▸ old
    cases decoded : Utf8.decode? value with
    | none =>
      refine .inr ⟨fun admissible => ?_, .complaint .notText, ?_⟩
      · have isText := (admissible_concat.mp admissible).2.2 value isValue
        rw [decoded] at isText
        cases isText
      · simp only [takeValue, take_fresh old, decoded, orStop]
    | some text =>
      refine .inl ⟨text, admissible_concat.mpr ⟨took.admissible, fresh, fun other mem => ?_⟩, fresh, rfl, ?_⟩
      · rw [isValue] at mem
        rw [← Option.some.inj mem, decoded]
        rfl
      · simp only [takeValue, take_fresh old, decoded, orStop]

/-- A path is taken unless a file was given before or it is no text. -/
theorem takes_file (took : r.HasTaken given) (path : Bytes) :
    Takes (orStop (r.takeFile path)) r (given ++ [.file path]) := by
  rcases orStop_takeValue took (g := .file path) rfl
    fun text taken => { taken with file := some text } with
    ⟨text, admissible, fresh, decoded, ok⟩ | stopped
  · have first := findSome?_of_fresh (f := Given.path?) fresh fun other differs => by
      cases other with
      | file => exact absurd rfl differs
      | _ => rfl
    have isPath : (Given.file path).path? = some (String.ofList text) := by
      rw [Given.path?, decoded]
      rfl
    have noText : (Given.file path).text? = none := rfl
    refine .inl ⟨_, ok, ⟨admissible, ?_, ?_, ?_⟩, rfl, rfl⟩
    · rw [List.map_append, List.map_singleton, ← took.used]
    · rw [findSome?_concat, first, isPath]
      rfl
    · rw [findSome?_concat, noText, Option.or_none]
      exact took.source
  · exact .inr stopped

/-- A text to look at is taken unless one was given before or its bytes are none. -/
theorem takes_source (took : r.HasTaken given) (text : Bytes) :
    Takes (orStop (r.takeValue .source text fun text taken => { taken with source := some text }))
      r (given ++ [.source text]) := by
  rcases orStop_takeValue took (g := .source text) rfl
    fun text taken => { taken with source := some text } with
    ⟨decodedText, admissible, fresh, decoded, ok⟩ | stopped
  · have first := findSome?_of_fresh (f := Given.text?) fresh fun other differs => by
      cases other with
      | source => exact absurd rfl differs
      | _ => rfl
    have isText : (Given.source text).text? = some (String.ofList decodedText) := by
      rw [Given.text?, decoded]
      rfl
    have noPath : (Given.source text).path? = none := rfl
    refine .inl ⟨_, ok, ⟨admissible, ?_, ?_, ?_⟩, rfl, rfl⟩
    · rw [List.map_append, List.map_singleton, ← took.used]
    · rw [findSome?_concat, noPath, Option.or_none]
      exact took.file
    · rw [findSome?_concat, first, isText]
      rfl
  · exact .inr stopped

/-! ### Checking the pending value -/

/-- A reading without a pending value. -/
structure Settled (r : Reading) (given : List Given) : Prop where
  took : r.HasTaken given
  pending : r.pending = none
  seen : r.sourceSeen = true ↔ .source ∈ given.map Given.argument

theorem Settled.holds (settled : r.Settled given) : r.Holds given where
  took := ⟨given, settled.took, by rw [settled.pending]; exact (List.append_nil _).symm⟩
  seen := settled.seen

theorem Settled.complete (settled : r.Settled given) : r.Complete := by
  simp [Complete, settled.pending]

/-- Checking the pending value succeeds if all is admissible, and stops otherwise. -/
theorem resolve_cases (holds : r.Holds given) :
    (r.Complete ∧ ∃ settled, orStop r.resolve = .ok settled ∧ settled.Settled given) ∨
      (¬(r.Complete ∧ Admissible given) ∧ ∃ stop, orStop r.resolve = .error stop) := by
  obtain ⟨⟨taken, took, all⟩, seen⟩ := holds
  have took' : HasTaken { r with pending := none } taken :=
    ⟨took.admissible, took.used, took.file, took.source⟩
  have ofTakes {step : Except Stop Reading} (complete : r.Complete)
      (takes : Takes step { r with pending := none } given) :
      (r.Complete ∧ ∃ settled, step = .ok settled ∧ settled.Settled given) ∨
        (¬(r.Complete ∧ Admissible given) ∧ ∃ stop, step = .error stop) := by
    rcases takes with ⟨next, ok, holds, pending, same⟩ | ⟨wrong, stopped⟩
    · exact .inl ⟨complete, next, ok, holds, pending, by rw [same]; exact seen⟩
    · exact .inr ⟨fun admissible => wrong admissible.2, stopped⟩
  -- what is still to be checked: nothing, a positional text, or the path of a file
  cases pending : r.pending with
  | none =>
    rw [pending] at all
    have complete : r.Complete := by simp [Complete, pending]
    refine ofTakes complete (.inl ⟨{ r with pending := none }, ?_, ?_, rfl, rfl⟩)
    · simp only [resolve, pending, orStop]
    · rw [all]
      exact (List.append_nil taken).symm ▸ took'
  | some value =>
    rw [pending] at all
    cases value with
    | source text =>
      have complete : r.Complete := by simp [Complete, pending]
      have step : orStop r.resolve = orStop (({ r with pending := none } : Reading).takeValue
          .source text fun text taken => { taken with source := some text }) := by
        simp only [resolve, pending]
      rw [step]
      exact ofTakes complete (all ▸ takes_source took' text)
    | file path =>
      cases path with
      | none =>
        refine .inr ⟨fun admissible => admissible.1 pending, .complaint .missingFile, ?_⟩
        simp only [resolve, pending, orStop]
      | some path =>
        have complete : r.Complete := by simp [Complete, pending]
        have step : orStop r.resolve =
            orStop (({ r with pending := none } : Reading).takeFile path) := by
          simp only [resolve, pending]
        rw [step]
        exact ofTakes complete (all ▸ takes_file took' path)

/-! ### Steps -/

/-- A step of `r` that comes to a reading in line with what is given, unless something is wrong
with that or a path was still to come. -/
def Leads (r : Reading) (step : Except Stop Reading) (given : List Given) : Prop :=
  (r.Complete ∧ ∃ next, step = .ok next ∧ next.Holds given ∧ next.Complete) ∨
    (¬(r.Complete ∧ Admissible given) ∧ ∃ stop, step = .error stop)

theorem Leads.ok {step : Except Stop Reading} (leads : Leads r step given) (complete : r.Complete)
    (admissible : Admissible given) : ∃ next, step = .ok next ∧ next.Holds given ∧ next.Complete := by
  rcases leads with ⟨-, next⟩ | ⟨wrong, -⟩
  · exact next
  · exact absurd ⟨complete, admissible⟩ wrong

/-- If a step succeeds, then it comes to a reading in line with what is given. -/
theorem Leads.of_ok {step : Except Stop Reading} {next : Reading} (leads : Leads r step given)
    (ok : step = .ok next) : r.Complete ∧ next.Holds given ∧ next.Complete := by
  rcases leads with ⟨complete, other, same, holds⟩ | ⟨-, stop, stopped⟩
  · rw [ok] at same
    cases same
    exact ⟨complete, holds⟩
  · rw [ok] at stopped
    cases stopped

/-- A step that starts with checking the pending value. -/
theorem leads_of_settled {step : Except Stop Reading} {rest : Reading → Except Stop Reading}
    (holds : r.Holds given) (first : step = (orStop r.resolve).bind rest)
    (second : ∀ settled, settled.Settled given → Leads settled (rest settled) (given ++ [g])) :
    Leads r step (given ++ [g]) := by
  rcases resolve_cases holds with ⟨complete, settled, resolved, inLine⟩ | ⟨wrong, stop, resolved⟩
  · rw [first, resolved]
    rcases second settled inLine with ⟨-, next⟩ | ⟨wrong, stopped⟩
    · exact .inl ⟨complete, next⟩
    · exact .inr ⟨fun admissible => wrong ⟨inLine.complete, admissible.2⟩, stopped⟩
  · rw [first, resolved]
    exact .inr ⟨fun admissible => wrong ⟨admissible.1, admissible.2.of_append⟩, stop, rfl⟩

theorem seen_concat (seen : r.sourceSeen = true ↔ .source ∈ given.map Given.argument)
    (noSource : g.argument ≠ .source) :
    r.sourceSeen = true ↔ .source ∈ (given ++ [g]).map Given.argument := by
  rw [List.map_append, List.map_singleton, List.mem_append, List.mem_singleton, seen]
  exact ⟨.inl, fun mem => mem.resolve_right fun same => noSource same.symm⟩

/-- Taking what is given when nothing is pending. -/
theorem Settled.leads {step : Except Stop Reading} (settled : r.Settled given)
    (takes : Takes step r (given ++ [g])) (noSource : g.argument ≠ .source) :
    Leads r step (given ++ [g]) := by
  rcases takes with ⟨next, ok, took, pending, seen⟩ | ⟨wrong, stopped⟩
  · have inLine : next.Settled (given ++ [g]) :=
      ⟨took, pending.trans settled.pending, by rw [seen]; exact seen_concat settled.seen noSource⟩
    exact .inl ⟨settled.complete, next, ok, inLine.holds, inLine.complete⟩
  · exact .inr ⟨fun admissible => wrong admissible.2, stopped⟩

/-- An option without a value. -/
theorem option_flag (holds : r.Holds given) (flag : g.value? = none) :
    Leads r (r.option g.argument) (given ++ [g]) := by
  have step : r.option g.argument =
      (orStop r.resolve).bind fun settled => orStop (settled.take g.argument) := by
    cases g with
    | verbose => rfl
    | quiet => rfl
    | file path => cases flag
    | source text => cases flag
  have noSource : g.argument ≠ .source := by
    cases g with
    | source text => cases flag
    | _ => exact nofun
  exact leads_of_settled holds step fun _ settled =>
    settled.leads (takes_flag settled.took flag) noSource

theorem fileOption_some (holds : r.Holds given) (path : Bytes) :
    Leads r (r.fileOption (some path)) (given ++ [.file path]) :=
  leads_of_settled holds rfl fun _ settled => settled.leads (takes_file settled.took path) nofun

/-- The option for a file whose path is still to come. -/
theorem fileOption_none (holds : r.Holds given) :
    (r.Complete ∧ ∃ next, r.fileOption none = .ok next ∧ next.Holds given ∧ ¬next.Complete) ∨
      (¬(r.Complete ∧ Admissible given) ∧ ∃ stop, r.fileOption none = .error stop) := by
  rcases resolve_cases holds with ⟨complete, settled, resolved, inLine⟩ | ⟨wrong, stop, resolved⟩
  · refine .inl ⟨complete, { settled with pending := some (.file none) }, ?_, ?_, ?_⟩
    · rw [fileOption, resolved]
      rfl
    · obtain ⟨admissible, used, file, source⟩ := inLine.took
      exact ⟨⟨given, ⟨admissible, used, file, source⟩, (List.append_nil given).symm⟩, inLine.seen⟩
    · exact fun complete => complete rfl
  · refine .inr ⟨wrong, stop, ?_⟩
    rw [fileOption, resolved]
    rfl

/-- An argument that is taken for a text. -/
theorem positional_leads (holds : r.Holds given) (text : Bytes) :
    Leads r (r.positional text) (given ++ [.source text]) := by
  cases seen : r.sourceSeen with
  | true =>
    refine .inr ⟨fun admissible => (admissible_concat.mp admissible.2).2.1 (holds.seen.mp seen), ?_⟩
    rw [positional, if_pos seen]
    exact ⟨_, rfl⟩
  | false =>
    have step : r.positional text = (orStop r.resolve).bind fun settled =>
        .ok { settled with pending := some (.source text), sourceSeen := true } := by
      rw [positional, if_neg (by rw [seen]; exact Bool.false_ne_true)]
      rfl
    refine leads_of_settled holds step fun settled inLine => ?_
    refine .inl ⟨inLine.complete, _, rfl, ⟨⟨given, ?_, rfl⟩, ?_⟩, nofun⟩
    · obtain ⟨admissible, used, file, source⟩ := inLine.took
      exact ⟨admissible, used, file, source⟩
    · refine iff_of_true rfl ?_
      rw [List.map_append]
      exact List.mem_append_right _ (List.mem_singleton.mpr rfl)

/-- An argument that does not look like an option, when no path is still to come. -/
theorem plain_of_complete (complete : r.Complete) (bytes : Bytes) :
    r.plain bytes = r.positional bytes := by
  rw [plain]
  split
  · next pending => exact absurd pending complete
  · rfl

/-- An argument that does not look like an option, when a path is still to come. -/
theorem plain_of_waiting (holds : r.Holds given) (waiting : ¬r.Complete) (path : Bytes) :
    ∃ next, r.plain path = .ok next ∧ next.Holds (given ++ [.file path]) ∧ next.Complete := by
  have pending : r.pending = some (.file none) := Classical.byContradiction waiting
  obtain ⟨⟨taken, ⟨admissible, used, file, source⟩, all⟩, seen⟩ := holds
  rw [pending] at all
  have same : given = taken := all.trans (List.append_nil taken)
  refine ⟨{ r with pending := some (.file (some path)) }, ?_, ⟨⟨taken, ?_, ?_⟩, ?_⟩, ?_⟩
  · simp only [plain, pending]
  · exact ⟨admissible, used, file, source⟩
  · rw [same]
    rfl
  · exact seen_concat seen nofun
  · simp [Complete]

end Reading

end JsxDetect
