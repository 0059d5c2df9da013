import JsxDetect.Files.FileSystem

/-!
# Following paths

A path is followed name by name, and a link puts its own names in front of those that are left.
So the names that are left need not become fewer, and there may be no end: nothing but the number
of links bounds how far a path is followed.

Here following is told one step at a time, without a bound, and its links are counted.  Each
position in it has one next step, or is an end, or is one where the system refuses to go on.  With
that, where a path leads is said without the recursion that finds it, and the two are the same.

## Main Definitions

* `Position`, `FileSystem.Moves`, `FileSystem.Stuck`: one step, and why there is none
* `FileSystem.Goes`: a number of steps, among them some links
* `FileSystem.Leads`: where a path leads

## Main Results

* `FileSystem.leads_iff`: what is found is where the path leads
* `FileSystem.comesTo_of_cycle`: links that lead back to themselves are too many

## Design Notes

**Why a relation without a bound.**  The resolver has a budget of links and recursion on two levels,
for the names of a path and for those of a link.  Whether its answer is right is a question about
following names, which knows of neither.  `Moves` is one step, `Goes` counts links, and the budget
occurs only in `ComesTo`, as a comparison with the count.

**Determinism does the work.**  At each position there is one step or one end (`Moves.unique`,
`Stuck.unique`, `Ends.not_moves`).  So a walk that comes to an end is the only one, and a walk with
too many links excludes an end.  `leads_iff` then needs one direction only: what the resolver finds
is where the path leads.
-/

namespace JsxDetect

/-- How far a path was followed: the names that are left, and the place where they start. -/
structure Position where
  left : List Name
  here : Trail

namespace FileSystem

/-! ### Steps -/

/-- A name that an entry of a directory can have. -/
structure IsEntryName (name : Name) : Prop where
  not_dot : name ≠ Path.dot
  not_dotDot : name ≠ Path.dotDot
  short : name.length ≤ Path.maxName

/-- One name further, which may follow a link. -/
inductive Moves (fs : FileSystem) : Position → Nat → Position → Prop where
  | stay {rest : List Name} {here : Trail} (inside : fs.isDirectory here = true) :
      Moves fs ⟨Path.dot :: rest, here⟩ 0 ⟨rest, here⟩
  | leave {rest : List Name} {here : Trail} (inside : fs.isDirectory here = true) :
      Moves fs ⟨Path.dotDot :: rest, here⟩ 0 ⟨rest, here.tail⟩
  | enter {name : Name} {rest : List Name} {here : Trail} {node : Node}
      (inside : fs.isDirectory here = true) (isEntry : IsEntryName name)
      (there : fs.node? (name :: here) = some node) (noLink : ∀ target, node ≠ .link target) :
      Moves fs ⟨name :: rest, here⟩ 0 ⟨rest, name :: here⟩
  | link {name : Name} {rest : List Name} {here : Trail} {target : Bytes}
      (inside : fs.isDirectory here = true) (isEntry : IsEntryName name)
      (there : fs.node? (name :: here) = some (.link target)) :
      Moves fs ⟨name :: rest, here⟩ 1 ⟨Path.steps target ++ rest, start target here⟩

/-- Why the system refuses to go on: names are looked up in directories only, they must not be too
long, and there must be something of the name. -/
inductive Stuck (fs : FileSystem) : Position → OsError → Prop where
  | notDirectory {name : Name} {rest : List Name} {here : Trail}
      (outside : fs.isDirectory here = false) : Stuck fs ⟨name :: rest, here⟩ .notDirectory
  | nameTooLong {name : Name} {rest : List Name} {here : Trail}
      (inside : fs.isDirectory here = true) (not_dot : name ≠ Path.dot)
      (not_dotDot : name ≠ Path.dotDot) (long : Path.maxName < name.length) :
      Stuck fs ⟨name :: rest, here⟩ .nameTooLong
  | notFound {name : Name} {rest : List Name} {here : Trail}
      (inside : fs.isDirectory here = true) (isEntry : IsEntryName name)
      (missing : fs.node? (name :: here) = none) : Stuck fs ⟨name :: rest, here⟩ .notFound

/-- The position is an end: no names are left, or the system refuses to go on. -/
inductive Ends (fs : FileSystem) : Position → Except OsError Trail → Prop where
  | arrived (here : Trail) : Ends fs ⟨[], here⟩ (.ok here)
  | stuck {p : Position} {cause : OsError} (stuck : fs.Stuck p cause) : Ends fs p (.error cause)

/-- Any number of steps, with the number of links among them. -/
inductive Goes (fs : FileSystem) : Nat → Position → Position → Prop where
  | refl (p : Position) : Goes fs 0 p p
  | step {links more : Nat} {p q r : Position} (moves : fs.Moves p links q)
      (goes : Goes fs more q r) : Goes fs (links + more) p r

/-- What becomes of following names when `limit` links are allowed. -/
inductive ComesTo (fs : FileSystem) (limit : Nat) (p : Position) : Except OsError Trail → Prop where
  | ends {links : Nat} {q : Position} {result : Except OsError Trail} (goes : fs.Goes links p q)
      (within : links ≤ limit) (ends : fs.Ends q result) : ComesTo fs limit p result
  | tooManyLinks {q : Position} (goes : fs.Goes (limit + 1) p q) :
      ComesTo fs limit p (.error .tooManyLinks)

/-- Where a path leads: what is no path is refused at once, all else is followed. -/
inductive Leads (fs : FileSystem) (path : Bytes) : Except OsError Trail → Prop where
  | nullByte (null : 0 ∈ path) : Leads fs path (.error .nullInPath)
  | empty (empty : path = []) : Leads fs path (.error .notFound)
  | tooLong (noNull : 0 ∉ path) (long : Path.maxPath ≤ path.length) :
      Leads fs path (.error .nameTooLong)
  | followed {result : Except OsError Trail} (noNull : 0 ∉ path) (nonempty : path ≠ [])
      (short : path.length < Path.maxPath)
      (comes : fs.ComesTo Path.maxLinks ⟨Path.steps path, start path fs.current⟩ result) :
      Leads fs path result

variable {fs : FileSystem} {p q r : Position} {links more : Nat}

theorem IsEntryName.not_long {name : Name} (isEntry : IsEntryName name) :
    ¬name.length > Path.maxName := Nat.not_lt.mpr isEntry.short

/-- From each position there is one step at most, with one number of links. -/
theorem Moves.unique {links' : Nat} {q' : Position} (moves : fs.Moves p links q)
    (moves' : fs.Moves p links' q') : links = links' ∧ q = q' := by
  cases moves with
  | stay inside =>
    cases moves' with
    | stay => exact ⟨rfl, rfl⟩
    | enter _ isEntry => exact absurd rfl isEntry.not_dot
    | link _ isEntry => exact absurd rfl isEntry.not_dot
  | leave inside =>
    cases moves' with
    | leave => exact ⟨rfl, rfl⟩
    | enter _ isEntry => exact absurd rfl isEntry.not_dotDot
    | link _ isEntry => exact absurd rfl isEntry.not_dotDot
  | enter inside isEntry there noLink =>
    cases moves' with
    | stay => exact absurd rfl isEntry.not_dot
    | leave => exact absurd rfl isEntry.not_dotDot
    | enter => exact ⟨rfl, rfl⟩
    | link _ _ there' => exact absurd (Option.some.inj (there.symm.trans there')) (noLink _)
  | link inside isEntry there =>
    cases moves' with
    | stay => exact absurd rfl isEntry.not_dot
    | leave => exact absurd rfl isEntry.not_dotDot
    | enter _ _ there' noLink =>
      exact absurd (Option.some.inj (there'.symm.trans there)) (noLink _)
    | link _ _ there' =>
      cases there.symm.trans there'
      exact ⟨rfl, rfl⟩

theorem Moves.links_le (moves : fs.Moves p links q) : links ≤ 1 := by
  cases moves <;> omega

/-- Where the system refuses to go on there is no step. -/
theorem Stuck.not_moves {cause : OsError} (stuck : fs.Stuck p cause) : ¬fs.Moves p links q := by
  intro moves
  cases stuck with
  | notDirectory outside =>
    cases moves <;> simp_all
  | nameTooLong _ not_dot not_dotDot long =>
    cases moves with
    | stay => exact not_dot rfl
    | leave => exact not_dotDot rfl
    | enter _ isEntry => exact isEntry.not_long long
    | link _ isEntry => exact isEntry.not_long long
  | notFound _ isEntry missing =>
    cases moves with
    | stay => exact isEntry.not_dot rfl
    | leave => exact isEntry.not_dotDot rfl
    | enter _ _ there => cases missing.symm.trans there
    | link _ _ there => cases missing.symm.trans there

/-- There is one reason at most. -/
theorem Stuck.unique {cause cause' : OsError} (stuck : fs.Stuck p cause)
    (stuck' : fs.Stuck p cause') : cause = cause' := by
  cases stuck with
  | notDirectory outside => cases stuck' <;> simp_all
  | nameTooLong inside _ _ long =>
    cases stuck' with
    | notDirectory outside => cases outside.symm.trans inside
    | nameTooLong => rfl
    | notFound _ isEntry => exact absurd long isEntry.not_long
  | notFound inside isEntry =>
    cases stuck' with
    | notDirectory outside => cases outside.symm.trans inside
    | nameTooLong _ _ _ long => exact absurd long isEntry.not_long
    | notFound => rfl

theorem Ends.not_moves {result : Except OsError Trail} (ends : fs.Ends p result) :
    ¬fs.Moves p links q := by
  cases ends with
  | arrived here => exact nofun
  | stuck stuck => exact stuck.not_moves

/-- A position is an end in one way at most. -/
theorem Ends.unique {result result' : Except OsError Trail} (ends : fs.Ends p result)
    (ends' : fs.Ends p result') : result = result' := by
  cases ends with
  | arrived here =>
    cases ends' with
    | arrived => rfl
    | stuck stuck => cases stuck
  | stuck stuck =>
    cases ends' with
    | arrived => cases stuck
    | stuck stuck' => rw [stuck.unique stuck']

/-! ### Walks -/

theorem Goes.trans (first : fs.Goes links p q) (second : fs.Goes more q r) :
    fs.Goes (links + more) p r := by
  induction first with
  | refl => rwa [Nat.zero_add]
  | step moves _ ih =>
    rw [Nat.add_assoc]
    exact .step moves (ih second)

theorem Goes.single (moves : fs.Moves p links q) : fs.Goes links p q := .step moves (.refl q)

/-- A walk has a beginning with any smaller number of links. -/
theorem Goes.shorter (goes : fs.Goes more p q) (fewer : links ≤ more) :
    ∃ r, fs.Goes links p r := by
  induction goes generalizing links with
  | refl p =>
    rw [Nat.le_zero.mp fewer]
    exact ⟨p, .refl p⟩
  | @step first rest p q r moves _ ih =>
    have one := moves.links_le
    by_cases none : links < first
    · have zero : links = 0 := by omega
      rw [zero]
      exact ⟨p, .refl p⟩
    · obtain ⟨r, goes⟩ := ih (Nat.sub_le_iff_le_add'.mpr fewer)
      refine ⟨r, ?_⟩
      rw [← Nat.add_sub_of_le (Nat.not_lt.mp none)]
      exact .step moves goes

/-- A walk from the same position as one that has come to an end is a beginning of it. -/
theorem Goes.before_end {result : Except OsError Trail} (whole : fs.Goes links p q)
    (ends : fs.Ends q result) (goes : fs.Goes more p r) :
    ∃ left, links = more + left ∧ fs.Goes left r q := by
  -- Each position has one next step, so the walks share their steps until one of them ends.
  induction goes generalizing links with
  | refl p => exact ⟨links, (Nat.zero_add links).symm, whole⟩
  | step moves _ ih =>
    cases whole with
    | refl => exact absurd moves ends.not_moves
    | step moves' rest =>
      obtain ⟨rfl, rfl⟩ := moves.unique moves'
      obtain ⟨left, rfl, goes⟩ := ih rest
      exact ⟨left, (Nat.add_assoc ..).symm, goes⟩

/-- Two walks from the same position that have come to an end are the same. -/
theorem Goes.end_unique {result result' : Except OsError Trail} (first : fs.Goes links p q)
    (ends : fs.Ends q result) (second : fs.Goes more p r) (ends' : fs.Ends r result') :
    links = more ∧ result = result' := by
  obtain ⟨left, rfl, rest⟩ := first.before_end ends second
  cases rest with
  | refl => exact ⟨Nat.add_zero more, ends.unique ends'⟩
  | step moves => exact absurd moves ends'.not_moves

/-- One thing at most becomes of following names. -/
theorem ComesTo.unique {limit : Nat} {result result' : Except OsError Trail}
    (comes : fs.ComesTo limit p result) (comes' : fs.ComesTo limit p result') :
    result = result' := by
  cases comes with
  | ends goes within ends =>
    cases comes' with
    | ends goes' _ ends' => exact (goes.end_unique ends goes' ends').2
    | tooManyLinks goes' =>
      obtain ⟨left, same, -⟩ := goes.before_end ends goes'
      omega
  | tooManyLinks goes =>
    cases comes' with
    | ends goes' within ends' =>
      obtain ⟨left, same, -⟩ := goes'.before_end ends' goes
      omega
    | tooManyLinks => rfl

/-- A path leads to one place or nowhere for one reason.  What is no path is refused for one reason
only, as the conditions exclude each other. -/
theorem Leads.unique {path : Bytes} {result result' : Except OsError Trail}
    (leads : fs.Leads path result) (leads' : fs.Leads path result') : result = result' := by
  have notLong : ¬Path.maxPath ≤ ([] : Bytes).length := by decide
  cases leads with
  | nullByte null =>
    cases leads' with
    | nullByte => rfl
    | empty empty => rw [empty] at null; cases null
    | tooLong noNull => exact absurd null noNull
    | followed noNull => exact absurd null noNull
  | empty empty =>
    cases leads' with
    | nullByte null => rw [empty] at null; cases null
    | empty => rfl
    | tooLong _ long => exact absurd (empty ▸ long) notLong
    | followed _ nonempty => exact absurd empty nonempty
  | tooLong noNull long =>
    cases leads' with
    | nullByte null => exact absurd null noNull
    | empty empty => exact absurd (empty ▸ long) notLong
    | tooLong => rfl
    | followed _ _ short => omega
  | followed noNull nonempty short comes =>
    cases leads' with
    | nullByte null => exact absurd null noNull
    | empty empty => exact absurd empty nonempty
    | tooLong _ long => omega
    | followed _ _ _ comes' => exact comes.unique comes'

/-! ### What is found -/

/-- A step without a link changes nothing in what becomes of following names. -/
theorem ComesTo.step {limit : Nat} {result : Except OsError Trail} (moves : fs.Moves p 0 q)
    (comes : fs.ComesTo limit q result) : fs.ComesTo limit p result := by
  cases comes with
  | @ends links _ _ goes within ends =>
    have goes' : fs.Goes (0 + links) p _ := .step moves goes
    exact .ends goes' ((Nat.zero_add links).symm ▸ within) ends
  | tooManyLinks goes =>
    have goes' : fs.Goes (0 + (limit + 1)) p _ := .step moves goes
    rw [Nat.zero_add] at goes'
    exact .tooManyLinks goes'

/-- A link that is followed is one less that may be followed behind it. -/
theorem ComesTo.link {limit : Nat} {result : Except OsError Trail} (moves : fs.Moves p 1 q)
    (comes : fs.ComesTo limit q result) : fs.ComesTo (limit + 1) p result := by
  cases comes with
  | ends goes within ends => exact .ends (.step moves goes) (by omega) ends
  | tooManyLinks goes =>
    have goes' : fs.Goes (1 + (limit + 1)) p _ := .step moves goes
    rw [Nat.add_comm] at goes'
    exact .tooManyLinks goes'

/-- The end of a path. -/
def Place.arrival : Place → Except OsError Trail
  | .taken trail => .ok trail
  | .free _ => .error .notFound

/-- Names are followed as they should be, if links are.  By induction on the names; the links are a
parameter, so that the second level of recursion is by induction on the budget in `comesTo_follow`.
-/
theorem comesTo_walk {limit : Nat}
    {link : Bytes → List Name → Trail → Except OsError Place}
    (follows : ∀ (target : Bytes) (name : Name) (rest : List Name) (here : Trail),
      fs.Moves ⟨name :: rest, here⟩ 1 ⟨Path.steps target ++ rest, start target here⟩ →
      fs.ComesTo limit ⟨name :: rest, here⟩ ((link target rest here).bind Place.arrival))
    (left : List Name) (here : Trail) :
    fs.ComesTo limit ⟨left, here⟩ ((fs.walk link left here).bind Place.arrival) := by
  have stops {p : Position} {cause : OsError} (stuck : fs.Stuck p cause) :
      fs.ComesTo limit p (.error cause) := .ends (.refl p) (Nat.zero_le limit) (.stuck stuck)
  induction left generalizing here with
  | nil => exact .ends (.refl _) (Nat.zero_le limit) (.arrived here)
  | cons name rest ih =>
    rw [walk]
    by_cases inside : fs.isDirectory here = true
    · rw [if_neg (by simp [inside])]
      by_cases isDot : name = Path.dot
      · rw [if_pos isDot]
        subst isDot
        exact .step (.stay inside) (ih here)
      · rw [if_neg isDot]
        by_cases isDotDot : name = Path.dotDot
        · rw [if_pos isDotDot]
          subst isDotDot
          exact .step (.leave inside) (ih here.tail)
        · rw [if_neg isDotDot]
          by_cases long : name.length > Path.maxName
          · rw [if_pos long]
            exact stops (.nameTooLong inside isDot isDotDot long)
          · rw [if_neg long]
            have isEntry : IsEntryName name := ⟨isDot, isDotDot, Nat.not_lt.mp long⟩
            cases there : fs.node? (name :: here) with
            | none =>
              -- A free place at the end is one for what is created, but it is no end of a path.
              have refused : (if rest = [] then Except.ok (Place.free (name :: here))
                  else .error .notFound).bind Place.arrival = .error .notFound := by
                by_cases last : rest = []
                · rw [if_pos last]
                  rfl
                · rw [if_neg last]
                  rfl
              dsimp only
              rw [refused]
              exact stops (.notFound inside isEntry there)
            | some node =>
              cases node with
              | link target => exact follows target name rest here (.link inside isEntry there)
              | directory => exact .step (.enter inside isEntry there nofun) (ih _)
              | file => exact .step (.enter inside isEntry there nofun) (ih _)
              | unreadable => exact .step (.enter inside isEntry there nofun) (ih _)
              | special => exact .step (.enter inside isEntry there nofun) (ih _)
    · rw [if_pos (by simp [inside])]
      exact stops (.notDirectory (by simpa using inside))

/-- What is found is what becomes of following the names. -/
theorem comesTo_follow (limit : Nat) (left : List Name) (here : Trail) :
    fs.ComesTo limit ⟨left, here⟩ ((fs.follow limit left here).bind Place.arrival) := by
  induction limit generalizing left here with
  | zero => exact comesTo_walk (fun _ _ _ _ moves => .tooManyLinks (.single moves)) left here
  | succ limit ih => exact comesTo_walk (fun _ _ _ _ moves => .link moves (ih _ _)) left here

/-- What the resolver finds is where the path leads. -/
theorem leads_resolve (fs : FileSystem) (path : Bytes) : fs.Leads path (fs.resolve path) := by
  have resolved : fs.resolve path = (fs.place path).bind Place.arrival := rfl
  rw [resolved, place, Path.check]
  by_cases null : path.contains 0 = true
  · rw [if_pos null]
    exact .nullByte (List.contains_iff_mem.mp null)
  · have noNull : 0 ∉ path := fun mem => null (List.contains_iff_mem.mpr mem)
    rw [if_neg null]
    by_cases empty : path.isEmpty = true
    · rw [if_pos empty]
      exact .empty (List.isEmpty_iff.mp empty)
    · rw [if_neg empty]
      have nonempty : path ≠ [] := fun same => empty (List.isEmpty_iff.mpr same)
      by_cases long : path.length ≥ Path.maxPath
      · rw [if_pos long]
        exact .tooLong noNull long
      · rw [if_neg long]
        exact .followed noNull nonempty (Nat.not_le.mp long) (comesTo_follow _ _ _)

/-- **What is found is where the path leads.**  With this, `resolve` need not be opened again: all
later modules argue about steps. -/
theorem leads_iff {path : Bytes} {result : Except OsError Trail} :
    fs.Leads path result ↔ fs.resolve path = result := by
  constructor
  · intro leads
    exact (leads_resolve fs path).unique leads
  · rintro rfl
    exact leads_resolve fs path

/-! ### Cycles -/

/-- What is left behind some names does not change how these are followed. -/
theorem Moves.append (moves : fs.Moves p links q) (rest : List Name) :
    fs.Moves ⟨p.left ++ rest, p.here⟩ links ⟨q.left ++ rest, q.here⟩ := by
  cases moves with
  | stay inside => exact .stay inside
  | leave inside => exact .leave inside
  | enter inside isEntry there noLink => exact .enter inside isEntry there noLink
  | link inside isEntry there =>
    rw [List.append_assoc]
    exact .link inside isEntry there

theorem Goes.append (goes : fs.Goes links p q) (rest : List Name) :
    fs.Goes links ⟨p.left ++ rest, p.here⟩ ⟨q.left ++ rest, q.here⟩ := by
  induction goes with
  | refl p => exact .refl _
  | step moves _ ih => exact .step (moves.append rest) ih

/-- From names that lead back to themselves, perhaps with more names behind them, there are walks
with any number of links. -/
theorem Goes.around {left rest : List Name} {here : Trail}
    (cycle : fs.Goes (links + 1) ⟨left, here⟩ ⟨left ++ rest, here⟩) (rounds : Nat) :
    ∃ more behind, rounds ≤ more ∧ fs.Goes more ⟨left, here⟩ ⟨left ++ behind, here⟩ := by
  induction rounds with
  | zero => exact ⟨0, [], Nat.le_refl 0, (List.append_nil left).symm ▸ .refl _⟩
  | succ rounds ih =>
    obtain ⟨more, behind, enough, goes⟩ := ih
    -- One more round, with what the rounds before have left behind still to come.
    have again := cycle.append behind
    refine ⟨more + (links + 1), rest ++ behind, by omega, ?_⟩
    rw [← List.append_assoc]
    exact goes.trans again

/-- **Links that lead back to themselves are too many.**  The names behind the cycle may be any,
since they are never come to. -/
theorem comesTo_of_cycle {limit : Nat} {left rest : List Name} {here : Trail}
    (goes : fs.Goes more p ⟨left, here⟩)
    (cycle : fs.Goes (links + 1) ⟨left, here⟩ ⟨left ++ rest, here⟩) :
    fs.ComesTo limit p (.error .tooManyLinks) := by
  obtain ⟨many, behind, enough, around⟩ := cycle.around (limit + 1)
  have enough : limit + 1 ≤ more + many := by omega
  obtain ⟨q, walk⟩ := (goes.trans around).shorter enough
  exact .tooManyLinks walk

end FileSystem

end JsxDetect
