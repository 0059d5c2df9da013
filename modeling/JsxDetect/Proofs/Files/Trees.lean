import JsxDetect.Files.Change
import JsxDetect.Proofs.Files.Resolution

/-!
# File systems as trees

A file system is kept as a list of what there is at which place, and not every such list makes
sense: there might be a file in what is no directory.  Whatever happens to a file system that makes
sense, it goes on to do so.  This is what makes the ends of paths trustworthy: where a path leads
there is something, and it is no link.

Most changes touch one place, with nothing below it.  Moving a directory is the exception: all that
is below it moves along, also the place where one is.

## Main Definitions

* `FileSystem.IsTree`: all there is lies in directories
* `FileSystem.Occupied`: something is at a place that is no link

## Main Results

* `FileSystem.Movable.node?_target`, …: what there is after a move
* `FileSystem.IsTree.apply`, `FileSystem.IsTree.reachable`: changes keep the tree
* `FileSystem.IsTree.occupied`: where a path leads there is something

## Design Notes

**Why an invariant is needed.**  A file system is any list of entries with a place each, in which
the same name may occur twice and a file may lie in a file.  `IsTree` is the invariant that rules
this out as far as lookups can see.  It is kept by each of the seven changes, also by those that
fail half-way, such as making several directories of which one cannot be made.

**Local changes.**  A change at one place keeps the tree if what is there is no directory
(`IsTree.change`), so it is enough to know what lookups say elsewhere.  A move is not of this form.
What it does to lookups is given by three equations, below the new place, below the old place and
elsewhere, and `IsTree.move` uses nothing else.
-/

namespace JsxDetect

namespace FileSystem

/-- All there is lies in directories, and one is in a directory. -/
structure IsTree (fs : FileSystem) : Prop where
  parent : ∀ (name : Name) (trail : Trail), fs.node? (name :: trail) ≠ none →
    fs.isDirectory trail = true
  current : fs.isDirectory fs.current = true

/-- Something is at a place that is no link. -/
def Occupied (fs : FileSystem) (trail : Trail) : Prop :=
  ∃ node, fs.node? trail = some node ∧ ∀ target, node ≠ .link target

variable {fs : FileSystem} {trail other source target : Trail} {node : Node}

@[simp] theorem isDirectory_iff : fs.isDirectory trail = true ↔ fs.node? trail = some .directory := by
  simp [isDirectory]

theorem isDirectory_eq_false_iff :
    fs.isDirectory trail = false ↔ fs.node? trail ≠ some .directory := by
  simp [isDirectory]

theorem occupied_of_isDirectory (inside : fs.isDirectory trail = true) : fs.Occupied trail :=
  ⟨.directory, isDirectory_iff.mp inside, nofun⟩

/-! ### Where paths lead -/

/-- A step goes from a place where something is to another. -/
theorem IsTree.moves (tree : fs.IsTree) {p q : Position} {links : Nat} (moves : fs.Moves p links q)
    (occupied : fs.Occupied p.here) : fs.Occupied q.here := by
  cases moves with
  | stay => exact occupied
  | @leave rest here inside =>
    cases here with
    | nil => exact occupied
    | cons name here =>
      refine occupied_of_isDirectory (tree.parent name here ?_)
      rw [isDirectory_iff.mp inside]
      exact nofun
  | enter _ _ there noLink => exact ⟨_, there, noLink⟩
  | link inside =>
    unfold start
    split
    · exact occupied_of_isDirectory rfl
    · exact occupied_of_isDirectory inside

theorem IsTree.goes (tree : fs.IsTree) {p q : Position} {links : Nat} (goes : fs.Goes links p q)
    (occupied : fs.Occupied p.here) : fs.Occupied q.here := by
  induction goes with
  | refl => exact occupied
  | step moves _ ih => exact ih (tree.moves moves occupied)

/-- **Where a path leads there is something, and it is no link.**  In a list of entries that is no
tree a path could lead to a place where nothing is. -/
theorem IsTree.occupied (tree : fs.IsTree) {path : Bytes} (leads : fs.Leads path (.ok trail)) :
    fs.Occupied trail := by
  cases leads with
  | followed _ _ _ comes =>
    cases comes with
    | ends goes _ ends =>
      cases ends
      refine tree.goes goes ?_
      unfold start
      split
      · exact occupied_of_isDirectory rfl
      · exact occupied_of_isDirectory tree.current

/-- A place where nothing is yet, in a directory. -/
def Vacancy (fs : FileSystem) (trail : Trail) : Prop :=
  ∃ name directory, trail = name :: directory ∧ fs.isDirectory directory = true ∧
    fs.node? trail = none

/-- Where names lead to a place that is free, it is in a directory, if links do so. -/
theorem walk_free {link : Bytes → List Name → Trail → Except OsError Place}
    (follows : ∀ target rest here, link target rest here = .ok (.free trail) → fs.Vacancy trail)
    (left : List Name) (here : Trail) (free : fs.walk link left here = .ok (.free trail)) :
    fs.Vacancy trail := by
  induction left generalizing here with
  | nil => cases free
  | cons name rest ih =>
    rw [walk] at free
    split at free
    · cases free
    · next inside =>
      split at free
      · exact ih here free
      · split at free
        · exact ih here.tail free
        · split at free
          · cases free
          · split at free
            · next missing =>
              split at free
              · cases free
                exact ⟨name, here, rfl, by simpa using inside, missing⟩
              · cases free
            · exact follows _ _ _ free
            · exact ih (name :: here) free

/-- Links lead to a free place in a directory, too, by induction on how many may be followed. -/
theorem follow_free (limit : Nat) (left : List Name) (here : Trail)
    (free : fs.follow limit left here = .ok (.free trail)) : fs.Vacancy trail := by
  induction limit generalizing left here with
  | zero => exact walk_free (fun _ _ _ refused => by cases refused) left here free
  | succ limit ih => exact walk_free (fun _ _ _ follows => ih _ _ follows) left here free

/-! ### One place -/

/-- Dropping the entries at one place does not change what is found at others. -/
theorem lookup_filter_ne (nodes : List (Trail × Node)) (differs : other ≠ trail) :
    (nodes.filter (·.1 ≠ trail)).lookup other = nodes.lookup other := by
  induction nodes with
  | nil => rfl
  | cons entry nodes ih =>
    obtain ⟨place, there⟩ := entry
    by_cases same : place = trail
    · have apart : (other == place) = false := by simpa [same] using differs
      rw [List.filter_cons_of_neg (by simpa using same), ih, List.lookup_cons, apart]
    · rw [List.filter_cons_of_pos (by simpa using same), List.lookup_cons, List.lookup_cons, ih]

theorem node?_put_of_ne (node : Node) (differs : other ≠ trail) :
    (fs.put trail node).node? other = fs.node? other := by
  have apart : (other == trail) = false := by simpa using differs
  simp only [node?, put, List.lookup_cons, apart, lookup_filter_ne fs.nodes differs]

theorem node?_erase_of_ne (differs : other ≠ trail) :
    (fs.erase trail).node? other = fs.node? other := by
  simp only [node?, erase, lookup_filter_ne fs.nodes differs]

/-- A change at one place, which is no directory, keeps the tree if what is there then is in a
directory. -/
theorem IsTree.change {later : FileSystem} {name : Name} {directory : Trail} (tree : fs.IsTree)
    (inside : fs.isDirectory directory = true)
    (simple : fs.isDirectory (name :: directory) = false)
    (here : later.current = fs.current)
    (elsewhere : ∀ other, other ≠ name :: directory → later.node? other = fs.node? other) :
    later.IsTree := by
  have kept {other : Trail} (isDirectory : fs.isDirectory other = true) :
      later.isDirectory other = true := by
    rw [isDirectory_iff] at isDirectory ⊢
    rw [elsewhere other ?_, isDirectory]
    rintro rfl
    exact isDirectory_eq_false_iff.mp simple isDirectory
  refine ⟨fun inner outer there => ?_, ?_⟩
  · by_cases same : inner :: outer = name :: directory
    · obtain ⟨rfl, rfl⟩ := List.cons.inj same
      exact kept inside
    · rw [elsewhere _ same] at there
      exact kept (tree.parent inner outer there)
  · rw [here]
    exact kept tree.current

theorem IsTree.put {name : Name} {directory : Trail} (tree : fs.IsTree)
    (inside : fs.isDirectory directory = true)
    (simple : fs.isDirectory (name :: directory) = false) (node : Node) :
    (fs.put (name :: directory) node).IsTree :=
  tree.change inside simple rfl fun _ differs => node?_put_of_ne node differs

theorem IsTree.erase {name : Name} {directory : Trail} (tree : fs.IsTree)
    (inside : fs.isDirectory directory = true)
    (simple : fs.isDirectory (name :: directory) = false) :
    (fs.erase (name :: directory)).IsTree :=
  tree.change inside simple rfl fun _ differs => node?_erase_of_ne differs

/-! ### Moves -/

theorem below_iff {outer : Trail} : below trail outer = true ↔ ∃ inner, inner ++ outer = trail := by
  rw [below, List.isSuffixOf_iff_suffix]
  exact Iff.rfl

@[simp] theorem below_append (inner outer : Trail) : below (inner ++ outer) outer = true :=
  below_iff.mpr ⟨inner, rfl⟩

@[simp] theorem below_self (trail : Trail) : below trail trail = true := below_append [] trail

theorem relocate_append (source target inner : Trail) :
    relocate source target (inner ++ source) = inner ++ target := by
  rw [relocate, if_pos (below_append inner source), List.length_append, Nat.add_sub_cancel,
    List.take_left]

theorem relocate_of_not_below (apart : below trail source = false) :
    relocate source target trail = trail := by
  rw [relocate, apart]
  rfl

/-- Entries are found at other places if these correspond to those where they were. -/
theorem lookup_map {nodes : List (Trail × Node)} {place : Trail → Trail} {later earlier : Trail}
    (corresponds : ∀ entry ∈ nodes, place entry.1 = later ↔ entry.1 = earlier) :
    (nodes.map fun (trail, node) => (place trail, node)).lookup later = nodes.lookup earlier := by
  induction nodes with
  | nil => rfl
  | cons entry nodes ih =>
    obtain ⟨first, rest⟩ := List.forall_mem_cons.mp corresponds
    have same : (later == place entry.1) = (earlier == entry.1) := by
      rw [Bool.eq_iff_iff, beq_iff_eq, beq_iff_eq, eq_comm, first, eq_comm]
    rw [List.map_cons, List.lookup_cons, List.lookup_cons, same, ih rest]

/-- What is moved can be: neither place is in the other, nothing is below the new one, and there is
a directory for it, which replaces a directory only by another. -/
structure Movable (fs : FileSystem) (source target : Trail) : Prop where
  notRoot : source ≠ []
  vacancy : ∃ name directory, target = name :: directory ∧ fs.isDirectory directory = true
  source_apart : below source target = false
  target_apart : below target source = false
  vacant : fs.vacant target = true
  alike : fs.isDirectory target = true → fs.isDirectory source = true

namespace Movable

variable (movable : fs.Movable source target)

include movable

theorem target_ne_nil : target ≠ [] := by
  obtain ⟨name, directory, rfl, -⟩ := movable.vacancy
  exact nofun

theorem source_ne (inner : Trail) : inner ++ source ≠ target := by
  rintro rfl
  simpa using movable.target_apart

theorem target_ne (inner : Trail) : inner ++ target ≠ source := by
  rintro rfl
  simpa using movable.source_apart

/-- No place is below both. -/
theorem append_ne (inner inner' : Trail) : inner ++ source ≠ inner' ++ target := by
  intro same
  -- Of two ends of one place, one is an end of the other.
  have first : source <:+ inner' ++ target := ⟨inner, same⟩
  have second : target <:+ inner' ++ target := ⟨inner', rfl⟩
  rcases List.suffix_or_suffix_of_suffix first second with ⟨between, split⟩ | ⟨between, split⟩
  · exact movable.source_ne between split
  · exact movable.target_ne between split

/-- Of the entries that are kept, none is at the new place or below it. -/
theorem kept_ne {entry : Trail × Node} (mem : entry ∈ fs.nodes.filter (·.1 ≠ target))
    (inner : Trail) : entry.1 ≠ inner ++ target := by
  intro same
  obtain ⟨listed, differs⟩ := List.mem_filter.mp mem
  have free := List.all_eq_true.mp movable.vacant entry listed
  rw [same] at differs
  simp_all

/-- Below the new place there is nothing before the move. -/
theorem node?_below_target {inner : Trail} (nonempty : inner ≠ []) :
    fs.node? (inner ++ target) = none := by
  have differs : inner ++ target ≠ target := by simpa using nonempty
  have someTarget : inner ++ target ≠ [] := by simp [nonempty]
  rw [node?, if_neg someTarget, ← lookup_filter_ne fs.nodes differs, List.lookup_eq_none_iff]
  intro entry mem
  rw [bne_iff_ne]
  exact (movable.kept_ne mem inner).symm

/-- What is below the new place was below the old one. -/
theorem node?_target (inner : Trail) :
    (fs.move source target).node? (inner ++ target) = fs.node? (inner ++ source) := by
  have someTarget : inner ++ target ≠ [] := by simp [movable.target_ne_nil]
  have someSource : inner ++ source ≠ [] := by simp [movable.notRoot]
  rw [node?, node?, if_neg someTarget, if_neg someSource,
    ← lookup_filter_ne fs.nodes (movable.source_ne inner)]
  refine lookup_map fun entry mem => ?_
  cases inside : below entry.1 source with
  | true =>
    obtain ⟨other, same⟩ := below_iff.mp inside
    rw [← same, relocate_append, List.append_cancel_right_eq, List.append_cancel_right_eq]
  | false =>
    rw [relocate_of_not_below inside]
    refine iff_of_false (movable.kept_ne mem inner) ?_
    intro same
    simp [same] at inside

/-- Below the old place there is nothing. -/
theorem node?_source (inner : Trail) : (fs.move source target).node? (inner ++ source) = none := by
  have someSource : inner ++ source ≠ [] := by simp [movable.notRoot]
  rw [node?, if_neg someSource, List.lookup_eq_none_iff]
  intro moved mem
  obtain ⟨entry, -, rfl⟩ := List.mem_map.mp mem
  rw [bne_iff_ne]
  show inner ++ source ≠ relocate source target entry.1
  cases inside : below entry.1 source with
  | true =>
    obtain ⟨other, same⟩ := below_iff.mp inside
    rw [← same, relocate_append]
    exact movable.append_ne inner other
  | false =>
    rw [relocate_of_not_below inside]
    intro same
    simp [← same] at inside

/-- Elsewhere there is what was there. -/
theorem node?_elsewhere (notSource : below other source = false)
    (notTarget : below other target = false) :
    (fs.move source target).node? other = fs.node? other := by
  have differs : other ≠ target := by
    rintro rfl
    simp at notTarget
  unfold node?
  split
  · rfl
  · rw [← lookup_filter_ne fs.nodes differs]
    refine lookup_map fun entry mem => ?_
    cases inside : below entry.1 source with
    | true =>
      obtain ⟨inner, same⟩ := below_iff.mp inside
      rw [← same, relocate_append]
      refine iff_of_false ?_ ?_
      · intro same
        simp [← same] at notTarget
      · intro same
        simp [← same] at notSource
    | false => rw [relocate_of_not_below inside]

end Movable

/-- Each place is below the new one, below the old one, or elsewhere. -/
theorem move_cases (source target trail : Trail) :
    (∃ inner, trail = inner ++ target) ∨ (∃ inner, trail = inner ++ source) ∨
      (below trail source = false ∧ below trail target = false) := by
  cases inTarget : below trail target with
  | true =>
    obtain ⟨inner, same⟩ := below_iff.mp inTarget
    exact .inl ⟨inner, same.symm⟩
  | false =>
    cases inSource : below trail source with
    | true =>
      obtain ⟨inner, same⟩ := below_iff.mp inSource
      exact .inr (.inl ⟨inner, same.symm⟩)
    | false => exact .inr (.inr ⟨rfl, rfl⟩)

theorem below_cons_of_below {name : Name} {outer : Trail} (inside : below trail outer = true) :
    below (name :: trail) outer = true := by
  obtain ⟨inner, rfl⟩ := below_iff.mp inside
  exact below_iff.mpr ⟨name :: inner, rfl⟩

theorem not_below_of_cons {name : Name} {outer : Trail}
    (apart : below (name :: trail) outer = false) : below trail outer = false := by
  cases inside : below trail outer with
  | false => rfl
  | true =>
    rw [below_cons_of_below inside] at apart
    cases apart

/-- A move keeps the tree.  The cases are where an entry is after the move, and where its directory
was before. -/
theorem IsTree.move (tree : fs.IsTree) (movable : fs.Movable source target) :
    (fs.move source target).IsTree := by
  have elsewhere {other : Trail} (notSource : below other source = false)
      (notTarget : below other target = false) (inside : fs.isDirectory other = true) :
      (fs.move source target).isDirectory other = true := by
    rw [isDirectory_iff] at inside ⊢
    rw [movable.node?_elsewhere notSource notTarget, inside]
  have inTarget {inner : Trail} (inside : fs.isDirectory (inner ++ source) = true) :
      (fs.move source target).isDirectory (inner ++ target) = true := by
    rw [isDirectory_iff] at inside ⊢
    rw [movable.node?_target, inside]
  constructor
  · intro name trail there
    rcases move_cases source target (name :: trail) with ⟨inner, same⟩ | ⟨inner, same⟩ |
      ⟨notSource, notTarget⟩
    · cases inner with
      -- The new place itself is in a directory that was there before and does not move.
      | nil =>
        obtain ⟨other, directory, isTarget, inside⟩ := movable.vacancy
        rw [List.nil_append, isTarget] at same
        obtain ⟨rfl, rfl⟩ := List.cons.inj same
        have apart := movable.target_apart
        rw [isTarget] at apart
        refine elsewhere (not_below_of_cons apart) ?_ inside
        cases within : below trail target with
        | false => rfl
        | true =>
          obtain ⟨inner, split⟩ := below_iff.mp within
          have lengths := congrArg List.length split
          rw [isTarget, List.length_append, List.length_cons] at lengths
          omega
      | cons other inner =>
        obtain ⟨rfl, rfl⟩ := List.cons.inj same
        refine inTarget (tree.parent name (inner ++ source) ?_)
        rw [← List.cons_append, ← movable.node?_target]
        exact there
    · rw [same, movable.node?_source] at there
      exact absurd rfl there
    · rw [movable.node?_elsewhere notSource notTarget] at there
      exact elsewhere (not_below_of_cons notSource) (not_below_of_cons notTarget)
        (tree.parent name trail there)
  · show (fs.move source target).isDirectory (relocate source target fs.current) = true
    have inside := tree.current
    rcases move_cases source target fs.current with ⟨inner, same⟩ | ⟨inner, same⟩ |
      ⟨notSource, notTarget⟩
    · cases inner with
      -- One is in the directory that is replaced, and is then in the one that replaces it.
      | nil =>
        rw [List.nil_append] at same
        rw [same] at inside ⊢
        rw [relocate_of_not_below movable.target_apart]
        have whole := movable.alike inside
        rw [← List.nil_append source] at whole
        exact inTarget whole
      | cons name inner =>
        have nonempty : name :: inner ≠ [] := nofun
        rw [same, isDirectory_iff, movable.node?_below_target nonempty] at inside
        cases inside
    · rw [same] at inside ⊢
      rw [relocate_append]
      exact inTarget inside
    · rw [relocate_of_not_below notSource]
      exact elsewhere notSource notTarget inside

/-! ### Changes -/

theorem exists_of_bind {α β : Type} {first : Except OsError α} {next : α → Except OsError β}
    {b : β} (ok : first >>= next = .ok b) : ∃ a, first = .ok a ∧ next a = .ok b := by
  cases first with
  | error cause => cases ok
  | ok a => exact ⟨a, rfl, ok⟩

/-- The entry that a path names is in a directory. -/
theorem inside_of_entry {path : Bytes} {special : OsError} {entry : Entry}
    (found : fs.entry path special = .ok entry) :
    ∃ name directory, entry.trail = name :: directory ∧ fs.isDirectory directory = true := by
  unfold FileSystem.entry at found
  obtain ⟨-, -, found⟩ := exists_of_bind found
  dsimp only at found
  split at found
  · cases found
  · obtain ⟨place, -, found⟩ := exists_of_bind found
    split at found
    · cases found
    · split at found
      · cases found
      · next inside =>
        split at found
        · cases found
        · cases found
          exact ⟨_, _, rfl, by simpa using inside⟩

theorem node_of_look {entry : Entry} {found : Option Node} (looked : fs.look entry = .ok found) :
    fs.node? entry.trail = found := by
  unfold look at looked
  split at looked
  · cases looked
  · exact Except.ok.inj looked

/-- Making something new keeps the tree. -/
theorem IsTree.create (tree : fs.IsTree) {path : Bytes} {node : Node} {later : FileSystem}
    (created : fs.create path node = .ok later) : later.IsTree := by
  unfold FileSystem.create at created
  obtain ⟨entry, named, created⟩ := exists_of_bind created
  obtain ⟨found, looked, created⟩ := exists_of_bind created
  obtain ⟨name, directory, same, inside⟩ := inside_of_entry named
  have missing := node_of_look looked
  split at created
  · cases created
  · next free =>
    split at created
    · cases created
    · cases created
      rw [same] at missing ⊢
      refine tree.put inside ?_ node
      rw [isDirectory_eq_false_iff, missing]
      rintro rfl
      exact free rfl

theorem vacancy_of_place {path : Bytes} (free : fs.place path = .ok (.free trail)) :
    fs.Vacancy trail := by
  unfold place at free
  obtain ⟨-, -, free⟩ := exists_of_bind free
  exact follow_free _ _ _ free

/-- Writing a file keeps the tree, whether there was one or not. -/
theorem IsTree.write (tree : fs.IsTree) {path content : Bytes} {later : FileSystem}
    (written : fs.write path content = .ok later) : later.IsTree := by
  unfold FileSystem.write at written
  split at written
  · obtain ⟨-, -, written⟩ := exists_of_bind written
    cases written
  · obtain ⟨place, placed, written⟩ := exists_of_bind written
    cases place with
    | free trail =>
      cases written
      obtain ⟨name, directory, rfl, inside, missing⟩ := vacancy_of_place placed
      exact tree.put inside (by simp [isDirectory_eq_false_iff, missing]) _
    | taken trail =>
      dsimp only at written
      split at written
      · next there =>
        cases written
        have simple : fs.isDirectory trail = false := by
          simp [isDirectory_eq_false_iff, there]
        cases trail with
        | nil => cases there
        | cons name directory =>
          refine tree.put (tree.parent name directory ?_) simple _
          rw [there]
          exact nofun
      · cases written
      · cases written
        exact tree

/-- Making a directory keeps the tree. -/
theorem IsTree.makeDirectory (tree : fs.IsTree) {path : Bytes} {later : FileSystem}
    (made : fs.makeDirectory path = .ok later) : later.IsTree := by
  unfold FileSystem.makeDirectory at made
  split at made
  · split at made
    · cases made
      exact tree
    · cases made
  · exact tree.create made

/-- Directories are made one in the other, the outermost first; what was made stays. -/
theorem IsTree.makeDirectories (tree : fs.IsTree) (paths : List Bytes) :
    (makeDirectories paths fs).1.IsTree := by
  induction paths generalizing fs with
  | nil => exact tree
  | cons path outer ih =>
    rw [FileSystem.makeDirectories]
    split
    · next made => exact tree.makeDirectory made
    · have before := ih tree
      split
      · next failed =>
        rw [failed] at before
        exact before
      · next made =>
        rw [made] at before
        split
        · next later => exact before.makeDirectory later
        · exact before
    · exact tree

theorem IsTree.makeLink (tree : fs.IsTree) {path target : Bytes} {later : FileSystem}
    (made : fs.makeLink path target = .ok later) : later.IsTree := by
  unfold FileSystem.makeLink at made
  split at made
  · cases made
  · obtain ⟨-, -, made⟩ := exists_of_bind made
    exact tree.create made

/-- Removing something keeps the tree, as only a directory with nothing in it is removed. -/
theorem IsTree.remove (tree : fs.IsTree) {path : Bytes} {later : FileSystem}
    (removed : fs.remove path = .ok later) : later.IsTree := by
  unfold FileSystem.remove at removed
  obtain ⟨entry, named, removed⟩ := exists_of_bind removed
  obtain ⟨found, looked, removed⟩ := exists_of_bind removed
  obtain ⟨name, directory, same, inside⟩ := inside_of_entry named
  have there := node_of_look looked
  split at removed
  · cases removed
  · cases removed
  · next simple =>
    split at removed
    · cases removed
    · cases removed
      rw [same] at there ⊢
      refine tree.erase inside ?_
      rw [isDirectory_eq_false_iff, there]
      exact fun isDirectory => simple (Option.some.inj isDirectory)

/-- The entries of a renaming are in directories. -/
theorem inside_of_entries {path target : Bytes} {old new : Entry}
    (found : fs.entriesOf path target = .ok (old, new)) :
    fs.entry path .busy = .ok old ∧ fs.entry target .busy = .ok new := by
  unfold entriesOf at found
  split at found
  · cases found
  · split at found
    · next first second =>
      cases found
      exact ⟨first, second⟩
    · cases found
    · cases found
    · cases found

/-- Renaming keeps the tree, whether or not there was something of the new name. -/
theorem IsTree.rename (tree : fs.IsTree) {path target : Bytes} {later : FileSystem}
    (renamed : fs.rename path target = .ok later) : later.IsTree := by
  unfold FileSystem.rename at renamed
  obtain ⟨⟨old, new⟩, entries, renamed⟩ := exists_of_bind renamed
  obtain ⟨found, looked, renamed⟩ := exists_of_bind renamed
  obtain ⟨oldNamed, newNamed⟩ := inside_of_entries entries
  obtain ⟨_, _, oldSame, -⟩ := inside_of_entry oldNamed
  have there := node_of_look looked
  split at renamed
  · cases renamed
  · next node =>
    obtain ⟨before, looked, renamed⟩ := exists_of_bind renamed
    have beforeThere := node_of_look looked
    -- The renaming is refused or changes nothing but where all that is asked for holds.
    split at renamed
    · cases renamed
    split at renamed
    · cases renamed
      exact tree
    split at renamed
    · cases renamed
    split at renamed
    · cases renamed
    split at renamed
    · cases renamed
    split at renamed
    · cases renamed
    split at renamed
    · cases renamed
    next newApart oldApart _ notReplaced vacant =>
    cases renamed
    refine tree.move ⟨?_, inside_of_entry newNamed, ?_, ?_, ?_, ?_⟩
    · rw [oldSame]
      exact nofun
    · simpa using oldApart
    · simpa using newApart
    · simpa using vacant
    · intro isDirectory
      rw [isDirectory_iff] at isDirectory ⊢
      rw [there]
      rw [isDirectory] at beforeThere
      subst beforeThere
      simpa using notReplaced

/-- **A change keeps the tree**, also one that fails.  Those that fail leave what there was, but for
making several directories, which leaves those that could be made. -/
theorem IsTree.apply (tree : fs.IsTree) (change : Change) : (fs.apply change).1.IsTree := by
  have attempted {attempt : Except OsError FileSystem}
      (keeps : ∀ later, attempt = .ok later → later.IsTree) : (fs.attempt attempt).1.IsTree := by
    cases attempt with
    | ok later => exact keeps later rfl
    | error cause => exact tree
  cases change with
  | write path content => exact attempted fun _ => tree.write
  | makeDirectory path =>
    unfold FileSystem.apply
    dsimp only
    split
    · exact tree
    · exact tree.makeDirectories _
  | makeLink path target => exact attempted fun _ => tree.makeLink
  | makePipe path => exact attempted fun _ => tree.create
  | remove path => exact attempted fun _ => tree.remove
  | rename path target => exact attempted fun _ => tree.rename

/-- **What changes of a tree lead to is a tree**, whatever they are and however many.  By induction
on their number. -/
theorem IsTree.reachable {origin : FileSystem} (tree : origin.IsTree)
    (reachable : Reachable origin fs) : fs.IsTree := by
  induction reachable with
  | origin => exact tree
  | step change _ ih => exact ih.apply change

/-- The file system to begin with is a tree. -/
theorem isTree_standard : standard.IsTree := by
  have inside : ∀ entry ∈ standard.nodes, standard.isDirectory entry.1.tail = true := by
    decide +kernel
  refine ⟨fun name trail there => ?_, by decide +kernel⟩
  rw [node?, if_neg (by simp)] at there
  refine Classical.byContradiction fun outside => ?_
  refine there (List.lookup_eq_none_iff.mpr fun entry mem => ?_)
  rw [bne_iff_ne]
  intro same
  have := inside entry mem
  rw [← same] at this
  exact outside this

end FileSystem

end JsxDetect
