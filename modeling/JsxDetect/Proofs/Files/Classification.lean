import JsxDetect.Proofs.Detection.NullGuard
import JsxDetect.Proofs.Files.Trees

/-!
# What becomes of loading a file

Before a file is read it is asked whether something is at the end of its path, and whether that is
a regular file; each question can fail in its own way, and so can the reading.  This module shows
that the answers add up: for every path exactly one thing becomes of loading the file at it, which
is told by where the path leads.  That the path leads nowhere is one failure, that it cannot be
followed another, and whatever fails, it is the path as given that is named.

The file system is any that changes lead to, because it takes a tree for the end of a path to be
something that is there.

## Main Definitions

* `IsPath`, `FileSystem.Reaches`: how far a path can be followed
* `FileSystem.ClassifiesPath`: why a path leads nowhere
* `FileSystem.ClassifiesLoad`: what becomes of loading a file

## Main Results

* `FileSystem.classifiesPath`, `FileSystem.load_classified`

## Design Notes

**In terms of `Leads`.**  All that is claimed of loading is said with the relation that tells where
a path leads, and none of it mentions how paths are resolved.  `Loads` lists the five outcomes with
their reasons; that a path has one of them is `IsTree.loads`, and since `Leads` is unique each
outcome excludes the others.  The structure `ClassifiesLoad` is then read off by cases.

**Two questions before reading.**  The program asks whether the path exists and whether it is a
file, and each asks the file system anew.  In a file system that does not change in between they
agree, and the lemmas `load_of_...` evaluate all three at once.
-/

namespace JsxDetect

/-- What the system takes for a path. -/
structure IsPath (path : Bytes) : Prop where
  noNull : 0 ∉ path
  nonempty : path ≠ []
  short : path.length < Path.maxPath

namespace FileSystem

/-- A path is followed as far as a position, with no more links than allowed. -/
def Reaches (fs : FileSystem) (path : Bytes) (p : Position) : Prop :=
  IsPath path ∧ ∃ links ≤ Path.maxLinks,
    fs.Goes links ⟨Path.steps path, start path fs.current⟩ p

/-- Why a path leads nowhere, for each reason there is. -/
structure ClassifiesPath (fs : FileSystem) (path : Bytes) : Prop where
  /-- It is empty, or an entry is missing on the way or at the end, also one that a link names. -/
  notFound : fs.Leads path (.error .notFound) ↔ path = [] ∨ ∃ name rest here,
    fs.Reaches path ⟨name :: rest, here⟩ ∧ fs.isDirectory here = true ∧ IsEntryName name ∧
      fs.node? (name :: here) = none
  /-- There are names left behind what is no directory. -/
  notDirectory : fs.Leads path (.error .notDirectory) ↔ ∃ name rest here,
    fs.Reaches path ⟨name :: rest, here⟩ ∧ fs.isDirectory here = false
  /-- There are more links on the way than may be followed. -/
  tooManyLinks : fs.Leads path (.error .tooManyLinks) ↔ IsPath path ∧ ∃ p,
    fs.Goes (Path.maxLinks + 1) ⟨Path.steps path, start path fs.current⟩ p
  /-- So it is if the links lead back to themselves. -/
  cycle : ∀ (links more : Nat) (left rest : List Name) (here : Trail), IsPath path →
    fs.Goes links ⟨Path.steps path, start path fs.current⟩ ⟨left, here⟩ →
    fs.Goes (more + 1) ⟨left, here⟩ ⟨left ++ rest, here⟩ → fs.Leads path (.error .tooManyLinks)
  /-- It is too long, or a name is that is looked up. -/
  nameTooLong : fs.Leads path (.error .nameTooLong) ↔ (0 ∉ path ∧ Path.maxPath ≤ path.length) ∨
    ∃ name rest here, fs.Reaches path ⟨name :: rest, here⟩ ∧ fs.isDirectory here = true ∧
      name ≠ Path.dot ∧ name ≠ Path.dotDot ∧ Path.maxName < name.length
  /-- It has a null byte. -/
  nullInPath : fs.Leads path (.error .nullInPath) ↔ 0 ∈ path
  /-- There is no other reason. -/
  causes : ∀ cause, fs.Leads path (.error cause) →
    cause ∈ [OsError.notFound, .notDirectory, .tooManyLinks, .nameTooLong, .nullInPath]

end FileSystem

/-- The failure is one of loading the file at a path, which it names as it was given and shows
decoded; another cause than that nothing is there comes with it. -/
inductive Failure.OfLoading (path : Bytes) : Failure → Prop where
  | notFound (message : (Failure.notFound path).message =
      "File not found: " ++ String.ofList (Utf8.decodeLossy path)) : OfLoading path (.notFound path)
  | notAFile (message : (Failure.notAFile path).message =
      "Path is not a file: " ++ String.ofList (Utf8.decodeLossy path)) :
      OfLoading path (.notAFile path)
  | read (cause : OsError) (source : (Failure.read path cause).cause? = some cause.text)
      (message : (Failure.read path cause).message =
        "Failed to read " ++ String.ofList (Utf8.decodeLossy path) ++ ": " ++ cause.text) :
      OfLoading path (.read path cause)

namespace FileSystem

/-- What becomes of loading the file at a path. -/
structure ClassifiesLoad (fs : FileSystem) (path : Bytes) : Prop where
  /-- The path leads to one place, or it leads nowhere for one reason. -/
  leads : ∃ result, fs.Leads path result ∧ ∀ other, fs.Leads path other → other = result
  /-- Nothing is found exactly if the path leads nowhere because something is missing. -/
  notFound : (load fs.access path).result = .error (.notFound path) ↔
    fs.Leads path (.error .notFound)
  /-- Reading fails exactly if the path leads nowhere for another reason, or the content of the
  regular file that it leads to is not delivered. -/
  read : ∀ cause, (load fs.access path).result = .error (.read path cause) ↔
    (cause ≠ .notFound ∧ fs.Leads path (.error cause)) ∨
      ∃ trail, fs.Leads path (.ok trail) ∧ fs.node? trail = some (.unreadable cause)
  /-- There is no file exactly if the path leads to a directory, a pipe or a device. -/
  notAFile : (load fs.access path).result = .error (.notAFile path) ↔
    ∃ trail, fs.Leads path (.ok trail) ∧
      (fs.node? trail = some .directory ∨ fs.node? trail = some .special)
  /-- Otherwise the text is the decoded content of the regular file that the path leads to. -/
  content : ∀ text, (load fs.access path).result = .ok text ↔
    ∃ trail content, fs.Leads path (.ok trail) ∧ fs.node? trail = some (.file content) ∧
      text = Utf8.decodeLossy content
  /-- Whatever fails, the path is named as given, and nothing is reported. -/
  failure : ∀ failure, (load fs.access path).result = .error failure →
    failure.OfLoading path ∧ (load fs.access path).events = []

variable {fs : FileSystem} {path : Bytes} {trail : Trail}

/-! ### Why paths lead nowhere -/

theorem leads_of_stuck {p : Position} {cause : OsError} (reaches : fs.Reaches path p)
    (stuck : fs.Stuck p cause) : fs.Leads path (.error cause) := by
  obtain ⟨isPath, links, within, goes⟩ := reaches
  exact .followed isPath.noNull isPath.nonempty isPath.short (.ends goes within (.stuck stuck))

/-- A path leads nowhere because it is none, because it is stuck on the way, or because there are
too many links. -/
theorem leads_error_cases {cause : OsError} (leads : fs.Leads path (.error cause)) :
    (0 ∈ path ∧ cause = .nullInPath) ∨ (path = [] ∧ cause = .notFound) ∨
      (0 ∉ path ∧ Path.maxPath ≤ path.length ∧ cause = .nameTooLong) ∨
      (∃ p, fs.Reaches path p ∧ fs.Stuck p cause) ∨
      (cause = .tooManyLinks ∧ IsPath path ∧ ∃ p,
        fs.Goes (Path.maxLinks + 1) ⟨Path.steps path, start path fs.current⟩ p) := by
  cases leads with
  | nullByte null => exact .inl ⟨null, rfl⟩
  | empty empty => exact .inr (.inl ⟨empty, rfl⟩)
  | tooLong noNull long => exact .inr (.inr (.inl ⟨noNull, long, rfl⟩))
  | followed noNull nonempty short comes =>
    have isPath : IsPath path := ⟨noNull, nonempty, short⟩
    cases comes with
    | ends goes within ends =>
      cases ends with
      | stuck stuck => exact .inr (.inr (.inr (.inl ⟨_, ⟨isPath, _, within, goes⟩, stuck⟩)))
    | tooManyLinks goes => exact .inr (.inr (.inr (.inr ⟨rfl, isPath, _, goes⟩)))

theorem Stuck.ne_tooManyLinks {p : Position} {cause : OsError} (stuck : fs.Stuck p cause) :
    cause ≠ .tooManyLinks ∧ cause ≠ .nullInPath := by
  cases stuck <;> exact ⟨nofun, nofun⟩

/-- **Why a path leads nowhere**, for each reason and every path.  The file system need not be a
tree for this, as nothing is said of where other paths lead. -/
theorem classifiesPath (fs : FileSystem) (path : Bytes) : fs.ClassifiesPath path where
  notFound := by
    constructor
    · intro leads
      rcases leads_error_cases leads with
        ⟨-, same⟩ | ⟨empty, -⟩ | ⟨-, -, same⟩ | ⟨p, reaches, stuck⟩ | ⟨same, -⟩
      · cases same
      · exact .inl empty
      · cases same
      · cases stuck with
        | notFound inside isEntry missing =>
          exact .inr ⟨_, _, _, reaches, inside, isEntry, missing⟩
      · cases same
    · rintro (empty | ⟨name, rest, here, reaches, inside, isEntry, missing⟩)
      · exact .empty empty
      · exact leads_of_stuck reaches (.notFound inside isEntry missing)
  notDirectory := by
    constructor
    · intro leads
      rcases leads_error_cases leads with
        ⟨-, same⟩ | ⟨-, same⟩ | ⟨-, -, same⟩ | ⟨p, reaches, stuck⟩ | ⟨same, -⟩
      · cases same
      · cases same
      · cases same
      · cases stuck with
        | notDirectory outside => exact ⟨_, _, _, reaches, outside⟩
      · cases same
    · rintro ⟨name, rest, here, reaches, outside⟩
      exact leads_of_stuck reaches (.notDirectory outside)
  tooManyLinks := by
    constructor
    · intro leads
      rcases leads_error_cases leads with
        ⟨-, same⟩ | ⟨-, same⟩ | ⟨-, -, same⟩ | ⟨p, reaches, stuck⟩ | ⟨-, isPath, walk⟩
      · cases same
      · cases same
      · cases same
      · exact absurd rfl stuck.ne_tooManyLinks.1
      · exact ⟨isPath, walk⟩
    · rintro ⟨isPath, p, walk⟩
      exact .followed isPath.noNull isPath.nonempty isPath.short (.tooManyLinks walk)
  cycle links more left rest here isPath goes cycle :=
    .followed isPath.noNull isPath.nonempty isPath.short (comesTo_of_cycle goes cycle)
  nameTooLong := by
    constructor
    · intro leads
      rcases leads_error_cases leads with
        ⟨-, same⟩ | ⟨-, same⟩ | ⟨noNull, long, -⟩ | ⟨p, reaches, stuck⟩ | ⟨same, -⟩
      · cases same
      · cases same
      · exact .inl ⟨noNull, long⟩
      · cases stuck with
        | nameTooLong inside not_dot not_dotDot long =>
          exact .inr ⟨_, _, _, reaches, inside, not_dot, not_dotDot, long⟩
      · cases same
    · rintro (⟨noNull, long⟩ | ⟨name, rest, here, reaches, inside, not_dot, not_dotDot, long⟩)
      · exact .tooLong noNull long
      · exact leads_of_stuck reaches (.nameTooLong inside not_dot not_dotDot long)
  nullInPath := by
    refine ⟨fun leads => ?_, .nullByte⟩
    rcases leads_error_cases leads with
      ⟨null, -⟩ | ⟨-, same⟩ | ⟨-, -, same⟩ | ⟨p, -, stuck⟩ | ⟨same, -⟩
    · exact null
    · cases same
    · cases same
    · exact absurd rfl stuck.ne_tooManyLinks.2
    · cases same
  causes cause leads := by
    rcases leads_error_cases leads with
      ⟨-, rfl⟩ | ⟨-, rfl⟩ | ⟨-, -, rfl⟩ | ⟨p, -, stuck⟩ | ⟨rfl, -⟩
    · simp
    · simp
    · simp
    · cases stuck <;> simp
    · simp

/-! ### Loading -/

/-- If something is missing, then the file is not found. -/
theorem load_of_notFound (leads : fs.Leads path (.error .notFound)) :
    load fs.access path = ⟨.error (.notFound path), []⟩ := by
  have failed : fs.metadata path = .error .notFound := by
    unfold metadata
    rw [leads_iff.mp leads]
    rfl
  unfold load
  rw [access_of_error failed]

/-- If the path cannot be followed for another reason, then reading fails with it. -/
theorem load_of_error {cause : OsError} (other : cause ≠ .notFound)
    (leads : fs.Leads path (.error cause)) :
    load fs.access path = ⟨.error (.read path cause), []⟩ := by
  have failed : fs.metadata path = .error cause := by
    unfold metadata
    rw [leads_iff.mp leads]
    rfl
  unfold load
  rw [access_of_error failed]
  split
  · next same => cases same; exact absurd rfl other
  · next same => cases same; rfl
  · next same => cases same
  · next same => cases same
  · next same => cases same

theorem load_of_unreadable {cause : OsError} (leads : fs.Leads path (.ok trail))
    (there : fs.node? trail = some (.unreadable cause)) :
    load fs.access path = ⟨.error (.read path cause), []⟩ := by
  unfold load
  rw [access_of_metadata (metadata_of_resolve (leads_iff.mp leads) there)]
  rfl

/-- If there is something other than a regular file, then it is not read. -/
theorem load_of_notAFile (leads : fs.Leads path (.ok trail))
    (there : fs.node? trail = some .directory ∨ fs.node? trail = some .special) :
    load fs.access path = ⟨.error (.notAFile path), []⟩ := by
  unfold load
  rcases there with there | there
  · rw [access_of_metadata (metadata_of_resolve (leads_iff.mp leads) there)]
    rfl
  · rw [access_of_metadata (metadata_of_resolve (leads_iff.mp leads) there)]
    rfl

theorem load_of_file {content : Bytes} (leads : fs.Leads path (.ok trail))
    (there : fs.node? trail = some (.file content)) :
    (load fs.access path).result = .ok (Utf8.decodeLossy content) := by
  unfold load
  rw [access_of_content (leads_iff.mp leads) there]
  exact decodeFile_result path content

/-- What becomes of loading a file, with where its path leads. -/
inductive Loads (fs : FileSystem) (path : Bytes) : Except Failure (List Char) → Prop where
  | notFound (leads : fs.Leads path (.error .notFound)) : Loads fs path (.error (.notFound path))
  | error (cause : OsError) (other : cause ≠ .notFound) (leads : fs.Leads path (.error cause)) :
      Loads fs path (.error (.read path cause))
  | unreadable (trail : Trail) (cause : OsError) (leads : fs.Leads path (.ok trail))
      (there : fs.node? trail = some (.unreadable cause)) : Loads fs path (.error (.read path cause))
  | notAFile (trail : Trail) (leads : fs.Leads path (.ok trail))
      (there : fs.node? trail = some .directory ∨ fs.node? trail = some .special) :
      Loads fs path (.error (.notAFile path))
  | file (trail : Trail) (content : Bytes) (leads : fs.Leads path (.ok trail))
      (there : fs.node? trail = some (.file content)) :
      Loads fs path (.ok (Utf8.decodeLossy content))

/-- In a tree, every path has one of these ends. -/
theorem IsTree.loads (tree : fs.IsTree) (path : Bytes) :
    fs.Loads path (load fs.access path).result := by
  have leads := leads_resolve fs path
  cases found : fs.resolve path with
  | error cause =>
    rw [found] at leads
    by_cases missing : cause = .notFound
    · subst missing
      rw [load_of_notFound leads]
      exact .notFound leads
    · rw [load_of_error missing leads]
      exact .error cause missing leads
  | ok trail =>
    rw [found] at leads
    obtain ⟨node, there, noLink⟩ := tree.occupied leads
    cases node with
    | directory =>
      rw [load_of_notAFile leads (.inl there)]
      exact .notAFile trail leads (.inl there)
    | file content =>
      rw [load_of_file leads there]
      exact .file trail content leads there
    | unreadable cause =>
      rw [load_of_unreadable leads there]
      exact .unreadable trail cause leads there
    | special =>
      rw [load_of_notAFile leads (.inr there)]
      exact .notAFile trail leads (.inr there)
    | link target => exact absurd rfl (noLink target)

/-- In a tree the outcomes are told by where the path leads. -/
theorem IsTree.classifiesLoad (tree : fs.IsTree) (path : Bytes) : fs.ClassifiesLoad path := by
  -- Each field is read off where the path leads, which the result determines.
  have loads := tree.loads path
  refine ⟨⟨_, leads_resolve fs path, fun _ leads => leads.unique (leads_resolve fs path)⟩,
    ⟨fun result => ?notFound, fun leads => by rw [load_of_notFound leads]⟩,
    fun cause => ⟨fun result => ?read, ?readOf⟩,
    ⟨fun result => ?notAFile, fun ⟨_, leads, there⟩ => by rw [load_of_notAFile leads there]⟩,
    fun text => ⟨fun result => ?content, ?contentOf⟩, fun failure result => ⟨?named, ?silent⟩⟩
  case notFound =>
    rw [result] at loads
    cases loads with
    | notFound leads => exact leads
  case read =>
    rw [result] at loads
    cases loads with
    | error _ other leads => exact .inl ⟨other, leads⟩
    | unreadable trail _ leads there => exact .inr ⟨trail, leads, there⟩
  case readOf =>
    rintro (⟨other, leads⟩ | ⟨trail, leads, there⟩)
    · rw [load_of_error other leads]
    · rw [load_of_unreadable leads there]
  case notAFile =>
    rw [result] at loads
    cases loads with
    | notAFile trail leads there => exact ⟨trail, leads, there⟩
  case content =>
    rw [result] at loads
    cases loads with
    | file trail content leads there => exact ⟨trail, content, leads, there, rfl⟩
  case contentOf =>
    rintro ⟨trail, content, leads, there, rfl⟩
    exact load_of_file leads there
  case named =>
    rw [result] at loads
    cases loads with
    | notFound => exact .notFound rfl
    | error cause => exact .read cause rfl rfl
    | unreadable _ cause => exact .read cause rfl rfl
    | notAFile => exact .notAFile rfl
  case silent =>
    rw [result] at loads
    cases loads with
    | notFound leads => rw [load_of_notFound leads]
    | error _ other leads => rw [load_of_error other leads]
    | unreadable _ _ leads there => rw [load_of_unreadable leads there]
    | notAFile _ leads there => rw [load_of_notAFile leads there]

/-- **What becomes of loading a file is told by where its path leads**, whatever happened to the
file system before. -/
theorem load_classified {origin : FileSystem} (tree : origin.IsTree)
    (reachable : Reachable origin fs) (path : Bytes) :
    fs.ClassifiesPath path ∧ fs.ClassifiesLoad path :=
  ⟨classifiesPath fs path, (tree.reachable reachable).classifiesLoad path⟩

/-- The working directory with two links that name each other. -/
def twoLinks : FileSystem :=
  ((standard.apply (.makeLink (Utf8.encodeString "there") (Utf8.encodeString "back"))).1.apply
    (.makeLink (Utf8.encodeString "back") (Utf8.encodeString "there"))).1

/-- Two links that name each other, and what becomes of loading the file at one of them. -/
theorem load_twoLinks : standard.IsTree ∧ Reachable standard twoLinks ∧
    (load twoLinks.access (Utf8.encodeString "there")).result =
      .error (.read (Utf8.encodeString "there") .tooManyLinks) := by
  have reachable : Reachable standard twoLinks := .step _ (.step _ .origin)
  obtain ⟨-, classified⟩ := load_classified isTree_standard reachable
    (Utf8.encodeString "there")
  refine ⟨isTree_standard, reachable, (classified.read .tooManyLinks).mpr (.inl ⟨nofun, ?_⟩)⟩
  exact leads_iff.mpr rfl

end FileSystem

end JsxDetect
