import JsxDetect.Files.FileSystem

/-!
# Changes of a file system

What can happen to a file system before a file of it is read.

## Main Definitions

* `Change`
* `FileSystem.apply`: a file system after a change
* `FileSystem.Reachable`: what changes lead to
* `FileSystem.standard`: the file system to begin with
-/

namespace JsxDetect

/-- A change of a file system. -/
inductive Change where
  /-- Stores a file, in place of one that may be there. -/
  | write (path content : Bytes)
  /-- Makes a directory, with those it is in. -/
  | makeDirectory (path : Bytes)
  /-- Makes a symbolic link. -/
  | makeLink (path target : Bytes)
  /-- Makes a pipe. -/
  | makePipe (path : Bytes)
  /-- Removes what is no directory. -/
  | remove (path : Bytes)
  | rename (path target : Bytes)
  deriving Repr, DecidableEq

namespace FileSystem

/-! ### Entries of directories -/

/-- Puts something at a place. -/
def put (fs : FileSystem) (trail : Trail) (node : Node) : FileSystem :=
  { fs with nodes := (trail, node) :: fs.nodes.filter (·.1 ≠ trail) }

/-- Takes away what is at a place. -/
def erase (fs : FileSystem) (trail : Trail) : FileSystem :=
  { fs with nodes := fs.nodes.filter (·.1 ≠ trail) }

/-- Is a place below another, or the same? -/
def below (trail outer : Trail) : Bool := outer.isSuffixOf trail

/-- Where a place is when what is at `source` has moved to `target`. -/
def relocate (source target trail : Trail) : Trail :=
  if below trail source then trail.take (trail.length - source.length) ++ target else trail

/-- Moves what is at a place, with all that is below it, in place of what is at another. -/
def move (fs : FileSystem) (source target : Trail) : FileSystem where
  nodes := (fs.nodes.filter (·.1 ≠ target)).map fun (trail, node) =>
    (relocate source target trail, node)
  current := relocate source target fs.current

/-- Is there nothing in a directory? -/
def vacant (fs : FileSystem) (trail : Trail) : Bool :=
  fs.nodes.all fun (inner, _) => inner = trail || !below inner trail

/-- An entry of a directory, as the last name of a path tells it. -/
structure Entry where
  trail : Trail
  /-- Did the path end in a slash? -/
  trailing : Bool

/-- The entry that a path names.  Its last name is not followed; `special` is the answer if the
last name is none that an entry can have. -/
def entry (fs : FileSystem) (path : Bytes) (special : OsError) : Except OsError Entry := do
  Path.check path
  let names := Path.names path
  match names.getLast? with
  | none => .error special
  | some name =>
    match ← fs.follow Path.maxLinks names.dropLast (start path fs.current) with
    | .free _ => .error .notFound
    | .taken directory =>
      if !fs.isDirectory directory then .error .notDirectory
      else if name = Path.dot ∨ name = Path.dotDot then .error special
      else .ok ⟨name :: directory, Path.trailing path⟩

/-- What there is at an entry, if its name is one that there can be. -/
def look (fs : FileSystem) (entry : Entry) : Except OsError (Option Node) :=
  if entry.trail.head?.any (·.length > Path.maxName) then .error .nameTooLong
  else .ok (fs.node? entry.trail)

/-- Puts something where nothing is. -/
def create (fs : FileSystem) (path : Bytes) (node : Node) : Except OsError FileSystem := do
  let entry ← fs.entry path .alreadyThere
  if (← fs.look entry).isSome then .error .alreadyThere
  else if entry.trailing && node ≠ .directory then .error .notFound
  else .ok (fs.put entry.trail node)

/-! ### The changes -/

/-- Stores a file. -/
def write (fs : FileSystem) (path content : Bytes) : Except OsError FileSystem := do
  if Path.trailing path then
    let _ ← fs.entry path .isDirectory
    .error .isDirectory
  else match ← fs.place path with
    | .free trail => .ok (fs.put trail (.file content))
    | .taken trail =>
      match fs.node? trail with
      | some (.file _) => .ok (fs.put trail (.file content))
      | some .directory => .error .isDirectory
      | _ => .ok fs

/-- Does a path lead to a directory? -/
def leadsToDirectory (fs : FileSystem) (path : Bytes) : Bool :=
  match fs.resolve path with
  | .ok trail => fs.isDirectory trail
  | .error _ => false

/-- The path of some names, innermost first. -/
def pathOf (absolute : Bool) (names : List Name) : Bytes :=
  let relative := List.intercalate [Path.slash] names.reverse
  if absolute then Path.slash :: relative else relative

/-- The names of a path, innermost first, without those that lead nowhere else. -/
def properNames (path : Bytes) : List Name :=
  match Path.absolute path, Path.names path with
  | false, first :: rest => (first :: rest.filter (· ≠ Path.dot)).reverse
  | _, names => (names.filter (· ≠ Path.dot)).reverse

/-- The paths of the directories that a path of some names is in, the innermost first. -/
def outerPaths (absolute : Bool) : List Name → List Bytes
  | [] | [_] => []
  | _ :: outer => pathOf absolute outer :: outerPaths absolute outer

/-- Makes a directory, unless there is one. -/
def makeDirectory (fs : FileSystem) (path : Bytes) : Except OsError FileSystem :=
  match fs.create path .directory with
  | .error cause => if fs.leadsToDirectory path then .ok fs else .error cause
  | made => made

/-- Makes the first of some directories; where its parent is missing, the others first.  What was
made stays when the next one fails. -/
def makeDirectories : List Bytes → FileSystem → FileSystem × Option OsError
  | [], fs => (fs, none)
  | path :: outer, fs =>
    match fs.makeDirectory path with
    | .ok made => (made, none)
    | .error .notFound =>
      match makeDirectories outer fs with
      | (made, some cause) => (made, some cause)
      | (made, none) =>
        match made.makeDirectory path with
        | .ok later => (later, none)
        | .error cause => (made, some cause)
    | .error cause => (fs, some cause)

/-- Makes a symbolic link. -/
def makeLink (fs : FileSystem) (path target : Bytes) : Except OsError FileSystem := do
  if path.contains 0 then .error .nullInPath
  Path.check target
  fs.create path (.link target)

/-- Removes what is no directory. -/
def remove (fs : FileSystem) (path : Bytes) : Except OsError FileSystem := do
  let entry ← fs.entry path .isDirectory
  match ← fs.look entry with
  | none => .error .notFound
  | some .directory => .error .isDirectory
  | some _ => if entry.trailing then .error .notDirectory else .ok (fs.erase entry.trail)

/-- The entries that a change of a name is about.  That the old path has a last name that no entry
can have is told only if nothing else is wrong. -/
def entriesOf (fs : FileSystem) (path target : Bytes) : Except OsError (Entry × Entry) :=
  if path.contains 0 || target.contains 0 then .error .nullInPath
  else match fs.entry path .busy, fs.entry target .busy with
    | .ok source, .ok goal => .ok (source, goal)
    | .error .busy, .error cause => .error cause
    | .error cause, _ => .error cause
    | .ok _, .error cause => .error cause

/-- Gives something another name. -/
def rename (fs : FileSystem) (path target : Bytes) : Except OsError FileSystem := do
  let (source, goal) ← fs.entriesOf path target
  match ← fs.look source with
  | none => .error .notFound
  | some node =>
    let old ← fs.look goal
    if node ≠ .directory && (source.trailing || goal.trailing) then .error .notDirectory
    else if source.trail = goal.trail then .ok fs
    else if below goal.trail source.trail then .error .invalidArgument
    else if below source.trail goal.trail then .error .notEmpty
    else if node = .directory && old.isSome && old ≠ some .directory then .error .notDirectory
    else if node ≠ .directory && old = some .directory then .error .isDirectory
    else if !fs.vacant goal.trail then .error .notEmpty
    else .ok (fs.move source.trail goal.trail)

/-- A file system after an attempt, which changes nothing when it fails. -/
def attempt (fs : FileSystem) : Except OsError FileSystem → FileSystem × Option OsError
  | .ok later => (later, none)
  | .error cause => (fs, some cause)

/-- A file system after a change, and why the change failed if it did. -/
def apply (fs : FileSystem) : Change → FileSystem × Option OsError
  | .write path content => fs.attempt (fs.write path content)
  | .makeDirectory path =>
    if path.isEmpty then (fs, none)
    else makeDirectories (path :: outerPaths (Path.absolute path) (properNames path)) fs
  | .makeLink path target => fs.attempt (fs.makeLink path target)
  | .makePipe path => fs.attempt (fs.create path .special)
  | .remove path => fs.attempt (fs.remove path)
  | .rename path target => fs.attempt (fs.rename path target)

/-! ### Where to begin -/

/-- What changes lead to. -/
inductive Reachable (origin : FileSystem) : FileSystem → Prop where
  | origin : Reachable origin origin
  | step {fs : FileSystem} (change : Change) :
    Reachable origin fs → Reachable origin (fs.apply change).1

/-- The place of some names, outermost first. -/
def trailOf (names : List String) : Trail := names.reverse.map Utf8.encodeString

/-- The file system to begin with: an empty directory for work, and the usual devices. -/
def standard : FileSystem where
  nodes :=
    [(trailOf ["tmp", "work"], .directory),
      (trailOf ["tmp"], .directory),
      (trailOf ["dev", "null"], .special),
      (trailOf ["dev", "zero"], .special),
      (trailOf ["dev", "full"], .special),
      (trailOf ["dev", "random"], .special),
      (trailOf ["dev", "urandom"], .special),
      (trailOf ["dev", "tty"], .special),
      (trailOf ["dev"], .directory),
      (trailOf ["proc", "self", "mem"], .unreadable .inputOutput),
      (trailOf ["proc", "self"], .directory),
      (trailOf ["proc"], .directory),
      (trailOf ["bin"], .directory),
      (trailOf ["etc"], .directory),
      (trailOf ["home"], .directory),
      (trailOf ["root"], .directory),
      (trailOf ["usr", "bin"], .directory),
      (trailOf ["usr", "lib"], .directory),
      (trailOf ["usr"], .directory),
      (trailOf ["var"], .directory)]
  current := trailOf ["tmp", "work"]

end FileSystem

end JsxDetect
