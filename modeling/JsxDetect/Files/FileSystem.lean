import JsxDetect.Files.Access
import JsxDetect.Text.Pieces

/-!
# File systems

A file system is a list of what there is at which place.  A place is the list of the names on
the way to it, innermost first, so that the parent of a place is its tail.

Paths are followed name by name.  A symbolic link puts the names of its target in front of
those that are left; how many links may be followed is bounded, which is what makes following
a path terminate.

## Main Definitions

* `Node`, `Trail`, `FileSystem`
* `FileSystem.follow`, `FileSystem.resolve`
* `FileSystem.metadata`, `FileSystem.tryExists`: what is asked before a file is read
* `FileSystem.access`: what becomes of reading the file at a path

## Design Notes

Loading a file asks three questions, each by path, and each can fail by itself.  The model answers
them by the same resolution of paths, so that they agree on a file system that does not change
between them; that it does not is assumed.  Limits on names, paths and links are those of Linux.
-/

namespace JsxDetect

/-- A name in a directory. -/
abbrev Name := Bytes

/-- The names on the way to a place, innermost first. -/
abbrev Trail := List Name

/-- What there is at a place. -/
inductive Node where
  | directory
  | file (content : Bytes)
  /-- A regular file whose content the system fails to deliver. -/
  | unreadable (cause : OsError)
  /-- A pipe or a device. -/
  | special
  | link (target : Bytes)
  deriving Repr, DecidableEq

/-- The content of a regular file, which the system may fail to deliver. -/
def Node.content? : Node → Option (Except OsError Bytes)
  | file content => some (.ok content)
  | unreadable cause => some (.error cause)
  | _ => none

/-- What there is, and where one is. -/
structure FileSystem where
  /-- What there is at each place but the root, which is a directory. -/
  nodes : List (Trail × Node)
  /-- The place from which relative paths start. -/
  current : Trail
  deriving Repr, DecidableEq

/-! ### Paths -/

namespace Path

/-- The byte between names. -/
def slash : UInt8 := 0x2F

/-- The name of a directory within itself. -/
def dot : Name := [0x2E]

/-- The name of its parent within a directory. -/
def dotDot : Name := [0x2E, 0x2E]

/-- The names of a path. -/
def names (path : Bytes) : List Name := (pieces slash path).filter (!·.isEmpty)

/-- Does the path start at the root? -/
def absolute (path : Bytes) : Bool := path.head? = some slash

/-- Does the path end in a slash? -/
def trailing (path : Bytes) : Bool := path.getLast? = some slash

/-- The steps that a path asks for: its names and, if it ends in a slash, a step to where it has
led, which is possible for a directory only. -/
def steps (path : Bytes) : List Name := if trailing path then names path ++ [dot] else names path

/-- The longest name. -/
def maxName : Nat := 255

/-- The length from which on a path is refused. -/
def maxPath : Nat := 4096

/-- How many links may be followed. -/
def maxLinks : Nat := 40

/-- Refuses what is no path. -/
def check (path : Bytes) : Except OsError Unit :=
  if path.contains 0 then .error .nullInPath
  else if path.isEmpty then .error .notFound
  else if path.length ≥ maxPath then .error .nameTooLong
  else .ok ()

end Path

/-- Where a path leads. -/
inductive Place where
  /-- To something that is there. -/
  | taken (trail : Trail)
  /-- To nothing, but its directory is there. -/
  | free (trail : Trail)
  deriving Repr, DecidableEq

namespace FileSystem

/-- What there is at a place. -/
def node? (fs : FileSystem) (trail : Trail) : Option Node :=
  if trail = [] then some .directory else fs.nodes.lookup trail

/-- Is there a directory at a place? -/
def isDirectory (fs : FileSystem) (trail : Trail) : Bool :=
  fs.node? trail = some .directory

/-- The place from which a path starts that is read in a directory. -/
def start (path : Bytes) (here : Trail) : Trail := if Path.absolute path then [] else here

/-- Takes the steps of a path up to the first link, which `link` is asked to follow: it is given
its target, the steps that are left and the directory of the link. -/
def walk (fs : FileSystem) (link : Bytes → List Name → Trail → Except OsError Place) :
    List Name → Trail → Except OsError Place
  | [], here => .ok (.taken here)
  | name :: rest, here =>
    if !fs.isDirectory here then .error .notDirectory
    else if name = Path.dot then walk fs link rest here
    else if name = Path.dotDot then walk fs link rest here.tail
    else if name.length > Path.maxName then .error .nameTooLong
    else match fs.node? (name :: here) with
      | none => if rest = [] then .ok (.free (name :: here)) else .error .notFound
      | some (.link target) => link target rest here
      | some _ => walk fs link rest (name :: here)

/-- Takes the steps of a path and follows as many links as allowed. -/
def follow (fs : FileSystem) : Nat → List Name → Trail → Except OsError Place
  | 0 => fs.walk fun _ _ _ => .error .tooManyLinks
  | links + 1 => fs.walk fun target rest here =>
    follow fs links (Path.steps target ++ rest) (start target here)

/-- Where a path leads. -/
def place (fs : FileSystem) (path : Bytes) : Except OsError Place := do
  Path.check path
  fs.follow Path.maxLinks (Path.steps path) (start path fs.current)

/-- What a path leads to. -/
def resolve (fs : FileSystem) (path : Bytes) : Except OsError Trail := do
  match ← fs.place path with
  | .taken trail => .ok trail
  | .free _ => .error .notFound

/-- What there is at the end of a path. -/
def metadata (fs : FileSystem) (path : Bytes) : Except OsError Node := do
  match fs.node? (← fs.resolve path) with
  | some node => .ok node
  | none => .error .notFound

/-- Is there something at the end of a path?  Only that it leads nowhere means that there is not;
to be unable to tell is an error. -/
def tryExists (fs : FileSystem) (path : Bytes) : Except OsError Bool :=
  match fs.metadata path with
  | .ok _ => .ok true
  | .error .notFound => .ok false
  | .error cause => .error cause

/-- What becomes of reading the file at a path: it is asked whether something is there, then
whether that is a regular file, then for its content. -/
def access (fs : FileSystem) (path : Bytes) : Access :=
  match fs.tryExists path with
  | .error cause => .refused cause
  | .ok false => .refused .notFound
  | .ok true =>
    match fs.metadata path with
    | .error cause => .unreadable cause
    | .ok node =>
      match node.content? with
      | none => .notAFile
      | some (.error cause) => .unreadable cause
      | some (.ok content) => .content content

section Access

variable {fs : FileSystem} {path : Bytes} {trail : Trail} {node : Node} {cause : OsError}

theorem metadata_of_resolve (leads : fs.resolve path = .ok trail)
    (there : fs.node? trail = some node) : fs.metadata path = .ok node := by
  unfold metadata
  rw [leads]
  simp only [bind, Except.bind, there]

/-- The three questions agree on paths that lead nowhere. -/
theorem access_of_error (failed : fs.metadata path = .error cause) :
    fs.access path = .refused cause := by
  unfold access tryExists
  rw [failed]
  cases cause <;> rfl

theorem access_of_metadata (there : fs.metadata path = .ok node) :
    fs.access path = match node.content? with
      | none => .notAFile
      | some (.error cause) => .unreadable cause
      | some (.ok content) => .content content := by
  unfold access tryExists
  rw [there]

theorem access_of_content {content : Bytes} (leads : fs.resolve path = .ok trail)
    (there : fs.node? trail = some (.file content)) : fs.access path = .content content :=
  access_of_metadata (metadata_of_resolve leads there)

end Access

end FileSystem

end JsxDetect
