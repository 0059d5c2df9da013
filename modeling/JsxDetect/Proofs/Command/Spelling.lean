import JsxDetect.Proofs.Command.Readings
import Mathlib.Data.List.Nodup

/-!
# Spellings of requests

How the arguments of a call are written down when they ask for a run: items in any order, each of
them an option or a cluster of options with their values or a text, then perhaps two dashes and
texts.  A spelling gives something to the request, and what it gives means one request.

## Main Definitions

* `Item`, `Spelling`: what arguments are written down from
* `Spelling.WellFormed`: which spellings there are
* `Means`: the request that is meant

## Main Results

* `Reading.HasTaken.means`: what a reading has taken is what is meant
* `Means.unique`: nothing else is meant

## Design Notes

The grammar is given by its derivations: a `Spelling` is a list of items as data, `words` writes it
down, and `given` is what it gives.  Nothing is parsed in this module.  That `Means` determines a
request is `Means.unique`, and it would not be so without `Admissible`, as of two files given either
could be meant.
-/

namespace JsxDetect

/-! ### Spellings -/

/-- An option without a value. -/
inductive Flag where
  | verbose
  | quiet
  deriving Repr, DecidableEq

namespace Flag

/-- What the option gives. -/
def given : Flag → Given
  | verbose => .verbose
  | quiet => .quiet

/-- Its letter, `v` or `q`. -/
def letter : Flag → UInt8
  | verbose => 0x76
  | quiet => 0x71

/-- Its name. -/
def name : Flag → String
  | verbose => "verbose"
  | quiet => "quiet"

theorem value?_given (flag : Flag) : flag.given.value? = none := by cases flag <;> rfl

end Flag

/-- What is no option: a single dash, or what does not start with a dash. -/
def IsPlain (bytes : Bytes) : Prop := bytes = [Reading.dash] ∨ bytes.head? ≠ some Reading.dash

/-- A path behind a letter, of which one leading equals sign is dropped. -/
def behindLetter (bytes : Bytes) : Bytes :=
  if bytes.head? = some Reading.equals then bytes.tail else bytes

/-- What is written down at once. -/
inductive Item where
  /-- A long option: `--verbose` or `--quiet`. -/
  | flag (option : Flag)
  /-- A cluster of letters: `-vq`. -/
  | cluster (flags : List Flag)
  /-- A cluster that ends in a path: `-vqfPATH` or `-vqf=PATH`. -/
  | attached (flags : List Flag) (behind : Bytes)
  /-- A cluster and the path that it asks for: `-vqf PATH`. -/
  | detached (flags : List Flag) (path : Bytes)
  /-- A long option and its path: `--file=PATH`. -/
  | longAttached (path : Bytes)
  /-- A long option and the path that it asks for: `--file PATH`. -/
  | longDetached (path : Bytes)
  /-- A text to look at. -/
  | positional (text : Bytes)
  deriving Repr, DecidableEq

namespace Item

/-- A cluster has some letter, a path behind a letter some byte, and what stands alone cannot be
taken for an option. -/
def WellFormed : Item → Prop
  | cluster flags => flags ≠ []
  | attached _ behind => behind ≠ []
  | detached _ path => IsPlain path
  | longDetached path => IsPlain path
  | positional text => IsPlain text
  | _ => True

/-- The letters of some flags. -/
def letters (flags : List Flag) : Bytes := flags.map Flag.letter

/-- The arguments of an item. -/
def words : Item → List Bytes
  | flag option => [Reading.dash :: Reading.dash :: Utf8.encodeString option.name]
  | cluster flags => [Reading.dash :: letters flags]
  | attached flags behind => [Reading.dash :: letters flags ++ Reading.fileLetter :: behind]
  | detached flags path => [Reading.dash :: letters flags ++ [Reading.fileLetter], path]
  | longAttached path =>
    [Reading.dash :: Reading.dash :: Utf8.encodeString "file" ++ Reading.equals :: path]
  | longDetached path => [Reading.dash :: Reading.dash :: Utf8.encodeString "file", path]
  | positional text => [text]

/-- What an item gives. -/
def given : Item → List Given
  | flag option => [option.given]
  | cluster flags => flags.map Flag.given
  | attached flags behind => flags.map Flag.given ++ [.file (behindLetter behind)]
  | detached flags path => flags.map Flag.given ++ [.file path]
  | longAttached path => [.file path]
  | longDetached path => [.file path]
  | positional text => [.source text]

end Item

/-- How the arguments of a call are written down. -/
structure Spelling where
  items : List Item
  /-- The texts behind two dashes, if those are there. -/
  rest : Option (List Bytes)
  deriving Repr, DecidableEq

namespace Spelling

/-- The arguments. -/
def words (s : Spelling) : List Bytes :=
  s.items.flatMap Item.words ++ s.rest.elim [] ([Reading.dash, Reading.dash] :: ·)

/-- What is given by the arguments, in order. -/
def given (s : Spelling) : List Given :=
  s.items.flatMap Item.given ++ (s.rest.getD []).map .source

/-- All items are well formed, nothing is given twice, and all values are texts. -/
structure WellFormed (s : Spelling) : Prop where
  items : ∀ item ∈ s.items, item.WellFormed
  admissible : Admissible s.given

end Spelling

/-- The request is what is given. -/
structure Means (given : List Given) (request : Request) : Prop where
  verbose : request.verbose = true ↔ .verbose ∈ given
  quiet : request.quiet = true ↔ .quiet ∈ given
  file : ∀ path : String, request.file = some path ↔
    ∃ bytes, .file bytes ∈ given ∧ Utf8.decode? bytes = some path.toList
  source : ∀ text : String, request.source = some text ↔
    ∃ bytes, .source bytes ∈ given ∧ Utf8.decode? bytes = some text.toList

/-! ### What a reading means -/

section Meaning

variable {given : List Given}

/-- Of two values of one kind that are given, each is the other. -/
theorem Admissible.unique {g other : Given} (admissible : Admissible given) (mem : g ∈ given)
    (otherMem : other ∈ given) (same : g.argument = other.argument) : g = other :=
  List.inj_on_of_nodup_map admissible.once mem otherMem same

/-- A flag is given exactly if its kind is. -/
theorem flag_mem_iff {g : Given} (flag : g.value? = none) :
    g.argument ∈ given.map Given.argument ↔ g ∈ given := by
  refine ⟨fun mem => ?_, List.mem_map_of_mem⟩
  obtain ⟨other, mem, same⟩ := List.mem_map.mp mem
  cases g with
  | file => cases flag
  | source => cases flag
  | _ => cases other <;> first | exact mem | cases same

/-- The first value of a kind that is found is the only one. -/
theorem Admissible.findSome?_iff {f : Given → Option String} (admissible : Admissible given)
    (kind : Argument)
    (ofKind : ∀ g value, f g = some value → g.argument = kind) (value : String) :
    given.findSome? f = some value ↔ ∃ g ∈ given, f g = some value := by
  refine ⟨List.exists_of_findSome?_eq_some, ?_⟩
  rintro ⟨g, mem, found⟩
  have isSome : (given.findSome? f).isSome :=
    List.findSome?_isSome_iff.mpr ⟨g, mem, by rw [found]; rfl⟩
  obtain ⟨first, isFirst⟩ := Option.isSome_iff_exists.mp isSome
  obtain ⟨other, otherMem, otherFound⟩ := List.exists_of_findSome?_eq_some isFirst
  have same : other = g :=
    admissible.unique otherMem mem ((ofKind _ _ otherFound).trans (ofKind _ _ found).symm)
  rw [isFirst, ← otherFound, same, found]

/-- An item has a path exactly if it gives a file whose path is a text. -/
theorem path?_eq_some {g : Given} {path : String} : g.path? = some path ↔
    ∃ bytes, g = .file bytes ∧ Utf8.decode? bytes = some path.toList := by
  cases g with
  | file bytes =>
    have decoded : (Utf8.decode? bytes).map String.ofList = some path ↔
        Utf8.decode? bytes = some path.toList := by
      rw [Option.map_eq_some_iff]
      constructor
      · rintro ⟨text, found, rfl⟩
        rw [found, String.toList_ofList]
      · exact fun found => ⟨_, found, String.ofList_toList⟩
    simpa [Given.path?] using decoded
  | _ => simp [Given.path?]

theorem text?_eq_some {g : Given} {text : String} : g.text? = some text ↔
    ∃ bytes, g = .source bytes ∧ Utf8.decode? bytes = some text.toList := by
  cases g with
  | source bytes => exact path?_eq_some (g := .file bytes) |>.trans (by simp)
  | _ => simp [Given.text?]

/-- The path that is found is the one that was given. -/
theorem findSome?_path? (admissible : Admissible given) (path : String) :
    given.findSome? Given.path? = some path ↔
      ∃ bytes, .file bytes ∈ given ∧ Utf8.decode? bytes = some path.toList := by
  rw [admissible.findSome?_iff .file fun g value found => by
    obtain ⟨bytes, rfl, -⟩ := path?_eq_some.mp found
    rfl]
  simp only [path?_eq_some]
  constructor
  · rintro ⟨g, mem, bytes, rfl, decoded⟩
    exact ⟨bytes, mem, decoded⟩
  · rintro ⟨bytes, mem, decoded⟩
    exact ⟨_, mem, bytes, rfl, decoded⟩

/-- The text that is found is the one that was given. -/
theorem findSome?_text? (admissible : Admissible given) (text : String) :
    given.findSome? Given.text? = some text ↔
      ∃ bytes, .source bytes ∈ given ∧ Utf8.decode? bytes = some text.toList := by
  rw [admissible.findSome?_iff .source fun g value found => by
    obtain ⟨bytes, rfl, -⟩ := text?_eq_some.mp found
    rfl]
  simp only [text?_eq_some]
  constructor
  · rintro ⟨g, mem, bytes, rfl, decoded⟩
    exact ⟨bytes, mem, decoded⟩
  · rintro ⟨bytes, mem, decoded⟩
    exact ⟨_, mem, bytes, rfl, decoded⟩

/-- What a reading has taken is what is meant. -/
theorem Reading.HasTaken.means {r : Reading} (took : r.HasTaken given) : Means given r.request where
  verbose := by
    rw [← flag_mem_iff (g := .verbose) rfl, ← took.used]
    exact List.contains_iff_mem
  quiet := by
    rw [← flag_mem_iff (g := .quiet) rfl, ← took.used]
    exact List.contains_iff_mem
  file path := by
    rw [← findSome?_path? took.admissible, ← took.file]
    rfl
  source text := by
    rw [← findSome?_text? took.admissible, ← took.source]
    rfl

/-- At most one request is meant. -/
theorem Means.unique {request other : Request} (means : Means given request)
    (otherMeans : Means given other) : request = other := by
  have verbose := means.verbose.trans otherMeans.verbose.symm
  have quiet := means.quiet.trans otherMeans.quiet.symm
  have file : request.file = other.file := Option.ext fun path => by
    exact (means.file path).trans (otherMeans.file path).symm
  have source : request.source = other.source := Option.ext fun text => by
    exact (means.source text).trans (otherMeans.source text).symm
  cases request
  cases other
  simp only [Bool.coe_iff_coe] at verbose quiet
  simp_all

end Meaning

end JsxDetect
