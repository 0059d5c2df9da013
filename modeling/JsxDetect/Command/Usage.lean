import JsxDetect.Text.Terminal

/-!
# Usage

The arguments of the program, and what a user is told about them: the help, the version, and
what is wrong with arguments that cannot be understood.

## Main Definitions

* `Argument`
* `usage`: a line that shows how to use the program
* `Notice`: the help and the version
* `Complaint`: what can be wrong with arguments
-/

namespace JsxDetect

/-- The arguments that the program takes. -/
inductive Argument where
  | file
  | verbose
  | quiet
  | help
  | version
  /-- The text to look at, the one argument that is not an option. -/
  | source
  deriving Repr, DecidableEq

namespace Argument

/-- The long names of the options. -/
def options : List (String × Argument) :=
  [("file", file), ("verbose", verbose), ("quiet", quiet), ("help", help), ("version", version)]

/-- How an argument is written in messages. -/
def label : Argument → String
  | file => "--file <FILEPATH>"
  | verbose => "--verbose"
  | quiet => "--quiet"
  | help => "--help"
  | version => "--version"
  | source => "[SOURCE]"

end Argument

/-! ### How to use the program -/

/-- The name of the program, unless it is called by another one. -/
def programName : String := "has-jsx"

/-- How to use the program with some arguments, or how to use it at all if there are none. -/
def usage (program : List Char) (used : List Argument) : List Char :=
  "Usage: ".toList ++ visible program ++
    if used.isEmpty then " [OPTIONS] [SOURCE]".toList
    else
      let options := (used.filter (· ≠ .source)).eraseDups
      options.flatMap (fun option => ' ' :: option.label.toList) ++
        (if used.contains .source then " <SOURCE>" else " [SOURCE]").toList

/-- What a user may ask for instead of a run. -/
inductive Notice where
  | help
  | version
  deriving Repr, DecidableEq

namespace Notice

/-- The text of the notice. -/
def text (program : List Char) : Notice → List Char
  | help =>
    "Detect JSX in files or strings using AST analysis\n\n".toList ++ usage program [] ++
      "\n\nArguments:\n".toList ++
      "  [SOURCE]  Source code string to analyze (use -f for files)\n".toList ++
      "\nOptions:\n".toList ++
      "  -f, --file <FILEPATH>  Path to file to analyze\n".toList ++
      "  -v, --verbose          Show detailed JSON output\n".toList ++
      "  -q, --quiet            Silent mode (exit codes only)\n".toList ++
      "  -h, --help             Print help\n".toList ++
      "  -V, --version          Print version\n".toList
  | version => "has-jsx 0.1.0\n".toList

end Notice

/-! ### What can be wrong -/

/-- Advice on an argument that is not known. -/
inductive Tip where
  | none
  /-- An option may have been meant. -/
  | similar (option : String)
  /-- A value may have been meant. -/
  | asValue
  deriving Repr, DecidableEq

/-- What is wrong with some arguments. -/
inductive Complaint where
  /-- An argument that is not known, or one too many; `used` are those that were understood. -/
  | unknown (argument : List Char) (tip : Tip) (used : List Argument)
  | repeated (argument : Argument)
  | missingFile
  /-- A value that is no text. -/
  | notText
  /-- A value for an option that takes none. -/
  | unneededValue (option : Argument) (value : List Char) (used : List Argument)
  deriving Repr, DecidableEq

namespace Complaint

/-- Something in quotes. -/
def quoted (text : List Char) : List Char := '\'' :: visible text ++ ['\'']

/-- The advice for an unknown argument. -/
def advice (argument : List Char) : Tip → List Char
  | .none => []
  | .similar option => "\n\n  tip: a similar argument exists: ".toList ++ quoted option.toList
  | .asValue =>
    "\n\n  tip: to pass ".toList ++ quoted argument ++ " as a value, use '-- ".toList ++
      visible argument ++ ['\'']

/-- What is wrong. -/
def problem : Complaint → List Char
  | unknown argument tip _ =>
    "unexpected argument ".toList ++ quoted argument ++ " found".toList ++ advice argument tip
  | repeated argument =>
    "the argument ".toList ++ quoted argument.label.toList ++
      " cannot be used multiple times".toList
  | missingFile =>
    "a value is required for ".toList ++ quoted Argument.file.label.toList ++
      " but none was supplied".toList
  | notText => "invalid UTF-8 was detected in one or more arguments".toList
  | unneededValue option value _ =>
    "unexpected value ".toList ++ quoted value ++ " for ".toList ++
      quoted option.label.toList ++ " found; no more were expected".toList

/-- How to use the program, where that is of help. -/
def hint (program : List Char) : Complaint → List Char
  | unknown _ _ used => "\n\n".toList ++ usage program used
  | missingFile => []
  | unneededValue _ _ used => "\n\n".toList ++ usage program used
  | _ => "\n\n".toList ++ usage program []

/-- What a user is told. -/
def text (program : List Char) (c : Complaint) : List Char :=
  "error: ".toList ++ c.problem ++ c.hint program ++
    "\n\nFor more information, try '--help'.\n".toList

end Complaint

end JsxDetect
