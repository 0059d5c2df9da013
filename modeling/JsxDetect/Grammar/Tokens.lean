import JsxDetect.Token.Lexicon

/-!
# Tokens of the grammar

The shapes of the tokens, keywords apart: those are read as names first.

## Main Definitions

* `tokens`: the rules, in the order that settles ties
* `lexicons`: the sets of tokens that the parser asks for
-/

namespace JsxDetect.Grammar

open Token Token.Pattern

/-! ### Character classes -/

/-- Digits. -/
def digit : Pattern := .one (.within [('0', '9')])

/-- Hexadecimal digits. -/
def hexDigit : Pattern := .one (.within [('0', '9'), ('a', 'f'), ('A', 'F')])

/-- One of the characters of a list. -/
def oneOf (chars : List Char) : Pattern := .one (.ofList chars)

/-- Anything but the characters of a list. -/
def noneOf (chars : List Char) : Pattern := .one (.outside (chars.map fun c => (c, c)))

/-- Any character but a line feed. -/
def dot : Pattern := noneOf ['\n']

/-- The characters that no name contains: control characters, blanks and punctuation. -/
def nonNameRanges : List (Char × Char) :=
  [('\x00', '#'), ('%', '/'), (':', '@'), ('[', '^'), ('\x60', '\x60'), ('\x7b', '~'),
    ('\u00a0', '\u00a0'), ('\u1680', '\u1680'), ('\u2000', '\u200b'), ('\u2028', '\u2029'),
    ('\u202f', '\u202f'), ('\u205f', '\u2060'), ('\u3000', '\u3000'), ('\ufeff', '\ufeff')]

/-! ### Shapes -/

/-- A Unicode escape in a name. -/
def nameEscape : Pattern :=
  any [all [.literal ['\\', 'u'], exactly 4 hexDigit],
    all [.literal ['\\', 'u', '\x7b'], plus hexDigit, .literal ['\x7d']]]

/-- The first character of a name. -/
def nameStart : Pattern := any [.one (.outside (('0', '9') :: nonNameRanges)), nameEscape]

/-- A further character of a name. -/
def namePart : Pattern := any [.one (.outside nonNameRanges), nameEscape]

/-- A name. -/
def identifier : Pattern := .seq nameStart (star namePart)

/-- A name that is private to a class. -/
def privateName : Pattern := .seq (.literal ['#']) identifier

/-- The line that names an interpreter. -/
def hashBang : Pattern := .seq (.literal ['#', '!']) (star dot)

/-- A single character of a template element. -/
def anyOne : Pattern := dot

/-- Text between tags. -/
def jsxText : Pattern := plus (noneOf ['\x7b', '\x7d', '<', '>', '&'])

/-- A character reference: by name, by decimal or by hexadecimal number. -/
def characterReference : Pattern :=
  all [.literal ['&'],
    any [all [.literal ['#'], any [all [oneOf ['x', 'X'], upTo 5 hexDigit], upTo 4 digit]],
      upTo 29 (.one (.within [('a', 'z'), ('A', 'Z')]))],
    .literal [';']]

/-- A tag name with a hyphen. -/
def hyphenated : Pattern :=
  all [.one (.within [('$', '$'), ('_', '_'), ('a', 'z'), ('A', 'Z')]),
    star (.one (.within [('$', '$'), ('_', '_'), ('a', 'z'), ('A', 'Z'), ('0', '9')])),
    .literal ['-'],
    star (.one (.within
      [('$', '$'), ('_', '_'), ('-', '-'), ('a', 'z'), ('A', 'Z'), ('0', '9')]))]

/-- Part of an attribute string: no closing quote, and nothing that begins a reference. -/
def jsxFragment (quote : Char) : Pattern :=
  plus (any [noneOf [quote, '&'],
    .seq (.literal ['&']) (.one (.outside [('#', '#'), ('a', 'z'), ('A', 'Z')]))])

/-- Part of an attribute string between double quotes. -/
def doubleJsxFragment : Pattern := jsxFragment '"'

/-- Part of an attribute string between single quotes. -/
def singleJsxFragment : Pattern := jsxFragment '\''

/-- Part of a string: no closing quote, no backslash and no line break. -/
def fragment (quote : Char) : Pattern := plus (noneOf [quote, '\\', '\n', '\r'])

/-- Part of a string between double quotes. -/
def doubleFragment : Pattern := fragment '"'

/-- Part of a string between single quotes. -/
def singleFragment : Pattern := fragment '\''

/-- A backslash with what it escapes. -/
def escapeSequence : Pattern :=
  .seq (.literal ['\\'])
    (any [.one (.outside [('x', 'x'), ('u', 'u'), ('0', '7')]),
      upTo 2 (.one (.within [('0', '7')])),
      .seq (.literal ['x']) (exactly 2 hexDigit),
      .seq (.literal ['u']) (exactly 4 hexDigit),
      all [.literal ['u', '\x7b'], plus hexDigit, .literal ['\x7d']],
      .seq (oneOf ['\r', '?']) (oneOf ['\n', '\u2028', '\u2029'])])

/-- A comment: to the end of the line, or up to its closing mark. -/
def comment : Pattern :=
  any [.seq (.literal ['/', '/']) (star (noneOf ['\n', '\r', '\u2028', '\u2029'])),
    all [.literal ['/', '*'], star (noneOf ['*']), plus (.literal ['*']),
      star (all [noneOf ['/', '*'], star (noneOf ['*']), plus (.literal ['*'])]),
      .literal ['/']]]

/-- The body of a regular expression: classes, escapes and other characters. -/
def regexBody : Pattern :=
  plus (any [
    all [.literal ['['],
      star (any [.seq (.literal ['\\']) dot, noneOf ['\n', '\\', ']']]),
      .literal [']']],
    .seq (.literal ['\\']) dot,
    noneOf ['/', '\\', '[', '\n']])

/-- The letters behind a regular expression. -/
def regexFlags : Pattern := plus (.one (.within [('a', 'z')]))

/-- Digits of one kind, with single underscores between them. -/
def digits (kind : Pattern) : Pattern := .seq kind (star (.seq (opt (.literal ['_'])) kind))

/-- A whole number without a leading zero, or with one before a further digit. -/
def wholeNumber : Pattern :=
  any [.literal ['0'],
    all [opt (.literal ['0']), .one (.within [('1', '9')]),
      opt (.seq (opt (.literal ['_'])) (digits digit))]]

/-- A decimal exponent. -/
def exponent : Pattern :=
  all [oneOf ['e', 'E'], opt (oneOf ['-', '+']), digits digit]

/-- A number in another base: a zero, the letter of the base and digits. -/
def based (letters : List Char) (kind : Pattern) : Pattern :=
  all [.literal ['0'], oneOf letters, digits kind]

/-- A hexadecimal number. -/
def hexNumber : Pattern := based ['x', 'X'] hexDigit

/-- A binary number. -/
def binaryNumber : Pattern := based ['b', 'B'] (.one (.within [('0', '1')]))

/-- An octal number. -/
def octalNumber : Pattern := based ['o', 'O'] (.one (.within [('0', '7')]))

/-- A number. -/
def number : Pattern :=
  any [hexNumber,
    all [wholeNumber, .literal ['.'], opt (digits digit), opt exponent],
    all [.literal ['.'], digits digit, opt exponent],
    .seq wholeNumber exponent,
    digits digit,
    binaryNumber,
    octalNumber,
    .seq (any [hexNumber, binaryNumber, octalNumber, digits digit]) (.literal ['n'])]

/-! ### Rules -/

/-- A token that is always written the same way. -/
def fixed (rank : Nat) (symbol : Symbol) (text : String) : Rule :=
  ⟨rank, symbol, .literal text.toList, 0, 2, false⟩

/-- The tokens of the grammar, keywords apart. -/
def tokens : List Rule := [
  ⟨0, 2, hashBang, 0, 0, false⟩,
  fixed 2 4 "*",
  fixed 6 8 "=",
  fixed 9 11 "\x7b",
  fixed 10 12 ",",
  fixed 11 13 "\x7d",
  fixed 18 20 "!",
  fixed 23 25 "(",
  fixed 24 26 ";",
  fixed 25 27 ")",
  fixed 37 39 ":",
  fixed 42 44 "[",
  fixed 43 45 "]",
  ⟨44, 46, anyOne, 0, 0, false⟩,
  fixed 45 47 "<template>",
  fixed 46 48 "</template>",
  ⟨47, 49, jsxText, 0, 0, false⟩,
  ⟨48, 50, characterReference, 0, 0, false⟩,
  fixed 49 51 ">",
  ⟨50, 52, hyphenated, 0, 0, false⟩,
  fixed 51 53 ".",
  fixed 52 54 "</",
  fixed 53 55 "/>",
  fixed 54 56 "\"",
  fixed 55 57 "'",
  ⟨56, 58, doubleJsxFragment, 1, 1, true⟩,
  ⟨57, 59, singleJsxFragment, 1, 1, true⟩,
  fixed 61 63 "=>",
  fixed 62 64 "?.",
  fixed 65 67 "+=",
  fixed 66 68 "-=",
  fixed 67 69 "*=",
  fixed 68 70 "/=",
  fixed 69 71 "%=",
  fixed 70 72 "^=",
  fixed 71 73 "&=",
  fixed 72 74 "|=",
  fixed 73 75 ">>=",
  fixed 74 76 ">>>=",
  fixed 75 77 "<<=",
  fixed 76 78 "**=",
  fixed 77 79 "&&=",
  fixed 78 80 "||=",
  fixed 79 81 "??=",
  fixed 80 82 "...",
  fixed 81 83 "&&",
  fixed 82 84 "||",
  fixed 83 85 ">>",
  fixed 84 86 ">>>",
  fixed 85 87 "<<",
  fixed 86 88 "&",
  fixed 87 89 "^",
  fixed 88 90 "|",
  fixed 89 91 "+",
  fixed 90 92 "-",
  fixed 91 93 "/",
  fixed 92 94 "%",
  fixed 93 95 "**",
  fixed 94 96 "<",
  fixed 95 97 "<=",
  fixed 96 98 "==",
  fixed 97 99 "===",
  fixed 98 100 "!=",
  fixed 99 101 "!==",
  fixed 100 102 ">=",
  fixed 101 103 "??",
  fixed 103 105 "~",
  fixed 106 108 "++",
  fixed 107 109 "--",
  ⟨108, 110, doubleFragment, 1, 1, true⟩,
  ⟨109, 111, singleFragment, 1, 1, true⟩,
  ⟨110, 112, escapeSequence, 0, 1, true⟩,
  ⟨111, 113, comment, 0, 0, false⟩,
  fixed 112 114 "\x60",
  fixed 113 115 "$\x7b",
  ⟨114, 116, .literal "/".toList, 1, 3, true⟩,
  ⟨115, 117, regexBody, -1, 1, true⟩,
  ⟨116, 118, regexFlags, 0, 1, true⟩,
  ⟨117, 119, number, 0, 0, false⟩,
  ⟨118, 1, identifier, 0, 0, false⟩,
  ⟨119, 120, privateName, 0, 0, false⟩,
  fixed 128 129 "@",
  fixed 133 134 "?",
  fixed 155 156 "-?:",
  fixed 156 157 "+?:",
  fixed 157 158 "?:",
  fixed 165 166 "\x7b|",
  fixed 166 167 "|\x7d"]

/-! ### Lexicons -/

/-- The lexicon of the tokens with the given ranks. -/
def lexicon (acceptsEnd : Bool) (ranks : List Nat) : Lexicon :=
  ⟨acceptsEnd, ranks.filterMap fun rank => tokens.find? fun r => r.rank == rank⟩

/-- The sets of tokens that the parser asks for, by number. -/
def lexicons : Array Lexicon := [
  lexicon true [
    0, 2, 6, 9, 10, 11, 18, 23, 24, 25, 37, 42, 43, 45, 49, 51, 52, 54, 55, 61, 62, 65, 66, 67,
    68, 69, 70, 71, 72, 73, 74, 75, 76, 77, 78, 79, 80, 81, 82, 83, 84, 85, 86, 87, 88, 89, 90,
    91, 92, 93, 94, 95, 96, 97, 98, 99, 100, 101, 103, 106, 107, 110, 111, 112, 113, 114, 117,
    118, 119, 128, 133, 155, 156, 165, 166],
  lexicon true [
    0, 2, 6, 9, 10, 11, 18, 23, 24, 25, 37, 42, 43, 45, 49, 51, 54, 55, 61, 80, 86, 88, 89, 90,
    91, 94, 103, 106, 107, 111, 112, 117, 118, 119, 128, 133, 166],
  lexicon false [
    2, 6, 9, 10, 18, 23, 25, 37, 42, 45, 49, 51, 54, 55, 61, 62, 65, 66, 67, 68, 69, 70, 71, 72,
    73, 74, 75, 76, 77, 78, 79, 80, 81, 82, 83, 84, 85, 86, 87, 88, 89, 90, 91, 92, 93, 94, 95,
    96, 97, 98, 99, 100, 101, 103, 106, 107, 111, 112, 117, 118, 119, 128, 133, 165],
  lexicon false [
    2, 9, 10, 18, 23, 25, 42, 43, 45, 54, 55, 80, 86, 88, 89, 90, 91, 94, 103, 106, 107, 111, 112,
    117, 118, 119, 128, 133, 165],
  lexicon false [
    2, 6, 9, 10, 11, 18, 23, 24, 25, 37, 42, 43, 45, 49, 51, 54, 55, 61, 62, 65, 66, 67, 68, 69,
    70, 71, 72, 73, 74, 75, 76, 77, 78, 79, 80, 81, 82, 83, 84, 85, 86, 87, 88, 89, 90, 91, 92,
    93, 94, 95, 96, 97, 98, 99, 100, 101, 103, 106, 107, 111, 112, 117, 118, 119, 128, 133],
  lexicon true [
    2, 6, 9, 10, 11, 18, 23, 24, 25, 37, 42, 43, 45, 49, 51, 54, 55, 62, 81, 82, 83, 84, 85, 86,
    87, 88, 89, 90, 91, 92, 93, 94, 95, 96, 97, 98, 99, 100, 101, 103, 106, 107, 111, 112, 117,
    118, 119, 128],
  lexicon false [
    2, 6, 9, 10, 11, 18, 23, 24, 25, 37, 42, 43, 49, 51, 54, 55, 61, 62, 65, 66, 67, 68, 69, 70,
    71, 72, 73, 74, 75, 76, 77, 78, 79, 81, 82, 83, 84, 85, 86, 87, 88, 89, 90, 91, 92, 93, 94,
    95, 96, 97, 98, 99, 100, 101, 106, 107, 111, 112, 117, 118, 119, 128, 133, 165, 166],
  lexicon false [
    2, 6, 9, 10, 11, 18, 23, 24, 25, 37, 42, 43, 49, 51, 54, 55, 61, 62, 65, 66, 67, 68, 69, 70,
    71, 72, 73, 74, 75, 76, 77, 78, 79, 81, 82, 83, 84, 85, 86, 87, 88, 89, 90, 91, 92, 93, 94,
    95, 96, 97, 98, 99, 100, 101, 106, 107, 111, 112, 118, 128, 133],
  lexicon false [
    2, 6, 9, 10, 11, 18, 23, 24, 37, 42, 43, 49, 51, 54, 55, 61, 80, 86, 88, 89, 90, 94, 111, 112,
    117, 118, 119, 128, 133, 165, 166],
  lexicon false [
    6, 9, 10, 11, 18, 23, 24, 25, 37, 42, 43, 45, 49, 51, 54, 55, 61, 62, 80, 86, 88, 89, 90, 91,
    94, 103, 106, 107, 111, 112, 117, 118, 119, 128, 133, 166],
  lexicon false [
    2, 9, 23, 42, 49, 50, 53, 54, 55, 86, 88, 89, 90, 94, 111, 112, 117, 118, 133, 165],
  lexicon false [
    2, 6, 9, 10, 11, 18, 23, 24, 25, 37, 42, 43, 49, 51, 54, 55, 61, 80, 86, 88, 89, 90, 94, 111,
    117, 118, 119, 128, 133, 166],
  lexicon false [
    2, 6, 9, 10, 11, 18, 23, 24, 25, 37, 42, 43, 49, 51, 62, 81, 82, 83, 84, 85, 86, 87, 88, 89,
    90, 91, 92, 93, 94, 95, 96, 97, 98, 99, 100, 101, 106, 107, 111, 112, 118, 133, 166],
  lexicon false [
    2, 9, 10, 11, 18, 23, 24, 25, 37, 42, 43, 49, 51, 62, 81, 82, 83, 84, 85, 86, 87, 88, 89, 90,
    91, 92, 93, 94, 95, 96, 97, 98, 99, 100, 101, 106, 107, 111, 112, 116, 118],
  lexicon false [
    2, 6, 9, 10, 11, 23, 24, 25, 37, 42, 43, 49, 51, 54, 55, 61, 62, 86, 88, 94, 111, 112, 118,
    133, 166],
  lexicon false [
    6, 9, 10, 23, 37, 42, 49, 50, 51, 53, 86, 88, 94, 111, 112, 118, 155, 156, 157],
  lexicon false [
    9, 47, 48, 52, 94, 111],
  lexicon false [
    110, 111, 112, 113],
  lexicon false [
    54, 108, 110, 111],
  lexicon false [
    55, 109, 110, 111],
  lexicon false [
    44, 46, 111],
  lexicon false [
    48, 54, 56, 111],
  lexicon false [
    48, 55, 57, 111],
  lexicon false [
    111, 115],
  lexicon false [
    111, 114]].toArray

/-- The lexicon with a number. -/
def lexiconOf (number : Nat) : Lexicon := lexicons.getD number ⟨false, []⟩

end JsxDetect.Grammar
