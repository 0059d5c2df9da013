import JsxDetect.Token.Contextual

/-!
# Context-dependent tokens of the grammar

The sets of context-dependent tokens that the parser asks for.
-/

namespace JsxDetect.Grammar

open Token

/-- The sets of context-dependent tokens that the parser asks for, by number. -/
def expectations : Array Expected := [
  {},
  { automaticSemicolon := true, templateChars := true, ternaryMark := true, htmlComment := true, logicalOr := true, escapeSequence := true, signatureSemicolon := true },
  { htmlComment := true },
  { ternaryMark := true, htmlComment := true, logicalOr := true },
  { automaticSemicolon := true, ternaryMark := true, htmlComment := true, logicalOr := true },
  { automaticSemicolon := true, htmlComment := true },
  { automaticSemicolon := true, htmlComment := true, signatureSemicolon := true },
  { templateChars := true, htmlComment := true, escapeSequence := true },
  { templateChars := true, htmlComment := true },
  { htmlComment := true, escapeSequence := true },
  { htmlComment := true, regexPattern := true }].toArray

/-- The set with a number. -/
def expectedOf (number : Nat) : Expected := expectations.getD number {}

end JsxDetect.Grammar
