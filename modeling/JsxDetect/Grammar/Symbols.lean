import JsxDetect.Token.Lexicon

/-!
# Symbols of the grammar

The symbols of the grammar by number: first the tokens, then what rules derive.  A symbol is
*visible* if its nodes belong to the syntax tree; the others only hold such nodes together.

## Main Definitions

* `symbolTable`, `Symbol.name`, `Symbol.visible`
* `keywords`: the words that the grammar reserves, or gives a meaning in some places
-/

namespace JsxDetect.Grammar

/-- What the grammar says of a symbol. -/
structure SymbolInfo where
  name : String
  visible : Bool
  deriving Repr

/-- A symbol whose nodes are part of the syntax tree. -/
def shown (name : String) : SymbolInfo := ⟨name, true⟩

/-- A symbol that only groups other nodes. -/
def silent (name : String) : SymbolInfo := ⟨name, false⟩

/-- The symbols 0 to 99. -/
def symbols000 : List SymbolInfo := [
  silent "end", shown "identifier", shown "hash_bang_line", shown "export", shown "*",
  shown "default", shown "type", shown "import", shown "=", shown "as", shown "namespace",
  shown "\x7b", shown ",", shown "\x7d", shown "typeof", shown "from", shown "with", shown "var",
  shown "let", shown "const", shown "!", shown "else", shown "if", shown "switch", shown "for",
  shown "(", shown ";", shown ")", shown "await", shown "in", shown "of", shown "while",
  shown "do", shown "try", shown "break", shown "continue", shown "debugger", shown "return",
  shown "throw", shown ":", shown "case", shown "catch", shown "finally", shown "yield",
  shown "[", shown "]", silent "_glimmer_template_content", shown "<template>",
  shown "</template>", shown "jsx_text", shown "html_character_reference", shown ">",
  shown "identifier", shown ".", shown "</", shown "/>", shown "\"", shown "'",
  shown "string_fragment", shown "string_fragment", shown "class", shown "async",
  shown "function", shown "=>", shown "?.", shown "new", shown "using", shown "+=", shown "-=",
  shown "*=", shown "/=", shown "%=", shown "^=", shown "&=", shown "|=", shown ">>=",
  shown ">>>=", shown "<<=", shown "**=", shown "&&=", shown "||=", shown "??=", shown "...",
  shown "&&", shown "||", shown ">>", shown ">>>", shown "<<", shown "&", shown "^", shown "|",
  shown "+", shown "-", shown "/", shown "%", shown "**", shown "<", shown "<=", shown "==",
  shown "==="]

/-- The symbols 100 to 199. -/
def symbols100 : List SymbolInfo := [
  shown "!=", shown "!==", shown ">=", shown "??", shown "instanceof", shown "~", shown "void",
  shown "delete", shown "++", shown "--", shown "string_fragment", shown "string_fragment",
  shown "escape_sequence", shown "comment", shown "\x60", shown "$\x7b", shown "/",
  shown "regex_pattern", shown "regex_flags", shown "number", shown "private_property_identifier",
  shown "target", shown "meta", shown "this", shown "super", shown "true", shown "false",
  shown "null", shown "undefined", shown "@", shown "static", shown "readonly", shown "get",
  shown "set", shown "?", shown "declare", shown "public", shown "private", shown "protected",
  shown "override", shown "module", shown "any", shown "number", shown "boolean", shown "string",
  shown "symbol", shown "object", shown "abstract", shown "accessor", shown "satisfies",
  shown "require", shown "extends", shown "implements", shown "global", shown "interface",
  shown "enum", shown "-?:", shown "+?:", shown "?:", shown "asserts", shown "infer", shown "is",
  shown "keyof", shown "unique_symbol", shown "unknown", shown "never", shown "\x7b|",
  shown "|\x7d", silent "_automatic_semicolon", shown "string_fragment", shown "?",
  shown "html_comment", silent "_function_signature_automatic_semicolon",
  silent "__error_recovery", shown "program", shown "export_statement", shown "namespace_export",
  shown "export_clause", shown "export_specifier", silent "_module_export_name",
  silent "declaration", shown "import", shown "import_statement", shown "import_clause",
  silent "_from_clause", shown "namespace_import", shown "named_imports",
  shown "import_specifier", shown "import_attribute", silent "statement",
  shown "expression_statement", shown "variable_declaration", shown "lexical_declaration",
  shown "variable_declarator", shown "statement_block", shown "else_clause", shown "if_statement",
  shown "switch_statement", shown "for_statement", shown "for_in_statement"]

/-- The symbols 200 to 299. -/
def symbols200 : List SymbolInfo := [
  silent "_for_header", shown "while_statement", shown "do_statement", shown "try_statement",
  shown "with_statement", shown "break_statement", shown "continue_statement",
  shown "debugger_statement", shown "return_statement", shown "throw_statement",
  shown "empty_statement", shown "labeled_statement", shown "switch_body", shown "switch_case",
  shown "switch_default", shown "catch_clause", shown "finally_clause",
  shown "parenthesized_expression", silent "expression", silent "primary_expression",
  shown "yield_expression", shown "object", shown "object_pattern", shown "assignment_pattern",
  shown "object_assignment_pattern", shown "array", shown "array_pattern",
  shown "glimmer_template", shown "glimmer_opening_tag", shown "glimmer_closing_tag",
  shown "jsx_element", shown "jsx_expression", shown "jsx_opening_element",
  shown "nested_identifier", shown "jsx_namespace_name", shown "jsx_closing_element",
  shown "jsx_self_closing_element", shown "jsx_attribute", shown "string", shown "class",
  shown "class_declaration", shown "class_heritage", shown "function_expression",
  shown "function_declaration", shown "generator_function",
  shown "generator_function_declaration", shown "arrow_function", silent "_call_signature",
  silent "_formal_parameter", shown "optional_chain", shown "call_expression",
  shown "new_expression", shown "await_expression", shown "member_expression",
  shown "subscript_expression", shown "assignment_expression", silent "_augmented_assignment_lhs",
  shown "augmented_assignment_expression", silent "_initializer", silent "_destructuring_pattern",
  shown "spread_element", shown "ternary_expression", shown "binary_expression",
  shown "unary_expression", shown "update_expression", shown "sequence_expression",
  shown "string", shown "template_string", shown "template_substitution", shown "regex",
  shown "meta_property", shown "arguments", shown "decorator", shown "member_expression",
  shown "call_expression", shown "class_body", shown "formal_parameters",
  shown "class_static_block", silent "pattern", shown "rest_pattern", shown "method_definition",
  shown "pair", shown "pair_pattern", silent "_property_name", shown "computed_property_name",
  shown "public_field_definition", silent "_import_identifier", shown "non_null_expression",
  shown "method_signature", shown "abstract_method_signature", shown "function_signature",
  shown "as_expression", shown "satisfies_expression", shown "instantiation_expression",
  shown "import_require_clause", shown "extends_clause", silent "_extends_clause_single",
  shown "implements_clause", shown "ambient_declaration", shown "abstract_class_declaration"]

/-- The symbols 300 to 397. -/
def symbols300 : List SymbolInfo := [
  shown "module", shown "internal_module", silent "_module", shown "import_alias",
  shown "nested_type_identifier", shown "interface_declaration", shown "extends_type_clause",
  shown "enum_declaration", shown "enum_body", shown "enum_assignment",
  shown "type_alias_declaration", shown "accessibility_modifier", shown "override_modifier",
  shown "required_parameter", shown "optional_parameter", silent "_parameter_name",
  shown "omitting_type_annotation", shown "adding_type_annotation",
  shown "opting_type_annotation", shown "type_annotation", shown "member_expression",
  shown "call_expression", shown "asserts", shown "asserts_annotation", silent "type",
  shown "required_parameter", shown "optional_parameter", shown "optional_type",
  shown "rest_type", silent "_tuple_type_member", shown "constructor_type", silent "primary_type",
  shown "template_type", shown "template_literal_type", shown "infer_type",
  shown "conditional_type", shown "generic_type", shown "type_predicate",
  shown "type_predicate_annotation", shown "member_expression", shown "subscript_expression",
  shown "call_expression", shown "instantiation_expression", shown "type_query",
  shown "index_type_query", shown "lookup_type", shown "mapped_type_clause", shown "literal_type",
  shown "unary_expression", shown "existential_type", shown "flow_maybe_type",
  shown "parenthesized_type", shown "predefined_type", shown "type_arguments",
  shown "object_type", shown "call_signature", shown "property_signature",
  shown "type_parameters", shown "type_parameter", shown "default_type", shown "constraint",
  shown "construct_signature", shown "index_signature", shown "array_type", shown "tuple_type",
  shown "readonly_type", shown "union_type", shown "intersection_type", shown "function_type",
  silent "program_repeat1", silent "export_statement_repeat1", silent "export_clause_repeat1",
  silent "named_imports_repeat1", silent "variable_declaration_repeat1",
  silent "switch_body_repeat1", silent "object_repeat1", silent "object_pattern_repeat1",
  silent "array_repeat1", silent "array_pattern_repeat1", silent "glimmer_template_repeat1",
  silent "jsx_element_repeat1", silent "_jsx_string_repeat1", silent "_jsx_string_repeat2",
  silent "sequence_expression_repeat1", silent "string_repeat1", silent "string_repeat2",
  silent "template_string_repeat1", silent "class_body_repeat1",
  silent "formal_parameters_repeat1", silent "_jsx_start_opening_element_repeat1",
  silent "extends_clause_repeat1", silent "implements_clause_repeat1",
  silent "extends_type_clause_repeat1", silent "enum_body_repeat1",
  silent "template_literal_type_repeat1", silent "object_type_repeat1",
  silent "type_parameters_repeat1", silent "tuple_type_repeat1"]

/-- All symbols, by number. -/
def symbolTable : Array SymbolInfo :=
  (symbols000 ++ symbols100 ++ symbols200 ++ symbols300).toArray

/-- The words with a meaning of their own, and their symbols. -/
def keywords : List (List Char × Symbol) := [
  ("export".toList, 3), ("default".toList, 5), ("type".toList, 6), ("import".toList, 7),
  ("as".toList, 9), ("namespace".toList, 10), ("typeof".toList, 14), ("from".toList, 15),
  ("with".toList, 16), ("var".toList, 17), ("let".toList, 18), ("const".toList, 19),
  ("else".toList, 21), ("if".toList, 22), ("switch".toList, 23), ("for".toList, 24),
  ("await".toList, 28), ("in".toList, 29), ("of".toList, 30), ("while".toList, 31),
  ("do".toList, 32), ("try".toList, 33), ("break".toList, 34), ("continue".toList, 35),
  ("debugger".toList, 36), ("return".toList, 37), ("throw".toList, 38), ("case".toList, 40),
  ("catch".toList, 41), ("finally".toList, 42), ("yield".toList, 43), ("class".toList, 60),
  ("async".toList, 61), ("function".toList, 62), ("new".toList, 65), ("using".toList, 66),
  ("instanceof".toList, 104), ("void".toList, 106), ("delete".toList, 107),
  ("target".toList, 121), ("meta".toList, 122), ("this".toList, 123), ("super".toList, 124),
  ("true".toList, 125), ("false".toList, 126), ("null".toList, 127), ("undefined".toList, 128),
  ("static".toList, 130), ("readonly".toList, 131), ("get".toList, 132), ("set".toList, 133),
  ("declare".toList, 135), ("public".toList, 136), ("private".toList, 137),
  ("protected".toList, 138), ("override".toList, 139), ("module".toList, 140),
  ("any".toList, 141), ("number".toList, 142), ("boolean".toList, 143), ("string".toList, 144),
  ("symbol".toList, 145), ("object".toList, 146), ("abstract".toList, 147),
  ("accessor".toList, 148), ("satisfies".toList, 149), ("require".toList, 150),
  ("extends".toList, 151), ("implements".toList, 152), ("global".toList, 153),
  ("interface".toList, 154), ("enum".toList, 155), ("asserts".toList, 159), ("infer".toList, 160),
  ("is".toList, 161), ("keyof".toList, 162), ("unique".toList, 163), ("unknown".toList, 164),
  ("never".toList, 165)]

/-- The symbol of a word with a meaning of its own. -/
def keyword? (word : List Char) : Option Symbol :=
  (keywords.find? fun k => k.1 == word).map Prod.snd

/-- The length of the longest keyword. -/
def longestKeyword : Nat := 10

/-- Does the symbol stand for a keyword? -/
def isKeyword (symbol : Symbol) : Bool := keywords.any fun k => k.2 == symbol

end JsxDetect.Grammar

namespace JsxDetect.Symbol

/-- The end of the text. -/
def endOfText : Symbol := 0

/-- A name. -/
def identifier : Symbol := 1

/-- Text that no rule of the grammar covers. -/
def error : Symbol := 65535

/-- Part of such a text, while it still grows. -/
def skipped : Symbol := 65534

/-- The number of token symbols; they come first. -/
def tokenCount : Nat := 174

/-- The name of a symbol of the grammar. -/
def name (symbol : Symbol) : String :=
  if symbol = error then "ERROR"
  else match Grammar.symbolTable[symbol]? with
    | some info => info.name
    | none => ""

/-- Are the nodes of this symbol part of the syntax tree? -/
def visible (symbol : Symbol) : Bool :=
  if symbol = error then true
  else match Grammar.symbolTable[symbol]? with
    | some info => info.visible
    | none => false

end JsxDetect.Symbol
