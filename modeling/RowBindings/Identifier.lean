import RowBindings.Text.Words

/-!
# Identifiers

Rows, tables and fields are named by identifiers that generated Rust code can use. `isIdentifier`
is the rule that declared names must meet, `escapeKeyword` is how a name that happens to be a
keyword is written, and `isReservedTypeName` finds the names whose type would hide one that every
generated file relies on.
-/

namespace RowBindings

open Text

/-- The strict and the reserved keywords of Rust. -/
def keywords : List String :=
  ["as", "async", "await", "break", "const", "continue", "crate", "dyn", "else", "enum", "extern",
   "false", "fn", "for", "if", "impl", "in", "let", "loop", "match", "mod", "move", "mut", "pub",
   "ref", "return", "self", "Self", "static", "struct", "super", "trait", "true", "type", "unsafe",
   "use", "where", "while",
   "abstract", "become", "box", "do", "final", "macro", "override", "priv", "try", "typeof",
   "unsized", "virtual", "yield"]

def isKeyword (name : String) : Bool :=
  keywords.contains name

/-- Whether `c` may stand in an identifier after its first character. -/
def isIdentifierChar (c : Char) : Bool :=
  c.isAlphanum || c == '_'

/-- Whether `name` begins with a Latin letter, goes on with Latin letters, decimal digits and
underscores, and is no keyword. -/
def isIdentifier (name : String) : Bool :=
  match name.toList with
  | [] => false
  | c :: rest => c.isAlpha && rest.all isIdentifierChar && !isKeyword name

/-- The keywords that cannot be written as raw identifiers. -/
def pathKeywords : List String := ["crate", "self", "super", "Self"]

/-- The spelling of `name` as an identifier: a keyword is written raw, or with an underscore after
it where no raw form exists. -/
def escapeKeyword (name : String) : String :=
  if pathKeywords.contains name then name ++ "_"
  else if isKeyword name then "r#" ++ name
  else name

/-- The name of the type generated for a table or row. -/
def typeName (name : String) : String :=
  pascalCase name

/-- The types that generated code uses for builtin fields. -/
def reservedTypeNames : List String := ["Address", "Hash", "U256", "String", "Vec"]

/-- Whether the type of a table or row called `name` would hide a builtin one. -/
def isReservedTypeName (name : String) : Bool :=
  reservedTypeNames.contains (typeName name)

end RowBindings
