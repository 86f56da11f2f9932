import RowBindings.Text.Quoted

/-!
# Documentation of an item

A documentation text is written as a line comment if it is one line, as a block comment if it has
several and cannot end the comment early, and otherwise as an attribute with a string literal. In a
block comment no line but the last ends in spaces.
-/

namespace RowBindings.HostFile

open Text

/-- Whether the comment marks of a text are balanced, with `depth` comments open. -/
def marksBalanced : (depth : Nat) → List Char → Bool
  | depth, [] => depth == 0
  | depth, '/' :: '*' :: rest => marksBalanced (depth + 1) rest
  | 0, '*' :: '/' :: _ => false
  | depth + 1, '*' :: '/' :: rest => marksBalanced depth rest
  | depth, _ :: rest => marksBalanced depth rest

/-- Whether a text can stand in a block comment without ending it, also together with the mark
that follows. -/
def fitsBlockComment (doc : List Char) : Bool :=
  marksBalanced 0 doc && doc.getLast? != some '/'

/-- The text without the spaces before its line breaks. -/
def trimLineEnds : List Char → List Char
  | [] => []
  | c :: rest =>
    let trimmed := trimLineEnds rest
    if c = ' ' ∧ trimmed.head? = some '\n' then trimmed else c :: trimmed

/-- The characters of a string literal. A null character is written by its number if a digit
follows that would otherwise read as part of it. -/
def literalBody : List Char → List Char
  | [] => []
  | c :: rest =>
    (if c = '\x00' ∧ rest.head?.any (fun d => '0' ≤ d ∧ d ≤ '7') then ['\\', 'x', '0', '0']
      else escapeChar c) ++ literalBody rest

/-- The documentation of the item that follows. -/
def docComment (doc : String) : String :=
  let text := doc.toList
  if !text.contains '\n' then "///" ++ doc
  else if fitsBlockComment text then "/**" ++ String.ofList (trimLineEnds text) ++ "*/"
  else "#[doc = \"" ++ String.ofList (literalBody text) ++ "\"]"

end RowBindings.HostFile
