import RowBindings.Text.Printable

/-!
# Quoted text

Messages and log lines show a text between double quotes, so that it can be told from what
surrounds it and never breaks the line: a quote or a backslash is escaped by a backslash, and a
character that would not show is written by name (`\n`, `\r`, `\t`, `\0`) or by its code point
(`\u` and the hexadecimal number in braces).
-/

namespace RowBindings.Text

/-- A character written by its code point, in lower-case hexadecimal without leading zeros. -/
def codePointEscape (c : Char) : List Char :=
  '\\' :: 'u' :: '{' :: (Nat.toDigits 16 c.toNat ++ ['}'])

/-- The written form of one character of a quoted text. -/
def escapeChar (c : Char) : List Char :=
  if c = '\x00' then ['\\', '0']
  else if c = '\t' then ['\\', 't']
  else if c = '\r' then ['\\', 'r']
  else if c = '\n' then ['\\', 'n']
  else if c = '\\' then ['\\', '\\']
  else if c = '"' then ['\\', '"']
  else if extendsGrapheme c || isUnprintable c then codePointEscape c
  else [c]

def quote (s : String) : String :=
  String.ofList ('"' :: (s.toList.flatMap escapeChar ++ ['"']))

end RowBindings.Text
