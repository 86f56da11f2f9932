import RowBindings.Text.Number

/-!
# Flat JSON objects

A record is reported as a JSON object on one line, without blanks and with its members in a fixed
order. The members are texts, numbers or null; objects do not nest. In a text, quotes, backslashes
and control characters are escaped, so no line break gets in.
-/

namespace RowBindings.Text

/-- A value of a member. -/
inductive Scalar
  | null
  | number (n : Nat)
  | text (s : String)
  deriving DecidableEq, Repr

/-- A text, or null if there is none. -/
def Scalar.ofText? (s? : Option String) : Scalar :=
  (s?.map text).getD null

/-- A number, or null if there is none. -/
def Scalar.ofNumber? (n? : Option Nat) : Scalar :=
  (n?.map number).getD null

/-- The written form of one character of a JSON text. -/
def jsonChar (c : Char) : List Char :=
  if c = '"' then ['\\', '"']
  else if c = '\\' then ['\\', '\\']
  else if c = '\n' then ['\\', 'n']
  else if c = '\r' then ['\\', 'r']
  else if c = '\t' then ['\\', 't']
  else if c = '\x08' then ['\\', 'b']
  else if c = '\x0c' then ['\\', 'f']
  else if c.toNat < 32 then
    ['\\', 'u', '0', '0', Nat.digitChar (c.toNat / 16), Nat.digitChar (c.toNat % 16)]
  else [c]

def jsonText (s : String) : String :=
  String.ofList ('"' :: (s.toList.flatMap jsonChar ++ ['"']))

def Scalar.render : Scalar → String
  | null => "null"
  | number n => decimal n
  | text s => jsonText s

def jsonObject (members : List (String × Scalar)) : String :=
  "\x7b" ++ ",".intercalate (members.map fun (key, value) => jsonText key ++ ":" ++ value.render)
    ++ "\x7d"

end RowBindings.Text
