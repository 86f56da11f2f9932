import RowBindings.Bindings.HostFile
import RowBindings.Bindings.HostFile.Doc
import RowBindings.Layout
import RowBindings.Product

/-!
# Printing host bindings

The pieces of a file of host bindings, and its text. Parameters, arguments, type arguments and the
member after a receiver are groups, so they move to lines of their own where names are too long.
-/

namespace RowBindings.HostFile

open Layout Text

/-- Lines of up to 89 bytes, with room for 60 on each of them. -/
def page : Page := ⟨89, 60⟩

/-- Items between two delimiters, on lines of their own if they do not all fit on one. Only there
does a comma follow the last of them. -/
def delimited (indent : Int) (items : List (List Piece)) : List Piece :=
  [.enter indent, .soft 0 0 false] ++ [Piece.text ",", .soft 1 0 false].intercalate items
    ++ [.soft 0 (-4) true, .leave]

/-- A head and, in braces and indented, the lines that belong to it. -/
def block (head : List Piece) (lines : List (List Piece)) : List Piece :=
  .enter 4 :: head ++ .text " \x7b" ::
    (if lines = [] then [.leave, .text "\x7d"]
      else lines.flatMap (.hard 0 :: ·) ++ [.hard (-4), .leave, .text "\x7d"])

def applied (generic : String) (arguments : List (List Piece)) : List Piece :=
  .text (generic ++ "<") :: delimited 4 arguments ++ [.text ">"]

def hostPieces : HostType → List Piece
  | .named name => [.text name]
  | .vec element => applied "Vec" [[.text element]]

/-- A call of a routine of the codec module. -/
def callPieces (routine : String) (arguments : List (List Piece)) : List Piece :=
  .text ("codec::" ++ routine ++ "(") :: delimited 4 arguments ++ [.text ")"]

/-- A reference to a member of the receiver. -/
def memberPieces (member : String) : List Piece :=
  [.text "&", .enter 4, .text "self", .soft 0 0 false, .text ("." ++ member), .leave]

/-- A method with one parameter that returns a value or a codec error, and consists of a call. -/
def methodPieces (name parameter : String) (result : HostType) (body : List Piece) :
    List Piece :=
  block
    (.text ("pub fn " ++ name ++ "(") :: delimited 0 [[.text parameter]] ++
      [.text ")", .enter (-4), .text " -> "] ++
      applied "Result" [hostPieces result, [.text "codec::Error"]] ++ [.leave])
    [body]

namespace Entry

def memberLine (e : Entry) : List Piece :=
  .text ("pub " ++ e.member ++ ": ") :: hostPieces e.host ++ [.text ","]

/-- The last argument of the codec routines: the size constant, if they serve several widths. -/
def widthArgument (e : Entry) (m : Methods) : List (List Piece) :=
  if m.passesWidth then [[.text ("Self::" ++ e.constant)]] else []

/-- The method that writes the field and the one that reads it. -/
def methodLines (e : Entry) (m : Methods) : List (List Piece) :=
  [methodPieces m.encoder "&self" (.vec "u8")
    (callPieces m.encodeRoutine (memberPieces e.member :: e.widthArgument m)),
   methodPieces m.decoder "data: &[u8]" e.host
    (callPieces m.decodeRoutine ([.text "data"] :: e.widthArgument m))]

/-- The items of the impl: the documented constant and the methods. -/
def implLines (e : Entry) : List (List Piece) :=
  [[.text (docComment e.doc)],
   [.text ("pub const " ++ e.constant ++ ": usize = " ++ decimal e.size ++ ";")]]
    ++ (e.methods?.map e.methodLines).getD []

end Entry

def lines (file : HostFile) : List (List Piece) :=
  [[.text ("//! " ++ generatedBy)],
   [.text "#![allow(dead_code, unused_imports)]"],
   [.text "use dt_builtins::\x7bcodec, Address, Hash, U256\x7d;"],
   [.text "#[derive(Debug)]"],
   block [.text ("pub struct " ++ file.row)] (file.entries.map Entry.memberLine),
   block [.text ("impl " ++ file.row)] (file.entries.flatMap Entry.implLines)]

def text (file : HostFile) : String :=
  render page (file.lines.flatMap (· ++ [.hard 0]))

end RowBindings.HostFile
