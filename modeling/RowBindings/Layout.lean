/-!
# Laying out text in lines

A text is given as pieces: words, places where the line may or must end, and groups. A group is
written on one line if it fits there together with what follows it up to the next place where the
line may end outside the group; otherwise each of its own places ends the line. Groups nest, and an
inner group may still fit when an outer one does not. Widths are counted in bytes.
-/

namespace RowBindings.Layout

/-- A piece of a text to be laid out. -/
inductive Piece
  | text (s : String)
  /-- The line ends here if the group does not fit; otherwise `blank` spaces stand here. The next
  line is indented by `shift` more than its group, and a `comma` is written only before a break. -/
  | soft (blank : Nat) (shift : Int) (comma : Bool)
  /-- The line ends here. -/
  | hard (shift : Int)
  /-- A group begins, whose lines are indented by `shift` more than those around it. -/
  | enter (shift : Int)
  /-- The latest group ends. -/
  | leave
  deriving DecidableEq, Repr

/-- The lines of a page. -/
structure Page where
  /-- The width that lines should not exceed. -/
  margin : Int
  /-- The room that a line has however far it is indented. -/
  minRoom : Int

/-- Whether the pieces fit in `room` up to the next place where the line may end, with `depth`
groups open that must not be broken. -/
def fits : (room : Int) → (depth : Nat) → List Piece → Bool
  | room, _, [] => 0 ≤ room
  | room, depth, .text s :: rest => fits (room - s.utf8ByteSize) depth rest
  | room, 0, .soft .. :: _ => 0 ≤ room
  | room, depth + 1, .soft blank _ _ :: rest => fits (room - blank) (depth + 1) rest
  | room, 0, .hard _ :: _ => 0 ≤ room
  | _, _ + 1, .hard _ :: _ => false
  | room, depth, .enter _ :: rest => fits room (depth + 1) rest
  | room, depth, .leave :: rest => fits room (depth - 1) rest

/-- How an open group is being written. -/
inductive Frame
  /-- On one line. -/
  | flat
  /-- On several lines, inside a group that is indented by `outer`. -/
  | broken (outer : Int)

/-- Where writing has got to. -/
structure Cursor where
  /-- The room that is left on the line. -/
  room : Int
  /-- The indentation of the innermost broken group. -/
  indent : Int
  /-- Spaces due before the next word. -/
  pending : Nat
  /-- The open groups, innermost first. -/
  frames : List Frame

namespace Cursor

def start (page : Page) : Cursor :=
  ⟨page.margin, 0, 0, []⟩

/-- Whether the innermost group is written on one line. -/
def isFlat (here : Cursor) : Bool :=
  match here.frames with
  | .flat :: _ => true
  | _ => false

def newline (page : Page) (shift : Int) (here : Cursor) : Cursor :=
  let indent := here.indent + shift
  { here with room := max (page.margin - indent) page.minRoom, pending := indent.toNat }

/-- After a word. -/
def advance (s : String) (here : Cursor) : Cursor :=
  { here with room := here.room - s.utf8ByteSize, pending := 0 }

/-- After `blank` spaces, which are written with the next word. -/
def skip (blank : Nat) (here : Cursor) : Cursor :=
  { here with room := here.room - blank, pending := here.pending + blank }

/-- In a group that is followed by `rest`. -/
def enter (shift : Int) (rest : List Piece) (here : Cursor) : Cursor :=
  if fits here.room 1 rest then { here with frames := .flat :: here.frames }
  else { here with frames := .broken here.indent :: here.frames, indent := here.indent + shift }

/-- After the innermost group. -/
def leave (here : Cursor) : Cursor :=
  match here.frames with
  | .broken outer :: frames => { here with frames, indent := outer }
  | .flat :: frames => { here with frames }
  | [] => here

/-- The spaces due before the next word. -/
def spaces (here : Cursor) : List Char :=
  List.replicate here.pending ' '

end Cursor

/-- The text of the pieces, from the cursor on. -/
def write (page : Page) (here : Cursor) : List Piece → List Char
  | [] => []
  | .text s :: rest => here.spaces ++ s.toList ++ write page (here.advance s) rest
  | .soft blank shift comma :: rest =>
    if here.isFlat then write page (here.skip blank) rest
    else
      (if comma then here.spaces ++ [','] else []) ++
        '\n' :: write page (here.newline page shift) rest
  | .hard shift :: rest => '\n' :: write page (here.newline page shift) rest
  | .enter shift :: rest => write page (here.enter shift rest) rest
  | .leave :: rest => write page here.leave rest

/-- The text of the pieces on a fresh page. -/
def render (page : Page) (pieces : List Piece) : String :=
  String.ofList (write page (.start page) pieces)

end RowBindings.Layout
