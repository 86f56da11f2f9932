import RowBindings.Bindings.Error
import RowBindings.Text.NameChar

/-!
# The file of host bindings

What the bindings of a row say to host code, which is written in Rust, apart from how they are laid
out in lines. The file declares a struct named after the row, with one member per field, and an
impl with a size constant per field and, for fields that a codec stores, a method to write the
field and one to read it.

`HostFile.ofRow` builds the file. The first field that cannot be written decides the error. Of one
field's faults a reserved table name or a missing codec comes before a type that cannot be written,
that before a name that is taken, and that before a name that cannot be written.
-/

namespace RowBindings

open Text

namespace HostFile

/-- The methods that write and read a field. -/
structure Methods where
  encoder : String
  decoder : String
  /-- The codec routine that the first of them calls. -/
  encodeRoutine : String
  /-- The codec routine that the second of them calls. -/
  decodeRoutine : String
  /-- Whether the routines are passed the storage width. -/
  passesWidth : Bool
  deriving DecidableEq

/-- A field as the file shows it. -/
structure Entry where
  /-- The name of the struct's member. -/
  member : String
  /-- The type of the struct's member. -/
  host : HostType
  /-- The name of the constant that holds the storage width. -/
  constant : String
  /-- The storage width. -/
  size : Nat
  /-- The documentation of the constant. -/
  doc : String
  methods? : Option Methods
  deriving DecidableEq

/-- The name of the constant that holds the storage width of a field. -/
def constantName (field : String) : String :=
  shoutySnakeCase field ++ "_SIZE"

def encoderName (field : String) : String :=
  "encode_" ++ snakeCase field

def decoderName (field : String) : String :=
  "decode_" ++ snakeCase field

/-- The documentation of a field's size constant, which names the field and its type. -/
def sizeDoc (f : Field) : String :=
  " Storage width of \x60" ++ f.name ++ "\x60 (\x60" ++ f.type.name ++ "\x60)"

/-- The methods of a field, unless it is a table. -/
def Methods.ofField? (f : Field) : Option Methods :=
  match f.type.kind, f.type.encoderName?, f.type.decoderName? with
  | .table, _, _ => none
  | _, some encodeRoutine, some decodeRoutine =>
    some ⟨encoderName f.name, decoderName f.name, encodeRoutine, decodeRoutine,
      f.type.codecWidth?.isSome⟩
  | _, _, _ => none

def Entry.ofField (f : Field) : Entry where
  member := escapeKeyword (snakeCase f.name)
  host := f.type.hostType
  constant := constantName f.name
  size := f.type.size
  doc := sizeDoc f
  methods? := Methods.ofField? f

/-- The names that the entry of a field brings into the file. -/
def namesOf (f : Field) : List String :=
  [snakeCase f.name, constantName f.name]
    ++ if f.type.kind = .table then []
      else [encoderName f.name, decoderName f.name]
        ++ f.type.encoderName?.toList ++ f.type.decoderName?.toList

/-- Whether a host type can be written as a type. -/
def isWritable : HostType → Bool
  | .named name => isName name
  | .vec element => isName element

/-- The fault of a field whose type cannot be written as a type. -/
def hostTypeError? (f : Field) : Option GenerateError :=
  if isWritable f.type.hostType then none else some (.hostType f.name f.type.hostType.text)

/-- The fault of a field's name, where `seen` holds the snake-case names of the fields before. -/
def nameError? (seen : List String) (f : Field) : Option GenerateError :=
  if seen.contains (snakeCase f.name) then some (.duplicateField f.name)
  else ((namesOf f).find? (!isName ·)).map .unwritableName

/-- The fault of a field, if it has one. -/
def fieldError? (seen : List String) (f : Field) : Option GenerateError :=
  f.typeError? <|> hostTypeError? f <|> nameError? seen f

/-- The entries of the fields that follow those whose snake-case names are in `seen`. -/
def entriesFrom (seen : List String) : List Field → Except GenerateError (List Entry)
  | [] => .ok []
  | f :: rest =>
    match fieldError? seen f with
    | some e => .error e
    | none => (entriesFrom (snakeCase f.name :: seen) rest).map (Entry.ofField f :: ·)

end HostFile

structure HostFile where
  /-- The name of the struct. -/
  row : String
  /-- The fields in declaration order. -/
  entries : List HostFile.Entry
  deriving DecidableEq

def HostFile.ofRow (name : String) (fields : List Field) : Except GenerateError HostFile :=
  match entriesFrom [] fields with
  | .error e => .error e
  | .ok entries =>
    if isName (typeName name) then .ok ⟨escapeKeyword (typeName name), entries⟩
    else .error (.unwritableName (typeName name))

end RowBindings
