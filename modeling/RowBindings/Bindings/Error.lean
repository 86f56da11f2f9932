import RowBindings.Field

/-!
# Why no bindings are generated

The causes for which a row with resolved fields is refused. A row whose name and fields were
checked as they were declared meets only one of them: a type name of its own that is reserved.
-/

namespace RowBindings

open Text

/-- Why a row has no bindings. -/
inductive GenerateError
  /-- The type of a field names no routines although it is not a table. -/
  | missingCodec (field : String)
  /-- The type of the row or of a table that it refers to would hide a builtin one. -/
  | reservedName (name : String)
  /-- An earlier field has the same name in snake case. -/
  | duplicateField (field : String)
  /-- The type of a field cannot be written as a type. -/
  | hostType (field host : String)
  /-- A name that the bindings need cannot be written as an identifier. This is no error that is
  reported: the program panics where it makes the identifier. Names that were checked never come to
  this. -/
  | unwritableName (name : String)
  deriving DecidableEq, Repr

/-- The wording of an error. A panic has no wording of the program's own, so the one here only names
its cause. -/
def GenerateError.message : GenerateError → String
  | .missingCodec field => "field " ++ quote field ++ " has no codec functions"
  | .reservedName name => quote name ++ " would shadow a builtin type"
  | .duplicateField field => "field " ++ quote field ++ " collides with an earlier field"
  | .hostType field host =>
    "host type " ++ quote host ++ " of field " ++ quote field ++ " is not a Rust type"
  | .unwritableName name => quote name ++ " is not a valid identifier"

/-- The fault of a field's type, whatever the bindings are written in: a table must not be named
like a builtin type, and any other type must name the routines that write and read it. -/
def Field.typeError? (f : Field) : Option GenerateError :=
  match f.type.kind with
  | .table => if isReservedTypeName f.type.name then some (.reservedName f.type.name) else none
  | .value | .bytes =>
    if f.type.encoderName?.isSome && f.type.decoderName?.isSome then none
    else some (.missingCodec f.name)

end RowBindings
