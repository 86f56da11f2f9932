import RowBindings.Descriptor

/-!
# Fields of a row

A row is declared as pairs of a field name and a type descriptor. `resolveFields` resolves them
all and does not stop at the first fault: it returns either every field or every error, in
declaration order. Names must be identifiers and must stay distinct in snake case, since that is
how bindings spell them.
-/

namespace RowBindings

open Text

structure Field where
  name : String
  type : FieldType
  deriving DecidableEq

/-- Why a declared field is refused. -/
inductive FieldError
  | type (field : String) (source : TypeError)
  | invalidName (field : String)
  | duplicate (field : String)
  deriving DecidableEq, Repr

def FieldError.message : FieldError → String
  | .type field source => "field " ++ quote field ++ ": " ++ source.message
  | .invalidName field => "invalid field name " ++ quote field
  | .duplicate field => "duplicate field " ++ quote field

/-- The wording of the refusal of a whole row. -/
def failureSummary (errors : List FieldError) : String :=
  decimal errors.length ++ " field(s) failed to resolve"

namespace Field

/-- The fault of a field's name, where `seen` holds the snake-case names of the fields before. -/
def nameError? (seen : List String) (name : String) : Option FieldError :=
  if !isIdentifier name then some (.invalidName name)
  else if seen.contains (snakeCase name) then some (.duplicate name)
  else none

/-- The snake-case names known after a field. A name that is no identifier is not remembered. -/
def remember (seen : List String) (name : String) : List String :=
  if isIdentifier name then snakeCase name :: seen else seen

/-- The fields that resolve and the errors of those that do not, in declaration order. -/
def collect (accepts : String → Bool) (seen : List String) :
    List (String × String) → List Field × List FieldError
  | [] => ([], [])
  | (name, descriptor) :: rest =>
    let (fields, errors) := collect accepts (remember seen name) rest
    match resolve accepts descriptor with
    | .ok type => (⟨name, type⟩ :: fields, (nameError? seen name).toList ++ errors)
    | .error e => (fields, (nameError? seen name).toList ++ .type name e :: errors)

end Field

/-- The fields of a row whose names are taken as they are. The first descriptor that does not
resolve decides the error. -/
def resolveTypes (accepts : String → Bool) (row : List (String × String)) :
    Except TypeError (List Field) :=
  row.mapM fun (name, descriptor) => (resolve accepts descriptor).map (⟨name, ·⟩)

/-- The fields of a row, or everything that is wrong with it. -/
def resolveFields (accepts : String → Bool) (row : List (String × String)) :
    Except (List FieldError) (List Field) :=
  match Field.collect accepts [] row with
  | (fields, []) => .ok fields
  | (_, errors) => .error errors

end RowBindings
