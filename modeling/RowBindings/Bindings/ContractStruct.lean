import RowBindings.Bindings.Error
import RowBindings.Product

/-!
# The struct of contract bindings

What the bindings of a row say to contract code, which is written in Solidity: a struct named after
the row, with one member per field in declaration order. Members carry the field names as they are
written and no data location.
-/

namespace RowBindings.ContractStruct

def memberLine (f : Field) : String :=
  "    " ++ f.type.solidityName ++ " " ++ f.name ++ ";\n"

/-- The text of a row's struct, unless the type of a field is at fault. -/
def ofRow (name : String) (fields : List Field) : Except GenerateError String :=
  match fields.findSome? Field.typeError? with
  | some e => .error e
  | none =>
    .ok ("// " ++ generatedBy ++ "\n\nstruct " ++ typeName name ++ " \x7b\n"
      ++ String.join (fields.map memberLine) ++ "\x7d\n")

end RowBindings.ContractStruct
