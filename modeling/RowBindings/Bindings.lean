import RowBindings.Bindings.ContractStruct
import RowBindings.Bindings.HostFile.Print

/-!
# Bindings of a row

`generate` writes the bindings of a row for host code or for a contract. In both languages a row
whose type would hide a builtin one is refused before its fields are looked at.
-/

namespace RowBindings

/-- The languages in which bindings are written. -/
inductive Language
  | rust
  | solidity
  deriving DecidableEq, Repr

def Language.name : Language → String
  | .rust => "Rust"
  | .solidity => "Solidity"

/-- The bindings of a row called `name` with the given fields. -/
def generate (language : Language) (name : String) (fields : List Field) :
    Except GenerateError String :=
  if isReservedTypeName name then .error (.reservedName name)
  else
    match language with
    | .rust => (HostFile.ofRow name fields).map HostFile.text
    | .solidity => ContractStruct.ofRow name fields

end RowBindings
