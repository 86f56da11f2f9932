import RowBindings.Codec

/-!
# Precompiles

The interface that generated bindings run behind: a precompile tells whether an input would leave
the state as it is, and answers an input with bytes or an error.
-/

namespace RowBindings

/-- Why a precompile gives no answer. -/
inductive PrecompileError
  | reverted (reason : String)
  | codec (error : CodecError)
  deriving DecidableEq, Repr

def PrecompileError.message : PrecompileError → String
  | .reverted reason => "execution reverted: " ++ reason
  | .codec error => error.message

structure Precompile where
  /-- Whether running an input leaves the state untouched. -/
  isStatic : Bytes → Bool
  run : Bytes → Except PrecompileError Bytes

/-- The precompile that accepts any input and does nothing. -/
def Precompile.blank : Precompile where
  isStatic _ := true
  run _ := .ok []

end RowBindings
