import RowBindings.Bytes
import RowBindings.Text.Number
import RowBindings.Text.Utf8

/-!
# Why a value or its bytes are refused

The causes for which a codec refuses a value to be written or bytes to be read, and their wording.
-/

namespace RowBindings

open Text

/-- Why a codec refuses its input. -/
inductive CodecError
  | invalidLength (expected actual : Nat)
  /-- The value needs more than this many bytes. -/
  | valueOutOfRange (bytes : Nat)
  | invalidBool (byte : UInt8)
  /-- Byte arrays of a fixed length have at most 32 bytes. -/
  | fixedBytesTooLong (size : Nat)
  | invalidUtf8 (fault : Utf8Fault)
  deriving DecidableEq, Repr

def CodecError.message : CodecError → String
  | .invalidLength expected actual =>
    "expected " ++ decimal expected ++ " bytes, got " ++ decimal actual
  | .valueOutOfRange bytes => "value does not fit in " ++ decimal bytes ++ " bytes"
  | .invalidBool byte => "invalid boolean byte 0x" ++ hexByte byte
  | .fixedBytesTooLong size =>
    "fixed byte array of " ++ decimal size ++ " bytes is longer than 32"
  | .invalidUtf8 _ => "string is not valid UTF-8"

/-- The bytes, if there are `n` of them. -/
def Bytes.ofLength (n : Nat) (bytes : Bytes) : Except CodecError Bytes :=
  if bytes.length = n then .ok bytes else .error (.invalidLength n bytes.length)

/-- The bytes as a block, if there are `n` of them. -/
def Block.ofBytes (n : Nat) (bytes : Bytes) : Except CodecError (Block n) :=
  if h : bytes.length = n then .ok ⟨bytes, h⟩ else .error (.invalidLength n bytes.length)

end RowBindings
