import RowBindings.Codec.Error

/-!
# 256-bit integers

A `U256` is kept as its 32 bytes, most significant first, so comparing bytes is comparing numbers.
Only conversions are provided. A narrower number always fits, and a `U256` is read back as one of
128 bits exactly when its high half is zero.
-/

namespace RowBindings

/-- An unsigned integer of 256 bits. -/
structure U256 where
  block : Block 32
  deriving DecidableEq, Ord

namespace U256

def zero : U256 := ⟨.replicate 32 0⟩

def max : U256 := ⟨.replicate 32 0xFF⟩

/-- Whether every byte is zero. -/
def isZero (a : U256) : Bool :=
  a == zero

/-- A number of 128 bits, widened. -/
def ofWord128 (value : BitVec 128) : U256 :=
  ⟨⟨List.replicate 16 0 ++ Bytes.ofNat 16 value.toNat, by simp⟩⟩

def ofWord64 (value : BitVec 64) : U256 :=
  ofWord128 (value.setWidth 128)

/-- The value in 128 bits, if it fits. -/
def toWord128 (a : U256) : Except CodecError (BitVec 128) :=
  if (a.block.bytes.take 16).any (· != 0) then .error (.valueOutOfRange 16)
  else .ok (BitVec.ofNat 128 (Bytes.toNat (a.block.bytes.drop 16)))

/-- The value as a list of its bytes in decimal. -/
def describe (a : U256) : String :=
  "U256([" ++ ", ".intercalate (a.block.bytes.map fun b => Text.decimal b.toNat) ++ "])"

end U256

end RowBindings
