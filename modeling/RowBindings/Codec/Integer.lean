import RowBindings.Codec.Error

/-!
# Integers of up to eight bytes

A stored integer has between one and eight bytes. Its value is held in the narrowest machine word
of 1, 2, 4 or 8 bytes. Writing drops the bytes of the word that the stored form has no room for;
they must all repeat the sign, or the value does not fit. Reading puts them back.
-/

namespace RowBindings

/-- How the top bit of an integer counts. -/
inductive Signedness
  | unsigned
  | signed
  deriving DecidableEq, Repr

/-- A number of bytes from 1 to `limit`. -/
structure ByteWidth (limit : Nat) where
  bytes : Nat
  pos : 0 < bytes
  le_limit : bytes ≤ limit
  deriving DecidableEq

def ByteWidth.ofNat? (limit n : Nat) : Option (ByteWidth limit) :=
  if h : 0 < n ∧ n ≤ limit then some ⟨n, h.1, h.2⟩ else none

def ByteWidth.bits {limit : Nat} (w : ByteWidth limit) : Nat :=
  8 * w.bytes

/-- The bytes of the narrowest machine word that holds integers of the width. -/
def ByteWidth.wordBytes (w : ByteWidth 8) : Nat :=
  if w.bytes ≤ 1 then 1 else if w.bytes ≤ 2 then 2 else if w.bytes ≤ 4 then 4 else 8

/-- The machine word has room for the stored bytes. -/
theorem ByteWidth.bytes_le_wordBytes (w : ByteWidth 8) : w.bytes ≤ w.wordBytes := by
  have := w.le_limit
  grind [wordBytes]

namespace IntegerCodec

/-- The machine word that holds integers of width `w`, two's complement if they are signed. -/
abbrev Word (w : ByteWidth 8) : Type :=
  BitVec (8 * w.wordBytes)

/-- The byte that repeats the sign of an integer stored as `low`. -/
def fill (sign : Signedness) (low : Bytes) : UInt8 :=
  match sign with
  | .unsigned => 0
  | .signed => if low.head?.any (0x80 ≤ ·) then 0xFF else 0

/-- The stored bytes of `value`, if it fits in `w`. -/
def encode (sign : Signedness) (w : ByteWidth 8) (value : Word w) : Except CodecError Bytes :=
  let full := Bytes.ofNat w.wordBytes value.toNat
  let high := full.take (w.wordBytes - w.bytes)
  let low := full.drop (w.wordBytes - w.bytes)
  if high.all (· == fill sign low) then .ok low else .error (.valueOutOfRange w.bytes)

/-- The value stored as `data`, which must have the width's length. -/
def decode (sign : Signedness) (w : ByteWidth 8) (data : Bytes) : Except CodecError (Word w) :=
  (Bytes.ofLength w.bytes data).map fun low =>
    let high := List.replicate (w.wordBytes - w.bytes) (fill sign low)
    BitVec.ofNat _ (Bytes.toNat (high ++ low))

end IntegerCodec

end RowBindings
