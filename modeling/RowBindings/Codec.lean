import RowBindings.Codec.Integer
import RowBindings.U256

/-!
# Codecs

A `Codec` says how values of one host type are stored as bytes. Values of a fixed width are written
big-endian in exactly that width, signed ones in two's complement; `bytes` and `string` are written
as they are. `fixedBytes` serves several widths and is told the one that it is used at.
-/

namespace RowBindings

/-- A way to store values. -/
inductive Codec
  | address
  | bool
  | bytes
  | string
  | hash
  | uint256
  | integer (sign : Signedness) (width : ByteWidth 8)
  /-- Byte arrays of `size` bytes. -/
  | fixedBytes (size : Nat)
  deriving DecidableEq

/-- The keyword that begins the name of an integer type. -/
def Signedness.keyword : Signedness → String
  | .unsigned => "uint"
  | .signed => "int"

namespace Codec

/-- What tells the encoder and the decoder from those of other codecs. -/
def suffix : Codec → String
  | address => "address"
  | bool => "bool"
  | bytes => "bytes"
  | string => "string"
  | hash => "hash"
  | uint256 => "uint256"
  | integer sign width => sign.keyword ++ Text.decimal width.bits
  | fixedBytes _ => "fixed_bytes"

def encoderName (c : Codec) : String := "encode_" ++ c.suffix

def decoderName (c : Codec) : String := "decode_" ++ c.suffix

/-- The width that the routines are passed, for a codec that serves several. -/
def width? : Codec → Option Nat
  | fixedBytes size => some size
  | _ => none

/-- Every codec, with `size` as the width of fixed byte arrays. -/
def all (size : Nat) : List Codec :=
  let widths := List.ofFn fun i : Fin 8 => (⟨i + 1, by omega, by omega⟩ : ByteWidth 8)
  [address, bool, bytes, string, hash, uint256, fixedBytes size]
    ++ widths.map (integer .unsigned) ++ widths.map (integer .signed)

/-- The codec with the given suffix, used at width `size` if it serves several. -/
def named? (suffix : String) (size : Nat) : Option Codec :=
  (all size).find? (·.suffix == suffix)

/-- The type of the values that a codec stores. -/
def Host : Codec → Type
  | address => Address
  | bool => Bool
  | bytes => Bytes
  | string => String
  | hash => Hash
  | uint256 => U256
  | integer _ width => IntegerCodec.Word width
  | fixedBytes _ => Bytes

/-- Byte arrays of `size` bytes, of which there may be 32 at most. -/
def fixedArray (size : Nat) (data : Bytes) : Except CodecError Bytes :=
  if 32 < size then .error (.fixedBytesTooLong size) else Bytes.ofLength size data

/-- The truth value stored as `data`. -/
def decodeBool (data : Bytes) : Except CodecError Bool :=
  match data with
  | [0] => .ok false
  | [1] => .ok true
  | [other] => .error (.invalidBool other)
  | _ => .error (.invalidLength 1 data.length)

def encode : (c : Codec) → c.Host → Except CodecError Bytes
  | address, (value : Address) => .ok value.bytes
  | bool, (value : Bool) => .ok [if value then 1 else 0]
  | bytes, (value : Bytes) => .ok value
  | string, (value : String) => .ok (Text.encodeUtf8 value)
  | hash, (value : Hash) => .ok value.bytes
  | uint256, (value : U256) => .ok value.block.bytes
  | integer sign width, value => IntegerCodec.encode sign width value
  | fixedBytes size, (value : Bytes) => fixedArray size value

def decode : (c : Codec) → Bytes → Except CodecError c.Host
  | address, data => Block.ofBytes 20 data
  | bool, data => decodeBool data
  | bytes, data => .ok data
  | string, data => (Text.decodeUtf8 data).mapError .invalidUtf8
  | hash, data => Block.ofBytes 32 data
  | uint256, data => (Block.ofBytes 32 data).map U256.mk
  | integer sign width, data => IntegerCodec.decode sign width data
  | fixedBytes size, data => fixedArray size data

end Codec

end RowBindings
