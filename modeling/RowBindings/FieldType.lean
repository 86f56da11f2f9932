import RowBindings.Codec
import RowBindings.Identifier

/-!
# Field types

The type of a field says how its values are stored, what they are called in generated code and
which codec writes them. Everything about a type follows from what it is, so the attributes below
are functions of it. The codec is known by a label, from which the names of its routines are made. A
reference to another table has no codec: tables store themselves.
-/

namespace RowBindings

open Text

inductive FieldType
  | address
  | bool
  /-- Bytes of any number. -/
  | bytes
  | string
  /-- Fewer than 32 bytes, of a fixed number. -/
  | fixedBytes (width : ByteWidth 31)
  /-- Exactly 32 bytes. -/
  | hash
  | integer (sign : Signedness) (width : ByteWidth 8)
  | uint256
  /-- A reference to the table called `name`. -/
  | table (name : String)
  deriving DecidableEq

/-- How a field is stored. -/
inductive FieldKind
  /-- A scalar of fixed width, stored inline. -/
  | value
  /-- A byte sequence of fixed or variable length. -/
  | bytes
  /-- A reference to another table. -/
  | table
  deriving DecidableEq

def FieldKind.name : FieldKind → String
  | .value => "Value"
  | .bytes => "Bytes"
  | .table => "Table"

/-- The type of a field's values in generated Rust code. -/
inductive HostType
  /-- A type that is written as a single name. -/
  | named (name : String)
  /-- A vector of elements of a named type. -/
  | vec (element : String)
  deriving DecidableEq

def HostType.text : HostType → String
  | .named name => name
  | .vec element => "Vec<" ++ element ++ ">"

/-- The bytes taken by the slot of a dynamic value or of a table reference. -/
def slotSize : Nat := 32

/-- The letter that begins the name of a machine word. -/
def Signedness.letter : Signedness → String
  | .unsigned => "u"
  | .signed => "i"

/-- The name of the narrowest machine word with room for `bits` bits, of which there may be 64 at
most. -/
def Signedness.wordName (sign : Signedness) (bits : Nat) : String :=
  sign.letter ++ decimal bits.nextPowerOfTwo

/-- The word that begins the label of an integer codec. -/
def Signedness.label : Signedness → String
  | .unsigned => "Uint"
  | .signed => "Int"

namespace FieldType

/-- The canonical name, the same for all spellings of a type. -/
def name : FieldType → String
  | address => "address"
  | bool => "bool"
  | bytes => "bytes"
  | string => "string"
  | fixedBytes width => "bytes" ++ decimal width.bytes
  | hash => "bytes32"
  | integer sign width => sign.keyword ++ decimal width.bits
  | uint256 => "uint256"
  | table name => name

/-- How fields of the type are stored. -/
def kind : FieldType → FieldKind
  | address | bool | integer _ _ | uint256 => .value
  | bytes | string | fixedBytes _ | hash => .bytes
  | table _ => .table

/-- The storage width in bytes. -/
def size : FieldType → Nat
  | address => 20
  | bool => 1
  | fixedBytes width => width.bytes
  | integer _ width => width.bytes
  | hash | uint256 => 32
  | bytes | string | table _ => slotSize

/-- The type of the values in generated Rust code. -/
def hostType : FieldType → HostType
  | address => .named "Address"
  | bool => .named "bool"
  | bytes | fixedBytes _ => .vec "u8"
  | string => .named "String"
  | hash => .named "Hash"
  | integer sign width => .named (sign.wordName width.bits)
  | uint256 => .named "U256"
  | table name => .named (typeName name)

/-- The type of the values in Solidity, without a data location. -/
def solidityName : FieldType → String
  | table name => typeName name
  | t => t.name

/-- Whether a value of the type lives in memory when it is passed around in Solidity. -/
def inMemory : FieldType → Bool
  | bytes | string | table _ => true
  | _ => false

/-- The type of the values in Solidity, with the data location of those that have one. -/
def solidityType (t : FieldType) : String :=
  if t.inMemory then "memory " ++ t.solidityName else t.solidityName

/-- The label of the codec that stores the values, in Pascal case; tables have none. -/
def codecLabel? : FieldType → Option String
  | address => some "Address"
  | bool => some "Bool"
  | bytes => some "Bytes"
  | string => some "String"
  | fixedBytes _ => some "FixedBytes"
  | hash => some "Hash"
  | integer sign width => some (sign.label ++ decimal width.bits)
  | uint256 => some "Uint256"
  | table _ => none

/-- What the names of the codec's routines end in. -/
def codecSuffix? (t : FieldType) : Option String :=
  t.codecLabel?.map snakeCase

def encoderName? (t : FieldType) : Option String :=
  t.codecSuffix?.map ("encode_" ++ ·)

def decoderName? (t : FieldType) : Option String :=
  t.codecSuffix?.map ("decode_" ++ ·)

/-- The width that the routines are passed, for a codec that serves several. -/
def codecWidth? : FieldType → Option Nat
  | fixedBytes width => some width.bytes
  | _ => none

/-- The codec whose routines bear the names that the type gives, used at its width. -/
def codec? (t : FieldType) : Option Codec :=
  t.codecSuffix?.bind fun suffix => Codec.named? suffix (t.codecWidth?.getD 0)

end FieldType

end RowBindings
