import RowBindings.FieldType
import RowBindings.Text.Quoted

/-!
# Type descriptors

A descriptor is the text by which a schema names the type of a field: one of the fixed words
`address`, `bool`, `bytes` and `string`; `bytes`, `uint` or `int` with a size; or `table` and the
name of a table. `resolve` finds the type. A table is accepted only if the schema vouches for its
name, through the predicate that `resolve` is given.
-/

namespace RowBindings

open Text

/-- What a size counts: the bytes of a byte array or the bits of an integer. -/
inductive SizeKind
  | bytes
  | integer
  deriving DecidableEq, Repr

def SizeKind.word : SizeKind → String
  | .bytes => "bytes"
  | .integer => "integer"

/-- Why a descriptor names no type. -/
inductive TypeFault
  /-- What follows the keyword is not a number. -/
  | malformedSize (fault : NumberFault)
  /-- There is no type of this size. -/
  | invalidSize (what : SizeKind) (size : Int)
  /-- Signed integers have 64 bits at most. -/
  | signedWide
  /-- The schema does not vouch for the table. -/
  | invalidTable (name : String)
  | unknown
  deriving DecidableEq, Repr

/-- A descriptor that names no type, as it was written, and why. -/
structure TypeError where
  descriptor : String
  fault : TypeFault
  deriving DecidableEq, Repr

def TypeError.message (e : TypeError) : String :=
  match e.fault with
  | .malformedSize _ => "malformed size suffix in type " ++ quote e.descriptor
  | .invalidSize what size =>
    "invalid " ++ what.word ++ " size " ++ signedDecimal size ++ " in type " ++ quote e.descriptor
  | .signedWide =>
    quote e.descriptor ++ " is not supported, use uint256 and track the sign separately"
  | .invalidTable name =>
    "invalid table name " ++ quote name ++ " in type " ++ quote e.descriptor
  | .unknown => "unknown field type " ++ quote e.descriptor

namespace Descriptor

/-- What follows `stem` in a text that begins with it. -/
def after? : (stem text : List Char) → Option (List Char)
  | [], text => some text
  | _ :: _, [] => none
  | s :: stem, c :: text => if s = c then after? stem text else none

/-- `after?` undoes appending. -/
theorem after?_eq_some_iff {stem text rest : List Char} :
    after? stem text = some rest ↔ text = stem ++ rest := by
  induction stem generalizing text with
  | nil => simp [after?, eq_comm]
  | cons s stem ih =>
    cases text with
    | nil => simp [after?]
    | cons c text => grind [after?]

def readSize (digits : List Char) : Except TypeFault Int :=
  (readInt64 digits).mapError .malformedSize

/-- The byte array type of `size` bytes. A full-width byte array is a hash. -/
def bytesOfSize (size : Int) : Except TypeFault FieldType :=
  if size = 32 then .ok .hash
  else
    match ByteWidth.ofNat? 31 size.toNat with
    | some width => .ok (.fixedBytes width)
    | none => .error (.invalidSize .bytes size)

/-- The integer type of `bits` bits. There is none between 64 and 256 bits, and the widest has no
signed form. -/
def integerOfBits (sign : Signedness) (bits : Int) : Except TypeFault FieldType :=
  if bits = 256 then
    match sign with
    | .unsigned => .ok .uint256
    | .signed => .error .signedWide
  else if bits % 8 = 0 then
    match ByteWidth.ofNat? 8 (bits / 8).toNat with
    | some width => .ok (.integer sign width)
    | none => .error (.invalidSize .integer bits)
  else .error (.invalidSize .integer bits)

/-- The integer type with the given suffix. Without one it has 256 bits. -/
def integerOfSuffix (sign : Signedness) (suffix : List Char) : Except TypeFault FieldType := do
  let bits ← if suffix = [] then pure 256 else readSize suffix
  integerOfBits sign bits

/-- The reference to a table called `name`, if it is accepted. -/
def tableOfName (accepts : String → Bool) (name : String) : Except TypeFault FieldType :=
  if name = "" ∨ !accepts name then .error (.invalidTable name) else .ok (.table name)

/-- The type that a descriptor names, or why it names none. -/
def classify (accepts : String → Bool) (descriptor : String) : Except TypeFault FieldType :=
  let text := descriptor.toList
  if descriptor = "address" then .ok .address
  else if descriptor = "bool" then .ok .bool
  else if descriptor = "bytes" then .ok .bytes
  else if descriptor = "string" then .ok .string
  else if let some size := after? "bytes".toList text then
    readSize size >>= bytesOfSize
  else if let some suffix := after? "uint".toList text then
    integerOfSuffix .unsigned suffix
  else if let some suffix := after? "int".toList text then
    integerOfSuffix .signed suffix
  else if let some name := after? "table ".toList text then
    tableOfName accepts (String.ofList name)
  else .error .unknown

end Descriptor

/-- The type that a descriptor names. `accepts` decides which tables may be referred to. -/
def resolve (accepts : String → Bool) (descriptor : String) : Except TypeError FieldType :=
  (Descriptor.classify accepts descriptor).mapError (⟨descriptor, ·⟩)

end RowBindings
