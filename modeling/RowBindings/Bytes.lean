/-!
# Byte strings

Stored values are lists of bytes, most significant first. A `Block n` has exactly `n` of them; it
is what addresses, hashes and wide integers are made of. `Bytes.toNat` reads a byte string as a
number and `Bytes.ofNat` writes the last bytes of one; each undoes the other as far as the bytes
reach.
-/

namespace RowBindings

abbrev Bytes := List UInt8

/-- The big-endian value of a byte string. -/
def Bytes.toNat (bytes : Bytes) : Nat :=
  bytes.foldl (fun value b => value * 256 + b.toNat) 0

/-- The last `count` bytes of the big-endian form of `value`. -/
def Bytes.ofNat : (count value : Nat) → Bytes
  | 0, _ => []
  | count + 1, value => Bytes.ofNat count (value / 256) ++ [UInt8.ofNat value]

/-- The last `count` bytes of a number are `count` in number. -/
@[simp] theorem Bytes.length_ofNat (count value : Nat) :
    (Bytes.ofNat count value).length = count := by
  induction count generalizing value with
  | zero => rfl
  | succ count ih => simp [Bytes.ofNat, ih]

/-- A byte put at the end multiplies the value by 256 and adds its own. -/
theorem Bytes.toNat_concat (bytes : Bytes) (b : UInt8) :
    Bytes.toNat (bytes ++ [b]) = bytes.toNat * 256 + b.toNat := by
  simp [Bytes.toNat, List.foldl_append]

/-- Writing the value of a byte string in its own length gives it back. -/
theorem Bytes.ofNat_toNat (bytes : Bytes) : Bytes.ofNat bytes.length bytes.toNat = bytes := by
  suffices h : ∀ r : Bytes, Bytes.ofNat r.length (Bytes.toNat r.reverse) = r.reverse by
    simpa using h bytes.reverse
  intro r
  induction r with
  | nil => rfl
  | cons b rest ih =>
    have := b.toNat_lt
    rw [List.reverse_cons, Bytes.toNat_concat, List.length_cons, Bytes.ofNat,
      show (Bytes.toNat rest.reverse * 256 + b.toNat) / 256 = Bytes.toNat rest.reverse by omega, ih]
    simp

/-- A byte as two lower-case hexadecimal digits. -/
def hexByte (b : UInt8) : String :=
  String.ofList [Nat.digitChar (b.toNat / 16), Nat.digitChar (b.toNat % 16)]

/-- Exactly `n` bytes. -/
structure Block (n : Nat) where
  bytes : Bytes
  length_eq : bytes.length = n
  deriving DecidableEq

/-- Blocks are compared byte by byte from the left. -/
instance (n : Nat) : Ord (Block n) where
  compare a b := compare a.bytes b.bytes

def Block.replicate (n : Nat) (b : UInt8) : Block n :=
  ⟨List.replicate n b, List.length_replicate⟩

abbrev Address := Block 20

/-- A value of a `bytes32` field. -/
abbrev Hash := Block 32

end RowBindings
