import RowBindings.Proofs.Codec.TwosComplement

/-!
# Wide integers as numbers

A `U256` is a block of 32 bytes, compared byte by byte from the left, and `U256.toNat` is the number
that these bytes stand for. Byte strings of one length are ordered like their values, because a
greater byte outweighs all that follow it; so order, equality, the test for zero and the conversions
are those of the numbers (`U256.numeric`), and so is the order of the stored forms.
-/

namespace RowBindings

/-! ## Byte strings of one length -/

namespace Bytes

/-- A greater first byte outweighs all that follow it. -/
theorem toNat_cons_lt {x y : UInt8} {a b : Bytes} (length : a.length = b.length)
    (less : x.toNat < y.toNat) : Bytes.toNat (x :: a) < Bytes.toNat (y :: b) := by
  have fits := Bytes.toNat_lt a
  rw [toNat_cons, toNat_cons, ← length]
  calc x.toNat * 256 ^ a.length + a.toNat
    _ < x.toNat * 256 ^ a.length + 256 ^ a.length := Nat.add_lt_add_left fits _
    _ = (x.toNat + 1) * 256 ^ a.length := (Nat.succ_mul _ _).symm
    _ ≤ y.toNat * 256 ^ a.length := Nat.mul_le_mul_right _ less
    _ ≤ y.toNat * 256 ^ a.length + b.toNat := Nat.le_add_right _ _

/-- Comparing byte strings of one length from the left is comparing their values. -/
theorem compare_eq {a b : Bytes} (length : a.length = b.length) :
    compare a b = compare a.toNat b.toNat := by
  induction a generalizing b with
  | nil =>
    obtain rfl := List.length_eq_zero_iff.1 length.symm
    rfl
  | cons x a ih =>
    cases b with
    | nil => cases length
    | cons y b =>
      have rest : a.length = b.length := Nat.succ.inj length
      rw [List.compare_cons_cons, UInt8.compare_eq_toNat_compare_toNat]
      rcases Nat.lt_trichotomy x.toNat y.toNat with less | same | greater
      · rw [Nat.compare_eq_lt.2 less, Nat.compare_eq_lt.2 (toNat_cons_lt rest less)]
        rfl
      · -- The first bytes agree, so the rest decides in both orders.
        rw [Nat.compare_eq_eq.2 same, ih rest, toNat_cons, toNat_cons, same, rest,
          Nat.compare_eq_ite_lt, Nat.compare_eq_ite_lt]
        simp
      · rw [Nat.compare_eq_gt.2 greater, Nat.compare_eq_gt.2 (toNat_cons_lt rest.symm greater)]
        rfl

/-- The value is zero if all bytes are. -/
theorem toNat_eq_zero_iff {bytes : Bytes} :
    bytes.toNat = 0 ↔ bytes = List.replicate bytes.length 0 := by
  rw [← toNat_inj List.length_replicate.symm, toNat_replicate_zero]

end Bytes

/-! ## The number of a wide integer -/

namespace U256

def toNat (a : U256) : Nat :=
  a.block.bytes.toNat

/-- A wide integer has 256 bits. -/
theorem toNat_lt (a : U256) : a.toNat < 2 ^ 256 := by
  have fits := a.block.bytes.toNat_lt_two_pow
  rwa [a.block.length_eq] at fits

/-- Wide integers with the same number are the same. -/
theorem eq_iff {a b : U256} : a = b ↔ a.toNat = b.toNat := by
  obtain ⟨⟨a, length⟩⟩ := a
  obtain ⟨⟨b, length'⟩⟩ := b
  rw [toNat, toNat, Bytes.toNat_inj (length.trans length'.symm), mk.injEq, Block.mk.injEq]

/-- The order of wide integers, which is that of their bytes, is the order of their numbers. -/
theorem compare_eq (a b : U256) : compare a b = compare a.toNat b.toNat := by
  have bytes : compare a b = compare a.block.bytes b.block.bytes := Ordering.then_eq
  rw [bytes, toNat, toNat, Bytes.compare_eq (a.block.length_eq.trans b.block.length_eq.symm)]

theorem toNat_zero : zero.toNat = 0 :=
  Bytes.toNat_replicate_zero 32

/-- A wide integer is tested for zero byte by byte. -/
theorem isZero_iff {a : U256} : a.isZero = true ↔ a.toNat = 0 := by
  rw [isZero, beq_iff_eq, eq_iff, toNat_zero]

/-! ## Narrower integers -/

/-- A word of 128 bits keeps its number. -/
theorem toNat_ofWord128 (x : BitVec 128) : (ofWord128 x).toNat = x.toNat := by
  have fits : x.toNat < 256 ^ 16 := x.isLt
  rw [toNat, ofWord128, Bytes.toNat_append, Bytes.toNat_replicate_zero, Bytes.toNat_ofNat,
    Nat.mod_eq_of_lt fits, Nat.zero_mul, Nat.zero_add]

theorem toNat_ofWord64 (x : BitVec 64) : (ofWord64 x).toNat = x.toNat := by
  rw [ofWord64, toNat_ofWord128, BitVec.toNat_setWidth_of_le (by decide)]

/-- The number is that of the high half, shifted by the width of the low half, and that of the low
half. -/
theorem toNat_eq_halves (a : U256) :
    a.toNat = Bytes.toNat (a.block.bytes.take 16) * 2 ^ 128 +
      Bytes.toNat (a.block.bytes.drop 16) := by
  have split := Bytes.toNat_append (a.block.bytes.take 16) (a.block.bytes.drop 16)
  have low : (a.block.bytes.drop 16).length = 16 := by rw [List.length_drop, a.block.length_eq]
  rwa [List.take_append_drop, low] at split

/-- The low half has a number of 128 bits. -/
theorem toNat_low_lt (a : U256) : Bytes.toNat (a.block.bytes.drop 16) < 2 ^ 128 := by
  have fits := Bytes.toNat_lt_two_pow (a.block.bytes.drop 16)
  rwa [List.length_drop, a.block.length_eq] at fits

/-- A byte of the high half is set exactly if the number needs more than 128 bits. -/
theorem any_high_iff {a : U256} :
    (a.block.bytes.take 16).any (· != 0) = true ↔ 2 ^ 128 ≤ a.toNat := by
  have low := a.toNat_low_lt
  have zero : (a.block.bytes.take 16).any (· != 0) = false ↔
      Bytes.toNat (a.block.bytes.take 16) = 0 := by
    rw [Bytes.toNat_eq_zero_iff, List.eq_replicate_iff]
    simp
  rw [← Bool.not_eq_false, zero, a.toNat_eq_halves]
  omega

/-- A wide integer is read as the word that holds its number. -/
theorem toWord128_eq_ok_iff {a : U256} {x : BitVec 128} :
    a.toWord128 = .ok x ↔ a.toNat = x.toNat := by
  have low := a.toNat_low_lt
  have halves := a.toNat_eq_halves
  rw [toWord128]
  split
  · rename_i set
    -- A byte that is set in the upper half makes the number too large for any word.
    have large := any_high_iff.1 set
    have small := x.isLt
    simp only [reduceCtorEq, false_iff]
    omega
  · rename_i unset
    have small := mt any_high_iff.2 unset
    rw [Except.ok.injEq, ← BitVec.toNat_inj, BitVec.toNat_ofNat, Nat.mod_eq_of_lt low]
    omega

/-- A wide integer is refused as a word exactly if its number needs more bits. -/
theorem toWord128_eq_error_iff {a : U256} {e : CodecError} :
    a.toWord128 = .error e ↔ 2 ^ 128 ≤ a.toNat ∧ e = .valueOutOfRange 16 := by
  rw [← any_high_iff, toWord128]
  split
  · rename_i set
    simp [set, eq_comm]
  · rename_i unset
    simp [unset]

/-! ## Stored forms -/

/-- A wide integer is written as its number with the first bytes counting the most. -/
theorem encode_eq (a : U256) : Codec.uint256.encode a = .ok (Bytes.ofNat 32 a.toNat) := by
  have whole := a.block.bytes.ofNat_toNat
  rw [a.block.length_eq] at whole
  exact congrArg Except.ok whole.symm

/-- The order, equality and the conversions of wide integers are those of their numbers, which are
the numbers of 256 bits. Their stored forms are these numbers, big-endian in 32 bytes, so that
comparing stored forms byte by byte is comparing numbers too. -/
theorem numeric :
    (∀ a b : U256, compare a b = compare a.toNat b.toNat ∧ (a = b ↔ a.toNat = b.toNat)) ∧
    (∀ a : U256, a.toNat < 2 ^ 256 ∧ (a.isZero = true ↔ a.toNat = 0)) ∧
    (∀ x : BitVec 128, (ofWord128 x).toNat = x.toNat ∧ (ofWord128 x).toWord128 = .ok x) ∧
    (∀ x : BitVec 64, (ofWord64 x).toNat = x.toNat ∧
      (ofWord64 x).toWord128 = .ok (x.setWidth 128)) ∧
    (∀ a : U256, (∀ x, a.toWord128 = .ok x ↔ a.toNat = x.toNat) ∧
      (a.toWord128 = .error (.valueOutOfRange 16) ↔ ¬a.toNat < 2 ^ 128)) ∧
    (∀ a : U256, Codec.uint256.encode a = .ok (Bytes.ofNat 32 a.toNat)) ∧
    (∀ a b : U256, ∃ data data' : Bytes, Codec.uint256.encode a = .ok data ∧
      Codec.uint256.encode b = .ok data' ∧ compare data data' = compare a.toNat b.toNat) := by
  refine ⟨fun a b => ⟨compare_eq a b, eq_iff⟩, fun a => ⟨a.toNat_lt, isZero_iff⟩, ?_, ?_, ?_,
    encode_eq, ?_⟩
  · intro x
    exact ⟨toNat_ofWord128 x, toWord128_eq_ok_iff.2 (toNat_ofWord128 x)⟩
  · intro x
    refine ⟨toNat_ofWord64 x, toWord128_eq_ok_iff.2 ?_⟩
    rw [toNat_ofWord64, BitVec.toNat_setWidth_of_le (by decide)]
  · intro a
    refine ⟨fun x => toWord128_eq_ok_iff, ?_⟩
    rw [toWord128_eq_error_iff, Nat.not_lt]
    exact and_iff_left rfl
  · intro a b
    refine ⟨a.block.bytes, b.block.bytes, rfl, rfl, ?_⟩
    exact Bytes.compare_eq (a.block.length_eq.trans b.block.length_eq.symm)

end U256

end RowBindings
