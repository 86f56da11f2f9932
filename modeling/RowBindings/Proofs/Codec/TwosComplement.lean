import Mathlib.Algebra.Order.Group.Int
import Mathlib.Data.List.Induction
import Mathlib.Tactic.Ring
import RowBindings.Proofs.Codec.RoundTrip

/-!
# Integers in two's complement

Integer codecs compare, drop and repeat bytes. Here is what that means for numbers. A byte string
stands for a number, `Bytes.toInt`, and copies of the sign in front of it do not change the number.
So the bytes that are stored of a machine word stand for the same number as the word, and there are
such bytes exactly for the numbers in the range of the width.
-/

namespace RowBindings

/-! ## Byte strings as numbers -/

namespace Bytes

/-- The first bytes count the most. -/
theorem toNat_append (a b : Bytes) :
    Bytes.toNat (a ++ b) = a.toNat * 256 ^ b.length + b.toNat := by
  induction b using List.reverseRecOn with
  | nil => simp [Bytes.toNat]
  | append_singleton b c ih =>
    rw [← List.append_assoc, toNat_concat, toNat_concat, ih, List.length_append,
      List.length_singleton]
    ring

/-- A first byte counts 256 to the number of bytes behind it. -/
theorem toNat_cons (b : UInt8) (rest : Bytes) :
    Bytes.toNat (b :: rest) = b.toNat * 256 ^ rest.length + rest.toNat := by
  have single : Bytes.toNat [b] = b.toNat := by simp [Bytes.toNat]
  have split := toNat_append [b] rest
  rwa [single, List.singleton_append] at split

/-- Byte strings of one length are told apart by their values. -/
theorem toNat_inj {a b : Bytes} (length : a.length = b.length) : a.toNat = b.toNat ↔ a = b := by
  constructor
  · intro same
    rw [← a.ofNat_toNat, ← b.ofNat_toNat, length, same]
  · rintro rfl
    rfl

/-- Zero bytes stand for zero, however many there are. -/
theorem toNat_replicate_zero (count : Nat) : Bytes.toNat (List.replicate count 0) = 0 := by
  induction count with
  | zero => rfl
  | succ count ih =>
    rw [List.replicate_succ', toNat_concat, ih]
    rfl

/-- Bytes with all bits set have the greatest value of their length. -/
theorem toNat_replicate_ones (count : Nat) :
    Bytes.toNat (List.replicate count 0xFF) + 1 = 256 ^ count := by
  induction count with
  | zero => rfl
  | succ count ih =>
    have ones : (0xFF : UInt8).toNat = 255 := rfl
    rw [List.replicate_succ', toNat_concat, ones, Nat.pow_succ]
    omega

/-- The value of a byte string fits in its bits. -/
theorem toNat_lt_two_pow (bytes : Bytes) : bytes.toNat < 2 ^ (8 * bytes.length) := by
  rw [Nat.pow_mul]
  exact bytes.toNat_lt

def topBit (bytes : Bytes) : Bool :=
  bytes.toNat.testBit (8 * bytes.length - 1)

/-- The top bit is set if the value has reached half the range. -/
theorem topBit_iff {bytes : Bytes} (h : bytes ≠ []) :
    bytes.topBit = true ↔ 2 ^ (8 * bytes.length - 1) ≤ bytes.toNat := by
  have length := List.length_pos_iff.2 h
  constructor
  · intro set
    by_contra small
    rw [topBit, Nat.testBit_lt_two_pow (Nat.not_le.1 small)] at set
    cases set
  · intro large
    have fits := bytes.toNat_lt_two_pow
    have bits : 8 * bytes.length - 1 + 1 = 8 * bytes.length := by omega
    exact Nat.testBit_of_two_pow_le_and_two_pow_add_one_gt large (by rwa [bits])

/-- The top bit is that of the first byte. -/
theorem topBit_eq (bytes : Bytes) : bytes.topBit = bytes.head?.any (0x80 ≤ ·) := by
  cases bytes with
  | nil => rfl
  | cons b rest =>
    -- The first byte stands for multiples of `256 ^ rest.length`, half of which is at 128.
    have half : 2 ^ (8 * (b :: rest).length - 1) = 128 * 256 ^ rest.length := by
      rw [List.length_cons, show 8 * (rest.length + 1) - 1 = 7 + 8 * rest.length by omega,
        Nat.pow_add, Nat.pow_mul]
    have fits := Bytes.toNat_lt rest
    have first : (0x80 : UInt8) ≤ b ↔ 128 ≤ b.toNat := UInt8.le_iff_toNat_le
    rw [Bool.eq_iff_iff, topBit_iff (by simp), half, toNat_cons, List.head?_cons, Option.any_some,
      decide_eq_true_iff, first]
    constructor
    · intro large
      by_contra small
      have below : (b.toNat + 1) * 256 ^ rest.length ≤ 128 * 256 ^ rest.length :=
        Nat.mul_le_mul_right _ (by omega)
      rw [Nat.add_mul] at below
      omega
    · intro large
      have above : 128 * 256 ^ rest.length ≤ b.toNat * 256 ^ rest.length :=
        Nat.mul_le_mul_right _ large
      omega

/-- The number that a byte string stands for: its big-endian value, less the range of the bytes if
they are signed and the top bit is set. -/
def toInt (sign : Signedness) (bytes : Bytes) : Int :=
  bytes.toNat - if sign = .signed ∧ bytes.topBit = true then 2 ^ (8 * bytes.length) else 0

/-- The number of a byte string tells its big-endian value. -/
theorem toInt_emod (sign : Signedness) (bytes : Bytes) :
    toInt sign bytes % 2 ^ (8 * bytes.length) = bytes.toNat := by
  have fits : (bytes.toNat : Int) < 2 ^ (8 * bytes.length) := by
    exact_mod_cast bytes.toNat_lt_two_pow
  have same : (bytes.toNat : Int) % 2 ^ (8 * bytes.length) = bytes.toNat :=
    Int.emod_eq_of_lt (Int.natCast_nonneg _) fits
  rw [toInt]
  split
  · rw [Int.sub_emod_right, same]
  · rw [Int.sub_zero, same]

/-- Byte strings of one length that stand for the same number are the same. -/
theorem eq_of_toInt_eq (sign : Signedness) {a b : Bytes} (length : a.length = b.length)
    (h : toInt sign a = toInt sign b) : a = b := by
  have values : (a.toNat : Int) = b.toNat := by
    rw [← toInt_emod sign a, ← toInt_emod sign b, length, h]
  exact (toNat_inj length).1 (Int.ofNat_inj.1 values)

end Bytes

namespace IntegerCodec

/-! ## Copies of the sign -/

/-- Copies of the sign have the top bit of the bytes behind them. -/
theorem topBit_extended (count : Nat) (low : Bytes) :
    Bytes.topBit (List.replicate count (fill .signed low) ++ low) = low.topBit := by
  cases count with
  | zero => rfl
  | succ count =>
    rw [Bytes.topBit_eq, Bytes.topBit_eq, List.replicate_succ, List.cons_append, List.head?_cons,
      Option.any_some, fill]
    cases low.head?.any (0x80 ≤ ·) <;> rfl

/-- Copies of the sign in front of bytes do not change the number that the bytes stand for. -/
theorem toInt_extended (sign : Signedness) (count : Nat) (low : Bytes) :
    Bytes.toInt sign (List.replicate count (fill sign low) ++ low) = Bytes.toInt sign low := by
  have value := Bytes.toNat_append (List.replicate count (fill sign low)) low
  cases sign with
  | unsigned =>
    rw [fill, Bytes.toNat_replicate_zero, Nat.zero_mul, Nat.zero_add] at value
    rw [Bytes.toInt, Bytes.toInt, fill, value]
    simp
  | signed =>
    rw [Bytes.toInt, Bytes.toInt, topBit_extended, value, fill, ← Bytes.topBit_eq]
    by_cases top : low.topBit = true
    · -- The copies are worth the difference of the two ranges.
      have ones := Bytes.toNat_replicate_ones count
      have range : 2 ^ (8 * (count + low.length)) =
          ((Bytes.toNat (List.replicate count 0xFF) : Int) + 1) * 256 ^ low.length := by
        rw [Nat.mul_add, pow_add, pow_mul, pow_mul]
        exact_mod_cast congrArg (· * 256 ^ low.length) ones.symm
      have narrow : (2 : Int) ^ (8 * low.length) = 256 ^ low.length := by
        rw [pow_mul]
        norm_num
      simp only [top, and_self, if_true, List.length_append, List.length_replicate, range, narrow]
      push_cast
      ring
    · simp [top, Bytes.toNat_replicate_zero]

/-! ## Machine words as numbers -/

/-- The number that a machine word holds. -/
def toInt (sign : Signedness) {w : ByteWidth 8} (value : Word w) : Int :=
  match sign with
  | .unsigned => value.toNat
  | .signed => value.toInt

/-- The bytes of a machine word stand for the number that it holds. -/
theorem toInt_ofNat (sign : Signedness) {w : ByteWidth 8} (value : Word w) :
    Bytes.toInt sign (Bytes.ofNat w.wordBytes value.toNat) = toInt sign value := by
  have whole : (Bytes.ofNat w.wordBytes value.toNat).toNat = value.toNat := by
    rw [Bytes.toNat_ofNat, show 256 ^ w.wordBytes = 2 ^ (8 * w.wordBytes) by rw [Nat.pow_mul],
      Nat.mod_eq_of_lt value.isLt]
  -- The highest of the bits is the sign bit of the word.
  have top : (Bytes.ofNat w.wordBytes value.toNat).topBit = value.msb := by
    rw [Bytes.topBit, whole, Bytes.length_ofNat, BitVec.msb_eq_getLsbD_last, BitVec.testBit_toNat]
  rw [Bytes.toInt, top, whole, Bytes.length_ofNat]
  cases sign with
  | unsigned => simp [toInt]
  | signed =>
    rw [toInt, BitVec.toInt_eq_msb_cond]
    cases value.msb <;> simp

/-- The stored bytes of a value stand for the number that it holds, and no others of their length
do. -/
theorem stores_iff {sign : Signedness} {w : ByteWidth 8} {value : Word w} {bytes : Bytes} :
    Stores sign w value bytes ↔
      bytes.length = w.bytes ∧ Bytes.toInt sign bytes = toInt sign value := by
  have room := w.bytes_le_wordBytes
  rw [Stores, ← toInt_ofNat]
  refine and_congr_right fun length => ?_
  constructor
  · intro extended
    rw [extended, toInt_extended]
  · intro same
    -- Byte strings of one length are the same if they have the same value.
    have whole : (Bytes.ofNat w.wordBytes value.toNat).length =
        (List.replicate (w.wordBytes - w.bytes) (fill sign bytes) ++ bytes).length := by
      rw [Bytes.length_ofNat, List.length_append, List.length_replicate, length]
      omega
    apply Bytes.eq_of_toInt_eq sign whole
    rw [toInt_extended, same]

/-! ## Ranges -/

/-- The numbers with a two's complement form of `bits` bits, or with an unsigned one. -/
def InRange : Signedness → (bits : Nat) → Int → Prop
  | .unsigned, bits, x => 0 ≤ x ∧ x < 2 ^ bits
  | .signed, bits, x => -2 ^ (bits - 1) ≤ x ∧ x < 2 ^ (bits - 1)

instance (sign : Signedness) (bits : Nat) (x : Int) : Decidable (InRange sign bits x) :=
  match sign with
  | .unsigned => inferInstanceAs (Decidable (0 ≤ x ∧ x < 2 ^ bits))
  | .signed => inferInstanceAs (Decidable (-2 ^ (bits - 1) ≤ x ∧ x < 2 ^ (bits - 1)))

/-- The sign bit is worth half of all numbers. -/
theorem two_pow_pred {bits : Nat} (h : 0 < bits) : (2 : Int) ^ bits = 2 * 2 ^ (bits - 1) := by
  rw [← pow_succ', Nat.sub_add_cancel h]

/-- Byte strings stand for numbers in the range of their bits. -/
theorem inRange_toInt (sign : Signedness) {bytes : Bytes} (h : bytes ≠ []) :
    InRange sign (8 * bytes.length) (Bytes.toInt sign bytes) := by
  have length := List.length_pos_iff.2 h
  have fits : (bytes.toNat : Int) < 2 ^ (8 * bytes.length) := by
    exact_mod_cast bytes.toNat_lt_two_pow
  rw [Bytes.toInt]
  cases sign with
  | unsigned => simp [InRange, fits]
  | signed =>
    -- The range is split in halves, and the sign bit tells which.
    have half := two_pow_pred (show 0 < 8 * bytes.length by omega)
    have top : bytes.topBit = true ↔ (2 : Int) ^ (8 * bytes.length - 1) ≤ bytes.toNat := by
      rw [Bytes.topBit_iff h]
      exact_mod_cast Iff.rfl
    simp only [InRange, true_and, top]
    split <;> omega

/-- A number in range is told by its remainder. -/
theorem eq_of_emod_eq {sign : Signedness} {bits : Nat} {x y : Int} (pos : 0 < bits)
    (hx : InRange sign bits x) (hy : InRange sign bits y) (h : x % 2 ^ bits = y % 2 ^ bits) :
    x = y := by
  have half := two_pow_pred pos
  have divides : (2 : Int) ^ bits ∣ x - y :=
    Int.dvd_of_emod_eq_zero (Int.emod_eq_emod_iff_emod_sub_eq_zero.1 h)
  have near : |x - y| < 2 ^ bits := by
    rw [abs_lt]
    cases sign <;> simp only [InRange] at hx hy <;> omega
  have same := Int.eq_zero_of_abs_lt_dvd divides near
  omega

/-- Every number in range has bytes that stand for it. -/
theorem exists_bytes {sign : Signedness} {count : Nat} {x : Int} (pos : 0 < count)
    (h : InRange sign (8 * count) x) :
    ∃ bytes : Bytes, bytes.length = count ∧ Bytes.toInt sign bytes = x := by
  have range : (0 : Int) < 2 ^ (8 * count) := Int.pow_pos (by decide)
  have nonneg : 0 ≤ x % 2 ^ (8 * count) := Int.emod_nonneg _ (Int.ne_of_gt range)
  have less : x % 2 ^ (8 * count) < 2 ^ (8 * count) := Int.emod_lt_of_pos _ range
  obtain ⟨n, residue⟩ := Int.eq_ofNat_of_zero_le nonneg
  have length := Bytes.length_ofNat count n
  refine ⟨Bytes.ofNat count n, length, ?_⟩
  have inside := inRange_toInt sign (List.ne_nil_of_length_pos (length.symm ▸ pos))
  rw [length] at inside
  apply eq_of_emod_eq (by omega) inside h
  -- Both numbers have the remainder `n`, which fits in the bytes.
  have value := Bytes.toInt_emod sign (Bytes.ofNat count n)
  have fits : n < 256 ^ count := by
    rw [residue] at less
    rw [show 256 ^ count = 2 ^ (8 * count) by rw [Nat.pow_mul]]
    exact_mod_cast less
  rw [length, Bytes.toNat_ofNat, Nat.mod_eq_of_lt fits] at value
  rw [value, residue]

/-! ## Codecs -/

theorem ne_nil_of_length {w : ByteWidth 8} {bytes : Bytes} (h : bytes.length = w.bytes) :
    bytes ≠ [] :=
  List.ne_nil_of_length_pos (h ▸ w.pos)

/-- A value is written if the number that it holds is in the range of the width, and only then. -/
theorem exists_encode_iff {sign : Signedness} {w : ByteWidth 8} {value : Word w} :
    (∃ data, encode sign w value = .ok data) ↔ InRange sign w.bits (toInt sign value) := by
  simp only [encode_eq_ok_iff, stores_iff]
  constructor
  · rintro ⟨data, length, same⟩
    have range := inRange_toInt sign (ne_nil_of_length length)
    rwa [length, same] at range
  · intro range
    exact exists_bytes w.pos range

/-- The only fault of a value is that it is out of range. -/
theorem encode_eq_error {sign : Signedness} {w : ByteWidth 8} {value : Word w}
    (h : ¬InRange sign w.bits (toInt sign value)) :
    encode sign w value = .error (.valueOutOfRange w.bytes) := by
  rw [← exists_encode_iff] at h
  rw [encode] at h ⊢
  split
  · rename_i fits
    exact absurd ⟨_, if_pos fits⟩ h
  · rfl

/-- The bytes written of a value have the number that it holds as their big-endian value, modulo
the range of the width. -/
theorem toNat_of_encode {sign : Signedness} {w : ByteWidth 8} {value : Word w} {data : Bytes}
    (h : encode sign w value = .ok data) :
    data.length = w.bytes ∧ (data.toNat : Int) = toInt sign value % 2 ^ w.bits := by
  obtain ⟨length, same⟩ := stores_iff.1 (encode_eq_ok_iff.1 h)
  refine ⟨length, ?_⟩
  rw [← same, ByteWidth.bits, ← length, Bytes.toInt_emod]

/-- Bytes of the width's length are read as the value that holds the number they stand for. -/
theorem exists_decode (sign : Signedness) {w : ByteWidth 8} {data : Bytes}
    (h : data.length = w.bytes) :
    ∃ value, decode sign w data = .ok value ∧ toInt sign value = Bytes.toInt sign data := by
  obtain ⟨value, read⟩ : ∃ value, decode sign w data = .ok value := by
    rw [decode, Bytes.ofLength_eq_ok_iff.2 ⟨h, rfl⟩]
    exact ⟨_, rfl⟩
  exact ⟨value, read, (stores_iff.1 (decode_eq_ok_iff.1 read)).2.symm⟩

end IntegerCodec

open IntegerCodec in
/-- An integer codec of `k` bytes writes the numbers of its range and refuses all others. What it
writes has exactly `k` bytes, and their big-endian value is the number modulo the range. It reads
exactly the byte strings of `k` bytes, each as the number that it stands for. -/
theorem Codec.integer_twosComplement (sign : Signedness) (w : ByteWidth 8) :
    (∀ value : Word w,
      if InRange sign w.bits (toInt sign value) then
        ∃ data, (Codec.integer sign w).encode value = .ok data ∧ data.length = w.bytes ∧
          (data.toNat : Int) = toInt sign value % 2 ^ w.bits
      else (Codec.integer sign w).encode value = .error (.valueOutOfRange w.bytes)) ∧
    (∀ data : Bytes,
      if data.length = w.bytes then
        ∃ value : Word w, (Codec.integer sign w).decode data = .ok value ∧
          toInt sign value =
            data.toNat - if sign = .signed ∧ data.topBit = true then 2 ^ w.bits else 0
      else
        (Codec.integer sign w).decode data = .error (.invalidLength w.bytes data.length)) := by
  constructor
  · intro value
    split
    · rename_i range
      obtain ⟨data, written⟩ := exists_encode_iff.2 range
      exact ⟨data, written, toNat_of_encode written⟩
    · rename_i outside
      exact encode_eq_error outside
  · intro data
    split
    · rename_i length
      obtain ⟨value, read, same⟩ := exists_decode sign length
      refine ⟨value, read, ?_⟩
      rw [same, Bytes.toInt, length]
      rfl
    · rename_i other
      exact Codec.decode_of_length_ne rfl (Nat.le_trans w.le_limit (by decide)) other

end RowBindings
