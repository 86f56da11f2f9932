import Mathlib.Algebra.Group.Nat.Defs
import RowBindings.Codec
import RowBindings.Proofs.Text.Utf8

/-!
# Codecs undo themselves

`Codec.decode_eq_ok_iff` says of every codec that bytes are read as a value exactly when the value
is written as those bytes, so neither direction loses or invents anything. A codec of a fixed width
writes exactly that many bytes and refuses any other number of them.
-/

namespace RowBindings

/-! ## Bytes and blocks -/

/-- Writing keeps the value modulo the range of the bytes. -/
theorem Bytes.toNat_ofNat (count value : Nat) :
    (Bytes.ofNat count value).toNat = value % 256 ^ count := by
  induction count generalizing value with
  | zero => simp [Bytes.ofNat, Bytes.toNat, Nat.mod_one]
  | succ count ih =>
    rw [Bytes.ofNat, Bytes.toNat_concat, ih, Nat.pow_succ, Nat.mul_comm (256 ^ count),
      Nat.mod_mul]
    simp
    omega

/-- The value of a byte string fits in its bytes. -/
theorem Bytes.toNat_lt (bytes : Bytes) : bytes.toNat < 256 ^ bytes.length := by
  have h := Bytes.toNat_ofNat bytes.length bytes.toNat
  rw [Bytes.ofNat_toNat] at h
  rw [h]
  exact Nat.mod_lt _ (Nat.pow_pos (by omega))

/-- Only bytes of the wanted length are accepted, and they are not changed. -/
theorem Bytes.ofLength_eq_ok_iff {n : Nat} {bytes out : Bytes} :
    Bytes.ofLength n bytes = .ok out ↔ bytes.length = n ∧ out = bytes := by
  rw [Bytes.ofLength]
  split
  · rename_i h
    simp [h, eq_comm]
  · rename_i h
    simp [h]

theorem Bytes.ofLength_of_ne {n : Nat} {bytes : Bytes} (h : bytes.length ≠ n) :
    Bytes.ofLength n bytes = .error (.invalidLength n bytes.length) := by
  rw [Bytes.ofLength, if_neg h]

/-- A block is made of its own bytes and of no others. -/
theorem Block.ofBytes_eq_ok_iff {n : Nat} {bytes : Bytes} {block : Block n} :
    Block.ofBytes n bytes = .ok block ↔ block.bytes = bytes := by
  rw [Block.ofBytes]
  split
  · constructor
    · intro h
      cases h
      rfl
    · rintro rfl
      rfl
  · rename_i h
    simp only [reduceCtorEq, false_iff]
    rintro rfl
    exact h block.length_eq

theorem Block.ofBytes_of_ne {n : Nat} {bytes : Bytes} (h : bytes.length ≠ n) :
    Block.ofBytes n bytes = .error (.invalidLength n bytes.length) := by
  rw [Block.ofBytes, dif_neg h]

/-! ## Integers

Writing and reading agree because both say the same of the value and the bytes: `Stores`. -/

namespace IntegerCodec

/-- The bytes of the machine word are the stored bytes after as many copies of the sign as it
takes. -/
def Stores (sign : Signedness) (w : ByteWidth 8) (value : Word w) (bytes : Bytes) : Prop :=
  bytes.length = w.bytes ∧
    Bytes.ofNat w.wordBytes value.toNat =
      List.replicate (w.wordBytes - w.bytes) (fill sign bytes) ++ bytes

/-- A word is written as the bytes that store it, and only if there are such bytes. -/
theorem encode_eq_ok_iff {sign : Signedness} {w : ByteWidth 8} {value : Word w} {bytes : Bytes} :
    encode sign w value = .ok bytes ↔ Stores sign w value bytes := by
  have room := w.bytes_le_wordBytes
  have length : (Bytes.ofNat w.wordBytes value.toNat).length = w.wordBytes := by simp
  simp only [encode, Stores]
  generalize Bytes.ofNat w.wordBytes value.toNat = full at *
  constructor
  · intro h
    split at h
    · rename_i signs
      obtain rfl := Except.ok.inj h
      -- What is left out is the same byte throughout, so it is copies of that byte.
      have copies : full.take (w.wordBytes - w.bytes) =
          List.replicate (w.wordBytes - w.bytes) (fill sign (full.drop (w.wordBytes - w.bytes))) :=
        List.eq_replicate_iff.2 ⟨by rw [List.length_take]; omega, by simpa using signs⟩
      refine ⟨by rw [List.length_drop]; omega, ?_⟩
      rw [← copies, List.take_append_drop]
    · cases h
  · rintro ⟨stored, rfl⟩
    have drop : (List.replicate (w.wordBytes - w.bytes) (fill sign bytes) ++ bytes).drop
        (w.wordBytes - w.bytes) = bytes := List.drop_left' (by simp)
    have take : (List.replicate (w.wordBytes - w.bytes) (fill sign bytes) ++ bytes).take
        (w.wordBytes - w.bytes) = List.replicate (w.wordBytes - w.bytes) (fill sign bytes) :=
      List.take_left' (by simp)
    rw [drop, take, if_pos (by simp)]

/-- A word is read from the bytes that store it. -/
theorem decode_eq_ok_iff {sign : Signedness} {w : ByteWidth 8} {value : Word w} {bytes : Bytes} :
    decode sign w bytes = .ok value ↔ Stores sign w value bytes := by
  have room := w.bytes_le_wordBytes
  have range : 256 ^ w.wordBytes = 2 ^ (8 * w.wordBytes) := by rw [Nat.pow_mul]
  by_cases stored : bytes.length = w.bytes
  case neg =>
    rw [decode, Bytes.ofLength_of_ne stored]
    simp [Stores, stored, Except.map]
  rw [decode, Bytes.ofLength_eq_ok_iff.2 ⟨stored, rfl⟩, Stores]
  simp only [Except.map, Except.ok.injEq, stored, true_and]
  generalize hword : List.replicate (w.wordBytes - w.bytes) (fill sign bytes) ++ bytes = word
  have length : word.length = w.wordBytes := by
    rw [← hword, List.length_append, List.length_replicate]
    omega
  -- The word is as long as the machine word, so nothing is cut off in either direction.
  constructor
  · rintro rfl
    have fits := Bytes.toNat_lt word
    rw [length, range] at fits
    rw [BitVec.toNat_ofNat, Nat.mod_eq_of_lt fits, ← length, Bytes.ofNat_toNat]
  · rintro rfl
    apply BitVec.eq_of_toNat_eq
    rw [BitVec.toNat_ofNat, Bytes.toNat_ofNat, range, Nat.mod_mod, Nat.mod_eq_of_lt value.isLt]

end IntegerCodec

/-! ## All codecs -/

namespace Codec

/-- An array of fixed size is its own encoding if it has that size, which is 32 at most. -/
theorem fixedArray_eq_ok_iff {size : Nat} {data out : Bytes} :
    fixedArray size data = .ok out ↔ size ≤ 32 ∧ data.length = size ∧ out = data := by
  rw [fixedArray]
  split
  · simp only [reduceCtorEq, false_iff]
    omega
  · rename_i h
    rw [Bytes.ofLength_eq_ok_iff]
    simp only [Nat.not_lt.1 h, true_and]

/-- So writing and reading are the same. -/
theorem fixedArray_comm {size : Nat} {data value : Bytes} :
    fixedArray size data = .ok value ↔ fixedArray size value = .ok data := by
  rw [fixedArray_eq_ok_iff, fixedArray_eq_ok_iff]
  constructor <;> rintro ⟨room, length, rfl⟩ <;> exact ⟨room, length, rfl⟩

/-- A truth value is read from one byte, which is zero or one. -/
theorem decodeBool_eq_ok_iff {data : Bytes} {value : Bool} :
    decodeBool data = .ok value ↔ [if value then 1 else 0] = data := by
  match data with
  | [] => simp [decodeBool]
  | [b] =>
    by_cases zero : b = 0
    · subst zero
      cases value <;> simp [decodeBool]
    by_cases one : b = 1
    · subst one
      cases value <;> simp [decodeBool]
    -- A byte other than the two is refused, and neither value is written as it.
    have refused : decodeBool [b] = .error (.invalidBool b) := by simp [decodeBool]
    rw [refused]
    cases value <;> simp [Ne.symm zero, Ne.symm one]
  | _ :: _ :: _ => simp [decodeBool]

/-- A text is read from its encoding. -/
theorem decodeString_eq_ok_iff {data : Bytes} {value : String} :
    (Text.decodeUtf8 data).mapError CodecError.invalidUtf8 = .ok value ↔
      Text.encodeUtf8 value = data := by
  constructor
  · intro h
    cases read : Text.decodeUtf8 data with
    | error e => rw [read] at h; cases h
    | ok s =>
      rw [read] at h
      cases h
      exact Text.encodeUtf8_of_decodeUtf8 read
  · rintro rfl
    rw [Text.decodeUtf8_encodeUtf8]
    rfl

/-- A wide integer is read from the bytes of its block. -/
theorem decodeU256_eq_ok_iff {data : Bytes} {value : U256} :
    (Block.ofBytes 32 data).map U256.mk = .ok value ↔ value.block.bytes = data := by
  rw [← Block.ofBytes_eq_ok_iff]
  cases Block.ofBytes 32 data with
  | error e => simp [Except.map]
  | ok block =>
    cases value
    simp [Except.map]

/-- Bytes are read as a value exactly when the value is written as those bytes. -/
theorem decode_eq_ok_iff (c : Codec) (data : Bytes) (value : c.Host) :
    c.decode data = .ok value ↔ c.encode value = .ok data := by
  have written (out : Bytes) : Except.ok (ε := CodecError) out = .ok data ↔ out = data := by simp
  cases c with
  | address => exact Block.ofBytes_eq_ok_iff.trans (written _).symm
  | bool => exact decodeBool_eq_ok_iff.trans (written _).symm
  | bytes => exact eq_comm
  | string => exact decodeString_eq_ok_iff.trans (written _).symm
  | hash => exact Block.ofBytes_eq_ok_iff.trans (written _).symm
  | uint256 => exact decodeU256_eq_ok_iff.trans (written _).symm
  | integer => exact IntegerCodec.decode_eq_ok_iff.trans IntegerCodec.encode_eq_ok_iff.symm
  | fixedBytes => exact fixedArray_comm

/-- The number of bytes that every value of a codec is stored in, if it is always the same. -/
def storedBytes? : Codec → Option Nat
  | address => some 20
  | bool => some 1
  | bytes | string => none
  | hash | uint256 => some 32
  | integer _ w => some w.bytes
  | fixedBytes size => some size

/-- A codec of a fixed width writes exactly that many bytes. -/
theorem length_of_encode {c : Codec} {n : Nat} {value : c.Host} {data : Bytes}
    (fixed : c.storedBytes? = some n) (h : c.encode value = .ok data) : data.length = n := by
  cases c with
  | address =>
    cases fixed
    cases h
    exact Block.length_eq _
  | bool =>
    cases fixed
    cases h
    rfl
  | bytes => cases fixed
  | string => cases fixed
  | hash =>
    cases fixed
    cases h
    exact Block.length_eq _
  | uint256 =>
    cases fixed
    cases h
    exact Block.length_eq _
  | integer sign w =>
    cases fixed
    exact (IntegerCodec.encode_eq_ok_iff.1 h).1
  -- Of these the value itself may have the wrong length, which the codec refuses.
  | fixedBytes size =>
    cases fixed
    obtain ⟨-, length, rfl⟩ := fixedArray_eq_ok_iff.1 h
    exact length

/-- A codec of a fixed width, which is 32 bytes at most, refuses any other number of bytes. -/
theorem decode_of_length_ne {c : Codec} {n : Nat} {data : Bytes}
    (fixed : c.storedBytes? = some n) (small : n ≤ 32) (h : data.length ≠ n) :
    c.decode data = .error (.invalidLength n data.length) := by
  cases c with
  | address =>
    cases fixed
    exact Block.ofBytes_of_ne h
  | bool =>
    cases fixed
    change decodeBool data = _
    -- A single byte has the right length; what is longer falls to the last case.
    match data, h with
    | [], _ => rfl
    | [_], h => exact absurd rfl h
    | _ :: _ :: _, _ =>
      rw [decodeBool.eq_4 _ (by simp) (by simp) (by simp)]
      rfl
  | bytes => cases fixed
  | string => cases fixed
  | hash =>
    cases fixed
    exact Block.ofBytes_of_ne h
  | uint256 =>
    cases fixed
    change (Block.ofBytes 32 data).map U256.mk = _
    rw [Block.ofBytes_of_ne h]
    rfl
  | integer sign w =>
    cases fixed
    change IntegerCodec.decode sign w data = _
    rw [IntegerCodec.decode, Bytes.ofLength_of_ne h]
    rfl
  | fixedBytes size =>
    obtain rfl : size = n := Option.some.inj fixed
    change fixedArray size data = _
    rw [fixedArray, if_neg (by omega), Bytes.ofLength_of_ne h]
    rfl

end Codec

end RowBindings
