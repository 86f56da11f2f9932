import RowBindings.Descriptor
import RowBindings.Proofs.Codec.RoundTrip

/-!
# The codec of a resolved type

A type names the routines that store its values, and the names are texts: they are put together
from a label and a number of bits, and cut into words and lowered on the way. `resolve_codec` says
that a type that `resolve` returns always hits a codec in this way, that the codec is the one for
its host type and its width, and that it writes and reads values in the size of the type.
-/

namespace RowBindings

open Text

/-! ## The eight widths of an integer -/

/-- A property of the widths of up to eight bytes is decided by eight cases. -/
theorem ByteWidth.forall_eight {p : ByteWidth 8 → Prop}
    (h : ∀ i : Fin 8, p ⟨i + 1, Nat.succ_pos i, i.isLt⟩) (w : ByteWidth 8) : p w := by
  obtain ⟨n, pos, le⟩ := w
  obtain ⟨k, rfl⟩ := Nat.exists_eq_succ_of_ne_zero (Nat.ne_of_gt pos)
  exact h ⟨k, le⟩

/-- Rounding the bits of a width up to a power of two gives those of its machine word. -/
theorem ByteWidth.nextPowerOfTwo_bits (w : ByteWidth 8) :
    Nat.nextPowerOfTwo w.bits = 8 * w.wordBytes := by
  apply ByteWidth.forall_eight (p := fun w => Nat.nextPowerOfTwo w.bits = 8 * w.wordBytes)
  decide +kernel

/-! ## Finding a codec by its suffix -/

namespace Codec

/-- No two codecs share a suffix. -/
theorem nodup_suffix_all (size : Nat) : ((all size).map suffix).Nodup := by
  have same : (all size).map suffix = (all 0).map suffix := rfl
  rw [same]
  decide +kernel

/-- Every codec is listed at the width that it is used at. -/
theorem mem_all {size : Nat} {c : Codec} (h : ∀ w, c.width? = some w → w = size) :
    c ∈ all size := by
  -- The eight widths are listed by their number, so each is found at its own.
  have listed (w : ByteWidth 8) :
      w ∈ List.ofFn fun i : Fin 8 => (⟨i + 1, by omega, by omega⟩ : ByteWidth 8) := by
    rw [List.mem_ofFn]
    apply ByteWidth.forall_eight
      (p := fun w => ∃ i : Fin 8, (⟨i + 1, by omega, by omega⟩ : ByteWidth 8) = w)
    intro i
    exact ⟨i, rfl⟩
  rw [all]
  cases c with
  | integer sign w =>
    cases sign with
    | unsigned =>
      apply List.mem_append_left
      exact List.mem_append_right _ (List.mem_map_of_mem (listed w))
    | signed => exact List.mem_append_right _ (List.mem_map_of_mem (listed w))
  | fixedBytes n =>
    obtain rfl := h n rfl
    simp
  | _ => simp

/-- The suffix of a codec selects it among all others. -/
theorem named?_suffix {size : Nat} {c : Codec} (h : ∀ w, c.width? = some w → w = size) :
    named? c.suffix size = some c := by
  have distinct := nodup_suffix_all size
  have listed := mem_all h
  rw [named?]
  generalize all size = codecs at *
  induction codecs with
  | nil => cases listed
  | cons d rest ih =>
    rw [List.map_cons, List.nodup_cons] at distinct
    rw [List.find?_cons]
    rcases List.mem_cons.1 listed with rfl | later
    · simp
    · -- The codecs listed before have other suffixes, so the search goes on past them.
      have other : d.suffix ≠ c.suffix := by
        intro same
        exact distinct.1 (same ▸ List.mem_map_of_mem later)
      rw [beq_false_of_ne other]
      exact ih distinct.2 later

/-- The host type in the signatures of a codec's routines, as it is written. -/
def hostName : Codec → String
  | address => "Address"
  | bool => "bool"
  | bytes | fixedBytes _ => "Vec<u8>"
  | string => "String"
  | hash => "Hash"
  | uint256 => "U256"
  | integer sign w => sign.letter ++ decimal (8 * w.wordBytes)

end Codec

/-! ## From a type to its codec -/

namespace FieldType

/-- The codec for the values of a type. -/
def storage? : FieldType → Option Codec
  | address => some .address
  | bool => some .bool
  | bytes => some .bytes
  | string => some .string
  | fixedBytes w => some (.fixedBytes w.bytes)
  | hash => some .hash
  | integer sign w => some (.integer sign w)
  | uint256 => some .uint256
  | table _ => none

/-- Every type but a reference to a table has a codec. -/
theorem exists_storage {t : FieldType} (h : t.kind ≠ .table) : ∃ c, t.storage? = some c := by
  cases t with
  | table => exact absurd rfl h
  | _ => exact ⟨_, rfl⟩

/-- The name of an integer codec in snake case is the suffix of its routines. There are sixteen, so
this is decided one by one. -/
theorem codecSuffix?_integer (sign : Signedness) (w : ByteWidth 8) :
    (integer sign w).codecSuffix? = some (Codec.integer sign w).suffix := by
  apply ByteWidth.forall_eight
    (p := fun w => (integer sign w).codecSuffix? = some (Codec.integer sign w).suffix)
  cases sign <;> decide +kernel

/-- The label of a type, cut into words and lowered, is the suffix of its codec. -/
theorem codecSuffix?_eq {t : FieldType} {c : Codec} (h : t.storage? = some c) :
    t.codecSuffix? = some c.suffix := by
  cases t with
  | table => cases h
  | integer sign w =>
    cases h
    exact codecSuffix?_integer sign w
  | fixedBytes w =>
    cases h
    have lowered : snakeCase "FixedBytes" = "fixed_bytes" := by decide +kernel
    exact congrArg some lowered
  -- What has no size has a suffix that can be computed.
  | _ =>
    cases h
    decide +kernel

/-- The routine that a type names for writing is that of its codec. -/
theorem encoderName?_eq {t : FieldType} {c : Codec} (h : t.storage? = some c) :
    t.encoderName? = some ("encode_" ++ c.suffix) := by
  rw [encoderName?, codecSuffix?_eq h, Option.map_some]

theorem decoderName?_eq {t : FieldType} {c : Codec} (h : t.storage? = some c) :
    t.decoderName? = some ("decode_" ++ c.suffix) := by
  rw [decoderName?, codecSuffix?_eq h, Option.map_some]

/-- The codec takes a width exactly if the type passes one, which is the same. -/
theorem width?_eq {t : FieldType} {c : Codec} (h : t.storage? = some c) :
    c.width? = t.codecWidth? := by
  cases t <;> cases h <;> rfl

/-- The host type that a type gives is the one that its codec takes and returns. -/
theorem hostType_text_eq {t : FieldType} {c : Codec} (h : t.storage? = some c) :
    t.hostType.text = c.hostName := by
  cases t with
  | table => cases h
  | integer sign w =>
    cases h
    rw [hostType, HostType.text, Signedness.wordName, w.nextPowerOfTwo_bits]
    rfl
  | _ =>
    cases h
    rfl

/-- A codec of a fixed width stores values in the size of the type. -/
theorem storedBytes?_eq {t : FieldType} {c : Codec} (h : t.storage? = some c)
    (fixed : t ≠ bytes ∧ t ≠ string) : c.storedBytes? = some t.size := by
  cases t with
  | table => cases h
  | bytes => exact absurd rfl fixed.1
  | string => exact absurd rfl fixed.2
  | _ =>
    cases h
    rfl

/-- A width that is passed to the codec is the storage width. -/
theorem codecWidth?_eq_size {t : FieldType} {w : Nat} (h : t.codecWidth? = some w) :
    w = t.size := by
  cases t <;> cases h
  rfl

/-- No slot is wider than a word of the storage. -/
theorem size_le (t : FieldType) : t.size ≤ slotSize := by
  cases t with
  | fixedBytes w => exact Nat.le_succ_of_le w.le_limit
  | integer _ w => exact Nat.le_trans w.le_limit (by decide)
  | table => exact Nat.le_refl _
  | _ => decide

/-- The names that a type gives its routines lead to its codec. -/
theorem codec?_eq_storage? (t : FieldType) : t.codec? = t.storage? := by
  by_cases h : t.kind = .table
  · cases t with
    | table => rfl
    | _ => cases h
  · obtain ⟨c, storage⟩ := exists_storage h
    have width : ∀ w, c.width? = some w → w = t.codecWidth?.getD 0 := by
      intro w passed
      rw [width?_eq storage] at passed
      rw [passed]
      rfl
    rw [codec?, codecSuffix?_eq storage, storage, Option.bind_some, Codec.named?_suffix width]

end FieldType

end RowBindings
