import RowBindings.Proofs.Codec.Resolved
import RowBindings.Proofs.Descriptor.Canonical
import RowBindings.Text.Split

/-!
# The attributes of a resolved type

Generated code only sees what a type says of itself: its name, kind and size, its names in either
language and its routines. `resolve_attributes` relates these for every descriptor that resolves.
The name of a sized type is a word and a number in decimal, which `name_eq_append_iff` takes apart;
so what depends on the number is said in terms of the name.
-/

namespace RowBindings

open Text Descriptor

/-! ## Machine words -/

/-- The widths of the machine words in bits. -/
def machineWords : List Nat := [8, 16, 32, 64]

/-- The narrowest machine word that holds `n` bits is one of `bits` bits. -/
def IsNarrowestWord (n bits : Nat) : Prop :=
  bits ∈ machineWords ∧ n ≤ bits ∧ ∀ other ∈ machineWords, n ≤ other → bits ≤ other

instance (n bits : Nat) : Decidable (IsNarrowestWord n bits) :=
  inferInstanceAs (Decidable (_ ∧ _ ∧ _))

/-- The next power of two from a width up is that of the narrowest word which holds it. -/
theorem ByteWidth.isNarrowestWord (w : ByteWidth 8) :
    IsNarrowestWord w.bits w.bits.nextPowerOfTwo := by
  rw [w.nextPowerOfTwo_bits]
  apply ByteWidth.forall_eight (p := fun w => IsNarrowestWord w.bits (8 * w.wordBytes))
  decide +kernel

/-! ## Sized names -/

/-- The words that a size may follow are told apart by their first letters, whatever follows. -/
theorem append_inj_of_sizedStems {stem stem' s s' : String} (sized : stem ∈ sizedStems)
    (sized' : stem' ∈ sizedStems) (same : stem ++ s = stem' ++ s') : stem = stem' ∧ s = s' := by
  -- The three keywords differ in their first letter already.
  have letters : ∀ stem ∈ sizedStems, ∀ stem' ∈ sizedStems,
      stem.toList.head? = stem'.toList.head? → stem = stem' := by decide
  have begins : ∀ stem ∈ sizedStems, ∃ c, stem.toList.head? = some c := by
    simp only [sizedStems, List.forall_mem_cons]
    exact ⟨⟨_, rfl⟩, ⟨_, rfl⟩, ⟨_, rfl⟩, List.forall_mem_nil _⟩
  obtain ⟨c, first⟩ := begins stem sized
  obtain ⟨c', first'⟩ := begins stem' sized'
  have whole := head?_toList_append first s
  rw [same, head?_toList_append first' s', ← first, ← first'] at whole
  obtain rfl := letters stem sized stem' sized' whole.symm
  exact ⟨rfl, String.append_right_inj stem |>.1 same⟩

/-- The two keywords for integers differ. -/
theorem keyword_injective {sign sign' : Signedness} (same : sign.keyword = sign'.keyword) :
    sign = sign' := by
  revert same
  cases sign <;> cases sign' <;> decide

theorem keyword_ne_bytes (sign : Signedness) : sign.keyword ≠ "bytes" := by
  cases sign <;> decide

namespace FieldType

/-- The word and the number that make up the name of a sized type. -/
def sized? : FieldType → Option (String × Nat)
  | fixedBytes w => some ("bytes", w.bytes)
  | hash => some ("bytes", 32)
  | integer sign w => some (sign.keyword, w.bits)
  | uint256 => some ("uint", 256)
  | _ => none

variable {t : FieldType} {stem : String} {n : Nat}

/-- The name of a type that has a size ends in it. -/
theorem name_of_sized? (h : t.sized? = some (stem, n)) :
    stem ∈ sizedStems ∧ t.name = stem ++ decimal n := by
  cases t with
  | fixedBytes w =>
    cases h
    exact ⟨by decide, rfl⟩
  -- The name of this type is written out in full, so it is compared as it stands.
  | hash =>
    cases h
    exact ⟨by decide, by decide +kernel⟩
  | integer sign w =>
    cases h
    exact ⟨keyword_mem_sizedStems sign, rfl⟩
  | uint256 =>
    cases h
    exact ⟨by decide, by decide +kernel⟩
  | _ => cases h

/-- A type without a size is called by one of the words. -/
theorem name_mem_words (stored : t.kind ≠ .table) (h : t.sized? = none) :
    t.name ∈ wordDescriptors := by
  cases t with
  | address | bool | bytes | string => decide
  | table => exact absurd rfl stored
  | _ => cases h

/-- A type that is no table has a name of a word and a number exactly if it is of that size. -/
theorem name_eq_append_iff (stored : t.kind ≠ .table) (sized : stem ∈ sizedStems) :
    t.name = stem ++ decimal n ↔ t.sized? = some (stem, n) := by
  constructor
  · intro named
    cases own : t.sized? with
    | none =>
      -- A name without a size is a word of the grammar, and these do not end in digits.
      have word := name_mem_words stored own
      rw [named] at word
      exact absurd word (append_not_word_of_ne_empty sized (decimal_ne_empty n))
    | some pair =>
      obtain ⟨sized', named'⟩ := name_of_sized? own
      obtain ⟨rfl, number⟩ := append_inj_of_sizedStems sized sized' (named.symm.trans named')
      rw [decimal_inj.1 number]
  · intro own
    exact (name_of_sized? own).2

/-- The types named after a number of bytes. -/
theorem eq_of_name_bytes (stored : t.kind ≠ .table) (named : t.name = "bytes" ++ decimal n) :
    (∃ w : ByteWidth 31, t = .fixedBytes w ∧ n = w.bytes) ∨ t = .hash ∧ n = 32 := by
  have own := (name_eq_append_iff stored (by decide)).1 named
  cases t with
  | fixedBytes w =>
    cases own
    exact .inl ⟨w, rfl, rfl⟩
  | hash =>
    cases own
    exact .inr ⟨rfl, rfl⟩
  | integer sign w => exact absurd (Prod.mk.inj (Option.some.inj own)).1 (keyword_ne_bytes sign)
  | uint256 => exact absurd (Prod.mk.inj (Option.some.inj own)).1 (keyword_ne_bytes .unsigned)
  | _ => cases own

/-- The types named after a number of bits. -/
theorem eq_of_name_integer {sign : Signedness} (stored : t.kind ≠ .table)
    (named : t.name = sign.keyword ++ decimal n) :
    (∃ w : ByteWidth 8, t = .integer sign w ∧ n = w.bits) ∨ t = .uint256 ∧ n = 256 := by
  have own := (name_eq_append_iff stored (keyword_mem_sizedStems sign)).1 named
  cases t with
  | integer sign' w =>
    obtain ⟨same, rfl⟩ := Prod.mk.inj (Option.some.inj own)
    obtain rfl := keyword_injective same
    exact .inl ⟨w, rfl, rfl⟩
  | uint256 => exact .inr ⟨rfl, (Prod.mk.inj (Option.some.inj own)).2.symm⟩
  | fixedBytes | hash =>
    exact absurd (Prod.mk.inj (Option.some.inj own)).1.symm (keyword_ne_bytes sign)
  | _ => cases own

/-! ## Attributes -/

/-- What a reference to a table says of itself. -/
structure IsReference (t : FieldType) : Prop where
  size : t.size = 32
  codecWidth : t.codecWidth? = none
  hostType : t.hostType.text = pascalCase t.name
  solidityType : t.solidityType = "memory " ++ t.hostType.text

/-- What any other type says of itself. -/
structure IsStored (t : FieldType) : Prop where
  /-- The name is a word, with a number after it or without. -/
  name : t.name ∈ ["address", "bool", "bytes", "string"] ∨
    ∃ stem ∈ ["bytes", "uint", "int"], ∃ n, t.name = stem ++ decimal n
  bytes (n : Nat) : t.name = "bytes" ++ decimal n → t.size = n ∧ t.solidityType = t.name
  integer (sign : Signedness) (n : Nat) : t.name = sign.keyword ++ decimal n →
    8 * t.size = n ∧ t.solidityType = t.name ∧
      if n = 256 then t.hostType.text = "U256"
      else ∃ bits, IsNarrowestWord n bits ∧ t.hostType.text = sign.letter ++ decimal bits
  dynamic : t.name = "bytes" ∨ t.name = "string" →
    t.size = 32 ∧ t.solidityType = "memory " ++ t.name
  routines : ∃ suffix, t.encoderName? = some ("encode_" ++ suffix) ∧
    t.decoderName? = some ("decode_" ++ suffix)

/-- What is known of every reference to a table. -/
theorem isReference (name : String) : IsReference (.table name) :=
  ⟨rfl, rfl, rfl, rfl⟩

/-- What is known of every type that a codec stores. -/
theorem isStored (stored : t.kind ≠ .table) : IsStored t where
  name := by
    cases own : t.sized? with
    | none => exact .inl (name_mem_words stored own)
    | some pair => exact .inr ⟨pair.1, (name_of_sized? own).1, pair.2, (name_of_sized? own).2⟩
  bytes := by
    intro n named
    rcases eq_of_name_bytes stored named with ⟨w, rfl, rfl⟩ | ⟨rfl, rfl⟩
    · exact ⟨rfl, rfl⟩
    · exact ⟨rfl, rfl⟩
  integer := by
    intro sign n named
    rcases eq_of_name_integer stored named with ⟨w, rfl, rfl⟩ | ⟨rfl, rfl⟩
    -- A machine word has 64 bits at most.
    · have narrow : w.bits ≠ 256 := by
        have le := w.le_limit
        rw [ByteWidth.bits]
        omega
      rw [if_neg narrow]
      exact ⟨rfl, rfl, _, w.isNarrowestWord, rfl⟩
    · exact ⟨rfl, rfl, rfl⟩
  dynamic := by
    rintro (named | named)
    · obtain rfl := @name_injective t .bytes stored (by decide) named
      exact ⟨rfl, rfl⟩
    · obtain rfl := @name_injective t .string stored (by decide) named
      exact ⟨rfl, rfl⟩
  routines := by
    obtain ⟨c, storage⟩ := exists_storage stored
    exact ⟨c.suffix, encoderName?_eq storage, decoderName?_eq storage⟩

/-- The routines of fixed byte arrays of fewer than 32 bytes are passed the size, and no others. -/
theorem codecWidth?_eq_some_iff {w : Nat} :
    t.codecWidth? = some w ↔
      w = t.size ∧ t.kind ≠ .table ∧ ∃ n < 32, t.name = "bytes" ++ decimal n := by
  constructor
  · intro passed
    cases t with
    | fixedBytes width =>
      cases passed
      exact ⟨rfl, nofun, width.bytes, Nat.lt_succ_of_le width.le_limit, rfl⟩
    | _ => cases passed
  · rintro ⟨rfl, stored, n, less, named⟩
    rcases eq_of_name_bytes stored named with ⟨width, rfl, rfl⟩ | ⟨rfl, rfl⟩
    · rfl
    -- Of 32 bytes it would be a hash, which passes no width.
    · exact absurd less (Nat.lt_irrefl 32)

/-- A type is a reference to a table exactly if it names no routine to write its values, or none to
read them. -/
theorem kind_eq_table_iff :
    (t.kind = .table ↔ t.encoderName? = none) ∧ (t.kind = .table ↔ t.decoderName? = none) := by
  by_cases table : t.kind = .table
  · cases t with
    | table name => exact ⟨iff_of_true rfl rfl, iff_of_true rfl rfl⟩
    | _ => cases table
  · obtain ⟨suffix, encoder, decoder⟩ := (isStored table).routines
    rw [encoder, decoder]
    exact ⟨iff_of_false table nofun, iff_of_false table nofun⟩

end FieldType

open FieldType

variable {accepts : String → Bool} {descriptor : String} {t : FieldType}

/-- References to tables are the types of the descriptors that begin with the keyword. -/
theorem kind_eq_table_iff_of_resolve (h : resolve accepts descriptor = .ok t) :
    t.kind = .table ↔ ∃ name, descriptor = "table " ++ name := by
  constructor
  · intro table
    exact ⟨t.name, descriptor_eq_of_table (resolve_eq_ok_iff.1 h) table⟩
  · rintro ⟨name, rfl⟩
    have found := (resolve_eq_ok_iff.1 h).classify
    rw [classify_table, tableOfName] at found
    split at found
    · cases found
    · cases found
      rfl

end RowBindings
