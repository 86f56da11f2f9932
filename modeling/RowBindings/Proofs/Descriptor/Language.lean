import Mathlib.Tactic.Tauto
import RowBindings.Descriptor
import RowBindings.Proofs.Text.Numeral

/-!
# The language of descriptors

`Denotes` is the grammar of the descriptors that name a type and `Refuses` says of every other text
why it names none. `classify` tests prefixes one after the other; `classify_eq_ok_iff` and
`classify_eq_error_iff` say that this comes to the two relations, which know of no order.
`resolve_language` puts both in terms of the texts alone.
-/

namespace RowBindings

open Text

/-! ## Sizes -/

/-- A width is found again by its number of bytes. -/
theorem ByteWidth.ofNat?_bytes {limit : Nat} (w : ByteWidth limit) :
    ofNat? limit w.bytes = some w := by
  rw [ofNat?, dif_pos ⟨w.pos, w.le_limit⟩]

/-- No other number is a width. -/
theorem ByteWidth.ofNat?_eq_none {limit n : Nat} (h : ¬(0 < n ∧ n ≤ limit)) :
    ofNat? limit n = none := by
  rw [ofNat?, dif_neg h]

namespace Descriptor

/-- The bits that an integer type of up to 64 bits may have. -/
def integerSizes : List Int := [8, 16, 24, 32, 40, 48, 56, 64]

/-- Integers up to 64 bits have sizes that are whole bytes. -/
theorem mem_integerSizes {n : Int} : n ∈ integerSizes ↔ ∃ w : ByteWidth 8, n = w.bits := by
  constructor
  · intro member
    -- The list is the multiples of eight between the bounds.
    have bounds : 8 ≤ n ∧ n ≤ 64 ∧ n % 8 = 0 := by
      simp only [integerSizes, List.mem_cons, List.not_mem_nil, or_false] at member
      omega
    refine ⟨⟨(n / 8).toNat, by omega, by omega⟩, ?_⟩
    show n = ((8 * (n / 8).toNat : Nat) : Int)
    omega
  · rintro ⟨w, rfl⟩
    have pos := w.pos
    have le := w.le_limit
    simp only [integerSizes, ByteWidth.bits, List.mem_cons, List.not_mem_nil, or_false]
    omega

theorem bytesOfSize_width (w : ByteWidth 31) : bytesOfSize w.bytes = .ok (.fixedBytes w) := by
  have le := w.le_limit
  rw [bytesOfSize, if_neg (by omega), Int.toNat_natCast, w.ofNat?_bytes]

/-- Bytes have sizes from 1 to 32. -/
theorem bytesOfSize_invalid {n : Int} (h : ¬(1 ≤ n ∧ n ≤ 32)) :
    bytesOfSize n = .error (.invalidSize .bytes n) := by
  rw [bytesOfSize, if_neg (by omega), ByteWidth.ofNat?_eq_none (by omega)]

theorem integerOfBits_width (sign : Signedness) (w : ByteWidth 8) :
    integerOfBits sign w.bits = .ok (.integer sign w) := by
  have le := w.le_limit
  have bytes : ((w.bits : Int) / 8).toNat = w.bytes := by
    rw [ByteWidth.bits]
    omega
  unfold integerOfBits
  rw [bytes, w.ofNat?_bytes, ByteWidth.bits, if_neg (by omega), if_pos (by omega)]

/-- All other sizes but 256 are refused. -/
theorem integerOfBits_invalid {sign : Signedness} {n : Int} (wide : n ≠ 256)
    (h : n ∉ integerSizes) : integerOfBits sign n = .error (.invalidSize .integer n) := by
  unfold integerOfBits
  rw [if_neg wide]
  split
  · rename_i whole
    -- A multiple of eight outside the list has no width in bytes.
    have none : ByteWidth.ofNat? 8 (n / 8).toNat = none := by
      apply ByteWidth.ofNat?_eq_none
      rintro ⟨pos, le⟩
      apply h
      refine mem_integerSizes.2 ⟨⟨(n / 8).toNat, pos, le⟩, ?_⟩
      show n = ((8 * (n / 8).toNat : Nat) : Int)
      omega
    rw [none]
  · rfl

/-! ## The prefixes -/

variable {accepts : String → Bool}

/-- The descriptors that consist of a single word. -/
def wordDescriptors : List String := ["address", "bool", "bytes", "string"]

/-- The words that a size may follow. -/
def sizedStems : List String := ["bytes", "uint", "int"]

theorem keyword_mem_sizedStems (sign : Signedness) : sign.keyword ∈ sizedStems := by
  cases sign <;> decide

theorem after?_self (stem s : String) : after? stem.toList (stem ++ s).toList = some s.toList :=
  after?_eq_some_iff.2 String.toList_append

/-- A descriptor begins with a stem if something is found after it. -/
theorem eq_append_of_after? {stem descriptor : String} {rest : List Char}
    (h : after? stem.toList descriptor.toList = some rest) :
    descriptor = stem ++ String.ofList rest := by
  rw [← String.toList_inj, String.toList_append, String.toList_ofList]
  exact after?_eq_some_iff.1 h

/-- A descriptor does not begin with a stem if nothing is found after it. -/
theorem ne_append_of_after? {stem descriptor : String}
    (h : after? stem.toList descriptor.toList = none) (s : String) : descriptor ≠ stem ++ s := by
  rintro rfl
  rw [after?_self] at h
  cases h

/-- Any descriptor but the four words is held against the prefixes in their order. -/
theorem classify_of_not_word {descriptor : String} (h : descriptor ∉ wordDescriptors) :
    classify accepts descriptor =
      if let some size := after? "bytes".toList descriptor.toList then
        readSize size >>= bytesOfSize
      else if let some suffix := after? "uint".toList descriptor.toList then
        integerOfSuffix .unsigned suffix
      else if let some suffix := after? "int".toList descriptor.toList then
        integerOfSuffix .signed suffix
      else if let some name := after? "table ".toList descriptor.toList then
        tableOfName accepts (String.ofList name)
      else .error .unknown := by
  simp only [wordDescriptors, List.mem_cons, List.not_mem_nil, or_false, not_or] at h
  obtain ⟨address, bool, bytes, string⟩ := h
  unfold classify
  exact (if_neg address).trans ((if_neg bool).trans ((if_neg bytes).trans (if_neg string)))

/-- A text with a prefix is no word if none of the words has the prefix. -/
theorem append_not_word {stem s : String}
    (h : ∀ word ∈ wordDescriptors, after? stem.toList word.toList = none) :
    stem ++ s ∉ wordDescriptors := by
  intro member
  have other := h _ member
  rw [after?_self] at other
  cases other

/-- A word that a size may follow is no word of its own once something follows it. -/
theorem append_not_word_of_ne_empty {stem s : String} (sized : stem ∈ sizedStems) (h : s ≠ "") :
    stem ++ s ∉ wordDescriptors := by
  intro member
  -- Of the words only `bytes` has such a prefix, with nothing after it.
  have prefixed : ∀ stem ∈ sizedStems, ∀ word ∈ wordDescriptors,
      after? stem.toList word.toList = none ∨ after? stem.toList word.toList = some [] := by
    decide
  have nonempty : s.toList ≠ [] := mt String.toList_eq_nil_iff.1 h
  rcases prefixed _ sized _ member with none | empty
  · rw [after?_self] at none
    cases none
  · rw [after?_self] at empty
    exact nonempty (Option.some.inj empty)

/-- Behind `bytes` a size is read. -/
theorem classify_bytes {s : String} (h : s ≠ "") :
    classify accepts ("bytes" ++ s) = readSize s.toList >>= bytesOfSize := by
  have other : "bytes" ++ s ∉ wordDescriptors := append_not_word_of_ne_empty (by decide) h
  simp only [classify_of_not_word other, after?_self]

/-- Behind the keyword of an integer a size is read, if there is anything. -/
theorem classify_integer (sign : Signedness) (s : String) :
    classify accepts (sign.keyword ++ s) = integerOfSuffix sign s.toList := by
  cases sign with
  | unsigned =>
    have other : "uint" ++ s ∉ wordDescriptors := append_not_word (by decide)
    have bytes : after? "bytes".toList ("uint" ++ s).toList = none := by
      rw [String.toList_append]
      rfl
    rw [Signedness.keyword]
    simp only [classify_of_not_word other, bytes, after?_self]
  | signed =>
    have other : "int" ++ s ∉ wordDescriptors := append_not_word (by decide)
    have bytes : after? "bytes".toList ("int" ++ s).toList = none := by
      rw [String.toList_append]
      rfl
    -- `int` is tried after `uint`, which therefore must not match.
    have uint : after? "uint".toList ("int" ++ s).toList = none := by
      rw [String.toList_append]
      rfl
    rw [Signedness.keyword]
    simp only [classify_of_not_word other, bytes, uint, after?_self]

/-- Behind `table` and a space there is a name. -/
theorem classify_table (name : String) :
    classify accepts ("table " ++ name) = tableOfName accepts name := by
  have other : "table " ++ name ∉ wordDescriptors := append_not_word (by decide)
  have sized : ∀ stem ∈ sizedStems, after? stem.toList ("table " ++ name).toList = none := by
    rw [String.toList_append]
    intro stem member
    simp only [sizedStems, List.mem_cons, List.not_mem_nil, or_false] at member
    rcases member with rfl | rfl | rfl <;> rfl
  simp only [classify_of_not_word other, after?_self, String.ofList_toList,
    sized "bytes" (by decide), sized "uint" (by decide), sized "int" (by decide)]

/-! ## The grammar -/

/-- The descriptors of the types. -/
inductive Denotes (accepts : String → Bool) : String → FieldType → Prop
  | address : Denotes accepts "address" .address
  | bool : Denotes accepts "bool" .bool
  | bytes : Denotes accepts "bytes" .bytes
  | string : Denotes accepts "string" .string
  | hash {s : String} : numeral? s.toList = some 32 → Denotes accepts ("bytes" ++ s) .hash
  | fixedBytes {s : String} (w : ByteWidth 31) :
    numeral? s.toList = some ↑w.bytes → Denotes accepts ("bytes" ++ s) (.fixedBytes w)
  | uint : Denotes accepts "uint" .uint256
  | uint256 {s : String} : numeral? s.toList = some 256 → Denotes accepts ("uint" ++ s) .uint256
  | integer {s : String} (sign : Signedness) (w : ByteWidth 8) :
    numeral? s.toList = some ↑w.bits → Denotes accepts (sign.keyword ++ s) (.integer sign w)
  | table {name : String} : name ≠ "" → accepts name = true →
    Denotes accepts ("table " ++ name) (.table name)

/-- Why the other texts are no descriptors. -/
inductive Refuses (accepts : String → Bool) : String → TypeFault → Prop
  | malformed {stem s : String} {fault : NumberFault} : stem ∈ sizedStems → s ≠ "" →
    readInt64 s.toList = .error fault → Refuses accepts (stem ++ s) (.malformedSize fault)
  | bytesSize {s : String} {n : Int} : numeral? s.toList = some n → ¬(1 ≤ n ∧ n ≤ 32) →
    Refuses accepts ("bytes" ++ s) (.invalidSize .bytes n)
  | integerSize {s : String} {n : Int} (sign : Signedness) : numeral? s.toList = some n →
    n ≠ 256 → n ∉ integerSizes → Refuses accepts (sign.keyword ++ s) (.invalidSize .integer n)
  | int : Refuses accepts "int" .signedWide
  | int256 {s : String} : numeral? s.toList = some 256 → Refuses accepts ("int" ++ s) .signedWide
  | table {name : String} : name = "" ∨ accepts name = false →
    Refuses accepts ("table " ++ name) (.invalidTable name)
  | unknown {descriptor : String} : descriptor ∉ wordDescriptors →
    (∀ stem ∈ "table " :: sizedStems, ∀ s, descriptor ≠ stem ++ s) →
    Refuses accepts descriptor .unknown

/-- A numeral is not empty. -/
theorem ne_empty_of_numeral? {s : String} {n : Int} (h : numeral? s.toList = some n) : s ≠ "" := by
  rintro rfl
  cases h

theorem readSize_of_numeral? {s : List Char} {n : Int} (h : numeral? s = some n) :
    readSize s = .ok n := by
  rw [readSize, readInt64_eq_ok_iff.2 h]
  rfl

/-- What is no number is malformed for the reason for which it is none. -/
theorem readSize_of_fault {s : List Char} {fault : NumberFault} (h : readInt64 s = .error fault) :
    readSize s = .error (.malformedSize fault) := by
  rw [readSize, h]
  rfl

/-- What stands behind the keyword of an integer is its size in bits. -/
theorem integerOfSuffix_of_ne_empty {sign : Signedness} {s : String} (h : s ≠ "") :
    integerOfSuffix sign s.toList = readSize s.toList >>= integerOfBits sign := by
  have nonempty : s.toList ≠ [] := mt String.toList_eq_nil_iff.1 h
  rw [integerOfSuffix, if_neg nonempty]

/-- A size that is a numeral decides the type. -/
theorem classify_bytes_of_numeral? {s : String} {n : Int} (h : numeral? s.toList = some n) :
    classify accepts ("bytes" ++ s) = bytesOfSize n := by
  rw [classify_bytes (ne_empty_of_numeral? h), readSize_of_numeral? h]
  rfl

/-- An integer with a size is looked at by its bits. -/
theorem classify_integer_of_numeral? (sign : Signedness) {s : String} {n : Int}
    (h : numeral? s.toList = some n) :
    classify accepts (sign.keyword ++ s) = integerOfBits sign n := by
  rw [classify_integer, integerOfSuffix_of_ne_empty (ne_empty_of_numeral? h),
    readSize_of_numeral? h]
  rfl

/-- A suffix that is no number is malformed behind each of the three keywords. -/
theorem classify_of_fault {stem s : String} {fault : NumberFault} (sized : stem ∈ sizedStems)
    (nonempty : s ≠ "") (h : readInt64 s.toList = .error fault) :
    classify accepts (stem ++ s) = .error (.malformedSize fault) := by
  have integer (sign : Signedness) :
      classify accepts (sign.keyword ++ s) = .error (.malformedSize fault) := by
    rw [classify_integer, integerOfSuffix_of_ne_empty nonempty, readSize_of_fault h]
    rfl
  simp only [sizedStems, List.mem_cons, List.not_mem_nil, or_false] at sized
  rcases sized with rfl | rfl | rfl
  · rw [classify_bytes nonempty, readSize_of_fault h]
    rfl
  · exact integer .unsigned
  · exact integer .signed

/-- Every descriptor of the language is classified as the type that it denotes. -/
theorem Denotes.classify {descriptor : String} {t : FieldType} (h : Denotes accepts descriptor t) :
    classify accepts descriptor = .ok t := by
  cases h with
  | address | bool | bytes | string | uint => rfl
  | hash spelled => rw [classify_bytes_of_numeral? spelled]; rfl
  | fixedBytes w spelled => rw [classify_bytes_of_numeral? spelled, bytesOfSize_width]
  | uint256 spelled => exact classify_integer_of_numeral? .unsigned spelled
  | integer sign w spelled => rw [classify_integer_of_numeral? sign spelled, integerOfBits_width]
  | table nonempty accepted =>
    rw [classify_table, tableOfName, if_neg]
    simp [nonempty, accepted]

/-- Every descriptor that is refused for a reason is classified as a fault for that reason. -/
theorem Refuses.classify {descriptor : String} {fault : TypeFault}
    (h : Refuses accepts descriptor fault) : classify accepts descriptor = .error fault := by
  cases h with
  | malformed sized nonempty refused => exact classify_of_fault sized nonempty refused
  | bytesSize spelled outside =>
    rw [classify_bytes_of_numeral? spelled, bytesOfSize_invalid outside]
  | integerSize sign spelled narrow outside =>
    rw [classify_integer_of_numeral? sign spelled, integerOfBits_invalid narrow outside]
  | int => rfl
  | int256 spelled => exact classify_integer_of_numeral? .signed spelled
  | table refused =>
    rw [classify_table, tableOfName, if_pos]
    simpa using refused
  | unknown other unprefixed =>
    -- No keyword matches, so all four branches are passed.
    have none (stem : String) (member : stem ∈ "table " :: sizedStems) :
        after? stem.toList descriptor.toList = none := by
      cases found : after? stem.toList descriptor.toList with
      | none => rfl
      | some rest => exact absurd (eq_append_of_after? found) (unprefixed stem member _)
    simp only [classify_of_not_word other, none "bytes" (by decide), none "uint" (by decide),
      none "int" (by decide), none "table " (by decide)]

/-! ## Every text is one or the other -/

theorem exists_denotes_of_word {descriptor : String} (h : descriptor ∈ wordDescriptors) :
    ∃ t, Denotes accepts descriptor t := by
  simp only [wordDescriptors, List.mem_cons, List.not_mem_nil, or_false] at h
  rcases h with rfl | rfl | rfl | rfl
  · exact ⟨_, .address⟩
  · exact ⟨_, .bool⟩
  · exact ⟨_, .bytes⟩
  · exact ⟨_, .string⟩

/-- Every size from 1 to 32 denotes a type of bytes. -/
theorem exists_denotes_of_bytesSize {s : String} {n : Int} (spelled : numeral? s.toList = some n)
    (low : 1 ≤ n) (high : n ≤ 32) : ∃ t, Denotes accepts ("bytes" ++ s) t := by
  by_cases hash : n = 32
  · rw [hash] at spelled
    exact ⟨_, .hash spelled⟩
  · have width : ((n.toNat : Nat) : Int) = n := Int.toNat_of_nonneg (by omega)
    exact ⟨_, .fixedBytes ⟨n.toNat, by omega, by omega⟩ (width ▸ spelled)⟩

/-- Every size of integers denotes a type for both signs. -/
theorem exists_denotes_of_integerSize {s : String} {n : Int} (sign : Signedness)
    (spelled : numeral? s.toList = some n) (size : n ∈ integerSizes) :
    ∃ t, Denotes accepts (sign.keyword ++ s) t := by
  obtain ⟨w, rfl⟩ := mem_integerSizes.1 size
  exact ⟨_, .integer sign w spelled⟩

/-- Behind `bytes` nothing is left open. -/
theorem bytes_denotes_or_refuses {s : String} (h : s ≠ "") :
    (∃ t, Denotes accepts ("bytes" ++ s) t) ∨ ∃ fault, Refuses accepts ("bytes" ++ s) fault := by
  cases read : readInt64 s.toList with
  | error fault => exact .inr ⟨_, .malformed (by decide) h read⟩
  | ok n =>
    have spelled := readInt64_eq_ok_iff.1 read
    by_cases size : 1 ≤ n ∧ n ≤ 32
    · exact .inl (exists_denotes_of_bytesSize spelled size.1 size.2)
    · exact .inr ⟨_, .bytesSize spelled size⟩

theorem integer_denotes_or_refuses (sign : Signedness) (s : String) :
    (∃ t, Denotes accepts (sign.keyword ++ s) t) ∨
      ∃ fault, Refuses accepts (sign.keyword ++ s) fault := by
  by_cases empty : s = ""
  · subst empty
    cases sign with
    | unsigned => exact .inl ⟨_, .uint⟩
    | signed => exact .inr ⟨_, .int⟩
  cases read : readInt64 s.toList with
  | error fault => exact .inr ⟨_, .malformed (keyword_mem_sizedStems sign) empty read⟩
  | ok n =>
    have spelled := readInt64_eq_ok_iff.1 read
    -- 256 bits are looked at before the list of sizes, and the sign decides.
    by_cases wide : n = 256
    · rw [wide] at spelled
      cases sign with
      | unsigned => exact .inl ⟨_, .uint256 spelled⟩
      | signed => exact .inr ⟨_, .int256 spelled⟩
    by_cases size : n ∈ integerSizes
    · exact .inl (exists_denotes_of_integerSize sign spelled size)
    · exact .inr ⟨_, .integerSize sign spelled wide size⟩

/-- Every descriptor denotes a type or is refused. With `Denotes.classify` and `Refuses.classify`
this makes the language exact. -/
theorem denotes_or_refuses (accepts : String → Bool) (descriptor : String) :
    (∃ t, Denotes accepts descriptor t) ∨ ∃ fault, Refuses accepts descriptor fault := by
  -- The cases are those of `classify`, in its order: words first, then the keywords.
  by_cases word : descriptor ∈ wordDescriptors
  · exact .inl (exists_denotes_of_word word)
  cases bytes : after? "bytes".toList descriptor.toList with
  | some rest =>
    obtain rfl := eq_append_of_after? bytes
    apply bytes_denotes_or_refuses
    intro empty
    rw [empty] at word
    exact word (by decide)
  | none =>
  cases uint : after? "uint".toList descriptor.toList with
  | some rest =>
    obtain rfl := eq_append_of_after? uint
    exact integer_denotes_or_refuses .unsigned _
  | none =>
  cases int : after? "int".toList descriptor.toList with
  | some rest =>
    obtain rfl := eq_append_of_after? int
    exact integer_denotes_or_refuses .signed _
  | none =>
  cases table : after? "table ".toList descriptor.toList with
  | some rest =>
    obtain rfl := eq_append_of_after? table
    by_cases empty : String.ofList rest = ""
    · exact .inr ⟨_, .table (.inl empty)⟩
    cases accepted : accepts (String.ofList rest) with
    | false => exact .inr ⟨_, .table (.inr accepted)⟩
    | true => exact .inl ⟨_, .table empty accepted⟩
  | none =>
    right
    refine ⟨_, .unknown word ?_⟩
    intro stem member
    simp only [sizedStems, List.mem_cons, List.not_mem_nil, or_false] at member
    rcases member with rfl | rfl | rfl | rfl
    · exact ne_append_of_after? table
    · exact ne_append_of_after? bytes
    · exact ne_append_of_after? uint
    · exact ne_append_of_after? int

/-- A text is classified as a type exactly if it denotes the type. -/
theorem classify_eq_ok_iff {descriptor : String} {t : FieldType} :
    classify accepts descriptor = .ok t ↔ Denotes accepts descriptor t := by
  constructor
  · intro h
    rcases denotes_or_refuses accepts descriptor with ⟨t', denotes⟩ | ⟨fault, refuses⟩
    · rw [denotes.classify] at h
      exact Except.ok.inj h ▸ denotes
    · rw [refuses.classify] at h
      cases h
  · exact Denotes.classify

/-- A text is refused for a reason exactly if the grammar gives that reason. -/
theorem classify_eq_error_iff {descriptor : String} {fault : TypeFault} :
    classify accepts descriptor = .error fault ↔ Refuses accepts descriptor fault := by
  constructor
  · intro h
    rcases denotes_or_refuses accepts descriptor with ⟨t, denotes⟩ | ⟨fault', refuses⟩
    · rw [denotes.classify] at h
      cases h
    · rw [refuses.classify] at h
      exact Except.error.inj h ▸ refuses
  · exact Refuses.classify

end Descriptor

/-! ## Resolving -/

open Descriptor

variable {accepts : String → Bool} {descriptor : String}

/-- A descriptor resolves to the type that it denotes and to no other. -/
theorem resolve_eq_ok_iff {t : FieldType} :
    resolve accepts descriptor = .ok t ↔ Denotes accepts descriptor t := by
  rw [← classify_eq_ok_iff, resolve]
  cases classify accepts descriptor with
  | error fault => simp [Except.mapError]
  | ok t => simp [Except.mapError]

/-- An error carries the descriptor as it was written. -/
theorem resolve_eq_error_iff {e : TypeError} :
    resolve accepts descriptor = .error e ↔
      e.descriptor = descriptor ∧ Refuses accepts descriptor e.fault := by
  rw [← classify_eq_error_iff, resolve]
  cases classify accepts descriptor with
  | ok t => simp [Except.mapError]
  | error fault =>
    simp only [Except.mapError, Except.error.injEq]
    constructor
    · rintro rfl
      exact ⟨rfl, rfl⟩
    · rintro ⟨rfl, rfl⟩
      rfl

/-- A descriptor is refused for the reason that the language gives and for no other. -/
theorem resolve_eq_fault_iff {fault : TypeFault} :
    resolve accepts descriptor = .error ⟨descriptor, fault⟩ ↔ Refuses accepts descriptor fault := by
  rw [resolve_eq_error_iff]
  exact ⟨fun h => h.2, fun h => ⟨rfl, h⟩⟩

/-- The language of descriptors, form by form. -/
theorem accepted_iff :
    (∃ t, resolve accepts descriptor = .ok t) ↔
      descriptor ∈ wordDescriptors ∨
      (∃ s n, descriptor = "bytes" ++ s ∧ numeral? s.toList = some n ∧ 1 ≤ n ∧ n ≤ 32) ∨
      (∃ s, descriptor = "uint" ++ s ∧
        (s = "" ∨ ∃ n, numeral? s.toList = some n ∧ (n ∈ integerSizes ∨ n = 256))) ∨
      (∃ s n, descriptor = "int" ++ s ∧ numeral? s.toList = some n ∧ n ∈ integerSizes) ∨
      (∃ name, descriptor = "table " ++ name ∧ name ≠ "" ∧ accepts name = true) := by
  simp only [resolve_eq_ok_iff]
  constructor
  · rintro ⟨t, denotes⟩
    cases denotes with
    | address | bool | bytes | string => exact .inl (by decide)
    -- 32 bytes are a size like any other here.
    | hash spelled => exact .inr (.inl ⟨_, 32, rfl, spelled, by decide, by decide⟩)
    | fixedBytes w spelled =>
      have pos := w.pos
      have le := w.le_limit
      exact .inr (.inl ⟨_, w.bytes, rfl, spelled, by omega, by omega⟩)
    | uint => exact .inr (.inr (.inl ⟨"", rfl, .inl rfl⟩))
    | uint256 spelled => exact .inr (.inr (.inl ⟨_, rfl, .inr ⟨256, spelled, .inr rfl⟩⟩))
    | integer sign w spelled =>
      have size := mem_integerSizes.2 ⟨w, rfl⟩
      cases sign with
      | unsigned => exact .inr (.inr (.inl ⟨_, rfl, .inr ⟨_, spelled, .inl size⟩⟩))
      | signed => exact .inr (.inr (.inr (.inl ⟨_, _, rfl, spelled, size⟩)))
    | table nonempty accepted => exact .inr (.inr (.inr (.inr ⟨_, rfl, nonempty, accepted⟩)))
  · rintro (word | ⟨s, n, rfl, spelled, low, high⟩ | ⟨s, rfl, size⟩ | ⟨s, n, rfl, spelled, size⟩ |
      ⟨name, rfl, nonempty, accepted⟩)
    · exact exists_denotes_of_word word
    · exact exists_denotes_of_bytesSize spelled low high
    · rcases size with rfl | ⟨n, spelled, size | rfl⟩
      · exact ⟨_, .uint⟩
      · exact exists_denotes_of_integerSize .unsigned spelled size
      · exact ⟨_, .uint256 spelled⟩
    · exact exists_denotes_of_integerSize .signed spelled size
    · exact ⟨_, .table nonempty accepted⟩

/-- A size is malformed where something stands behind a keyword that is no numeral. -/
theorem malformedSize_iff :
    (∃ fault, resolve accepts descriptor = .error ⟨descriptor, .malformedSize fault⟩) ↔
      ∃ stem ∈ sizedStems, ∃ s, descriptor = stem ++ s ∧ s ≠ "" ∧ numeral? s.toList = none := by
  simp only [resolve_eq_fault_iff]
  constructor
  · rintro ⟨fault, refuses⟩
    cases refuses with
    | malformed sized nonempty refused =>
      exact ⟨_, sized, _, rfl, nonempty, numeral?_eq_none_iff.2 ⟨fault, refused⟩⟩
  · rintro ⟨stem, sized, s, rfl, nonempty, none⟩
    obtain ⟨fault, refused⟩ := numeral?_eq_none_iff.1 none
    exact ⟨fault, .malformed sized nonempty refused⟩

/-- Bytes of a size outside 1 to 32. -/
theorem invalidBytesSize_iff {n : Int} :
    resolve accepts descriptor = .error ⟨descriptor, .invalidSize .bytes n⟩ ↔
      ∃ s, descriptor = "bytes" ++ s ∧ numeral? s.toList = some n ∧ ¬(1 ≤ n ∧ n ≤ 32) := by
  rw [resolve_eq_fault_iff]
  constructor
  · intro refuses
    cases refuses with
    | bytesSize spelled outside => exact ⟨_, rfl, spelled, outside⟩
  · rintro ⟨s, rfl, spelled, outside⟩
    exact .bytesSize spelled outside

/-- Integers of a size that is neither a whole number of bytes up to eight nor 256 bits. -/
theorem invalidIntegerSize_iff {n : Int} :
    resolve accepts descriptor = .error ⟨descriptor, .invalidSize .integer n⟩ ↔
      ∃ s, (descriptor = "uint" ++ s ∨ descriptor = "int" ++ s) ∧ numeral? s.toList = some n ∧
        n ∉ integerSizes ∧ n ≠ 256 := by
  rw [resolve_eq_fault_iff]
  constructor
  · intro refuses
    cases refuses with
    | integerSize sign spelled narrow outside =>
      cases sign with
      | unsigned => exact ⟨_, .inl rfl, spelled, outside, narrow⟩
      | signed => exact ⟨_, .inr rfl, spelled, outside, narrow⟩
  · rintro ⟨s, rfl | rfl, spelled, outside, narrow⟩
    · exact .integerSize .unsigned spelled narrow outside
    · exact .integerSize .signed spelled narrow outside

/-- There is no signed integer of 256 bits, and none without a size, which would be as wide. -/
theorem signedWide_iff :
    resolve accepts descriptor = .error ⟨descriptor, .signedWide⟩ ↔
      ∃ s, descriptor = "int" ++ s ∧ (s = "" ∨ numeral? s.toList = some 256) := by
  rw [resolve_eq_fault_iff]
  constructor
  · intro refuses
    cases refuses with
    | int => exact ⟨"", rfl, .inl rfl⟩
    | int256 spelled => exact ⟨_, rfl, .inr spelled⟩
  · rintro ⟨s, rfl, rfl | spelled⟩
    · exact .int
    · exact .int256 spelled

/-- A table is refused if it has no name or the schema does not vouch for it. -/
theorem invalidTable_iff {name : String} :
    resolve accepts descriptor = .error ⟨descriptor, .invalidTable name⟩ ↔
      descriptor = "table " ++ name ∧ (name = "" ∨ accepts name = false) := by
  rw [resolve_eq_fault_iff]
  constructor
  · intro refuses
    cases refuses with
    | table refused => exact ⟨rfl, refused⟩
  · rintro ⟨rfl, refused⟩
    exact .table refused

/-- Everything else that begins with none of the keywords. -/
theorem unknown_iff :
    resolve accepts descriptor = .error ⟨descriptor, .unknown⟩ ↔
      descriptor ∉ wordDescriptors ∧
        ∀ stem ∈ ["bytes", "uint", "int", "table "], ∀ s, descriptor ≠ stem ++ s := by
  have same (stem : String) :
      stem ∈ ["bytes", "uint", "int", "table "] ↔ stem ∈ "table " :: sizedStems := by
    simp only [sizedStems, List.mem_cons, List.not_mem_nil, or_false]
    tauto
  simp only [resolve_eq_fault_iff, same]
  constructor
  · intro refuses
    cases refuses with
    | unknown other unprefixed => exact ⟨other, unprefixed⟩
  · rintro ⟨other, unprefixed⟩
    exact .unknown other unprefixed

/-- Of a size only the number counts, not how it is spelt. -/
theorem classify_congr {stem s s' : String} {n : Int} (sized : stem ∈ sizedStems)
    (spelled : numeral? s.toList = some n) (spelled' : numeral? s'.toList = some n) :
    classify accepts (stem ++ s) = classify accepts (stem ++ s') := by
  have integer (sign : Signedness) :
      classify accepts (sign.keyword ++ s) = classify accepts (sign.keyword ++ s') := by
    rw [classify_integer_of_numeral? sign spelled, classify_integer_of_numeral? sign spelled']
  simp only [sizedStems, List.mem_cons, List.not_mem_nil, or_false] at sized
  rcases sized with rfl | rfl | rfl
  · rw [classify_bytes_of_numeral? spelled, classify_bytes_of_numeral? spelled']
  · exact integer .unsigned
  · exact integer .signed

/-- `resolve` accepts exactly the descriptors of the types and tells the other texts apart by what
is wrong with them. An error carries the text itself. However a size is spelt, with a sign or with
zeros in front, only its number counts. -/
theorem resolve_language (accepts : String → Bool) (descriptor : String) :
    ((∃ t, resolve accepts descriptor = .ok t) ↔
      descriptor ∈ ["address", "bool", "bytes", "string"] ∨
      (∃ s n, descriptor = "bytes" ++ s ∧ numeral? s.toList = some n ∧ 1 ≤ n ∧ n ≤ 32) ∨
      (∃ s, descriptor = "uint" ++ s ∧
        (s = "" ∨ ∃ n, numeral? s.toList = some n ∧ (n ∈ integerSizes ∨ n = 256))) ∨
      (∃ s n, descriptor = "int" ++ s ∧ numeral? s.toList = some n ∧ n ∈ integerSizes) ∨
      (∃ name, descriptor = "table " ++ name ∧ name ≠ "" ∧ accepts name = true)) ∧
    (∀ e, resolve accepts descriptor = .error e → e.descriptor = descriptor) ∧
    ((∃ fault, resolve accepts descriptor = .error ⟨descriptor, .malformedSize fault⟩) ↔
      ∃ stem ∈ ["bytes", "uint", "int"], ∃ s,
        descriptor = stem ++ s ∧ s ≠ "" ∧ numeral? s.toList = none) ∧
    (∀ n, resolve accepts descriptor = .error ⟨descriptor, .invalidSize .bytes n⟩ ↔
      ∃ s, descriptor = "bytes" ++ s ∧ numeral? s.toList = some n ∧ ¬(1 ≤ n ∧ n ≤ 32)) ∧
    (∀ n, resolve accepts descriptor = .error ⟨descriptor, .invalidSize .integer n⟩ ↔
      ∃ s, (descriptor = "uint" ++ s ∨ descriptor = "int" ++ s) ∧ numeral? s.toList = some n ∧
        n ∉ integerSizes ∧ n ≠ 256) ∧
    (resolve accepts descriptor = .error ⟨descriptor, .signedWide⟩ ↔
      ∃ s, descriptor = "int" ++ s ∧ (s = "" ∨ numeral? s.toList = some 256)) ∧
    (∀ name, resolve accepts descriptor = .error ⟨descriptor, .invalidTable name⟩ ↔
      descriptor = "table " ++ name ∧ (name = "" ∨ accepts name = false)) ∧
    (resolve accepts descriptor = .error ⟨descriptor, .unknown⟩ ↔
      descriptor ∉ ["address", "bool", "bytes", "string"] ∧
        ∀ stem ∈ ["bytes", "uint", "int", "table "], ∀ s, descriptor ≠ stem ++ s) ∧
    (∀ stem ∈ ["bytes", "uint", "int"], ∀ s s' n,
      numeral? s.toList = some n → numeral? s'.toList = some n →
        (resolve accepts (stem ++ s)).mapError TypeError.fault =
          (resolve accepts (stem ++ s')).mapError TypeError.fault) ∧
    (∀ c rest zeros, c.isDigit = true →
      numeral? (List.replicate zeros '0' ++ c :: rest) = numeral? (c :: rest) ∧
      numeral? ('+' :: (List.replicate zeros '0' ++ c :: rest)) = numeral? (c :: rest) ∧
      numeral? ('-' :: (List.replicate zeros '0' ++ c :: rest)) = numeral? ('-' :: c :: rest)) := by
  refine ⟨accepted_iff, fun e failed => (resolve_eq_error_iff.1 failed).1, malformedSize_iff,
    fun n => invalidBytesSize_iff, fun n => invalidIntegerSize_iff, signedWide_iff,
    fun name => invalidTable_iff, unknown_iff, ?_, ?_⟩
  · intro stem sized s s' n spelled spelled'
    have same : classify accepts (stem ++ s) = classify accepts (stem ++ s') :=
      classify_congr sized spelled spelled'
    rw [resolve, resolve, same]
    cases classify accepts (stem ++ s') <;> rfl
  · intro c rest zeros digit
    exact numeral?_leading digit rest zeros

/-- A descriptor resolves to a table only if the table is accepted. -/
theorem accepts_of_resolve {name : String} (h : resolve accepts descriptor = .ok (.table name)) :
    accepts name = true := by
  have denotes := resolve_eq_ok_iff.1 h
  cases denotes with
  | table _ accepted => exact accepted

end RowBindings
