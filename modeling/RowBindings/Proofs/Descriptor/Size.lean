import Mathlib.Algebra.Order.Group.Int
import RowBindings.Proofs.Descriptor.Attributes

/-!
# Sizes and their faults

`readSize` reads the number that a sized type ends in. It goes from left to right, so of several
faults it reports the one that shows first. `FirstFault` says which one that is without any reading:
of all prefixes, take the shortest that ends in a character that is no digit or has a value out of
range. `readSize_firstFault` says that this fault is reported, that a size without one is read as
its value, and that both reach whoever resolves a descriptor.
-/

namespace RowBindings

open Text

namespace Text

/-! ## Numbers of 64 bits -/

/-- The sign of a text, plus if it has none. -/
def signOf : List Char → Sign
  | '-' :: _ => .minus
  | _ => .plus

/-- The number that digits spell after a sign. -/
def Sign.value (sign : Sign) (digits : List Char) : Int :=
  sign.apply (Nat.ofDigitChars 10 digits 0)

def IsDigits (s : List Char) : Prop := ∀ c ∈ s, c.isDigit = true

def FitsInt64 (n : Int) : Prop := -2 ^ 63 ≤ n ∧ n ≤ 2 ^ 63 - 1

/-- The test for 64 bits is the comparison with both limits. -/
theorem fitsInt64_iff (n : Int) : fitsInt64 n = true ↔ FitsInt64 n := by
  rw [fitsInt64, Bool.and_eq_true, decide_eq_true_eq, decide_eq_true_eq]
  rfl

/-- A numeral is its digits behind one sign at most. -/
theorem numeral?_eq (s : List Char) : numeral? s = digitsNumeral? (signOf s) (dropSign s) := by
  fun_cases dropSign s with
  | case1 digits => rfl
  | case2 digits => rfl
  | case3 _ plus minus => rw [numeral?.eq_3 s plus minus, signOf.eq_2 s minus]

/-- Digits are a numeral for their value, if that fits. -/
theorem digitsNumeral?_eq_some_iff (sign : Sign) (digits : List Char) (n : Int) :
    digitsNumeral? sign digits = some n ↔
      digits ≠ [] ∧ IsDigits digits ∧ sign.value digits = n ∧ FitsInt64 n := by
  rw [digitsNumeral?]
  constructor
  · intro h
    split at h
    · rename_i spelled
      obtain ⟨nonempty, digit, fits⟩ := spelled
      obtain rfl := Option.some.inj h
      exact ⟨nonempty, List.all_eq_true.1 digit, rfl, (fitsInt64_iff _).1 fits⟩
    · cases h
  · rintro ⟨nonempty, digit, rfl, fits⟩
    exact if_pos ⟨nonempty, List.all_eq_true.2 digit, (fitsInt64_iff _).2 fits⟩

/-! ## The first fault -/

/-- Nothing is wrong with the digits so far. -/
structure Sound (sign : Sign) (part : List Char) : Prop where
  isDigits : IsDigits part
  fits : FitsInt64 (sign.value part)

/-- The digits so far end in a fault: their last character is none, or the value that they have with
their sign is out of range. -/
inductive Breaks : Sign → List Char → NumberFault → Prop
  | invalidDigit {sign : Sign} {part : List Char} {c : Char} : c.isDigit = false →
    Breaks sign (part ++ [c]) .invalidDigit
  | tooLarge {part : List Char} : IsDigits part → ¬FitsInt64 (Sign.plus.value part) →
    Breaks .plus part .tooLarge
  | tooSmall {part : List Char} : IsDigits part → ¬FitsInt64 (Sign.minus.value part) →
    Breaks .minus part .tooSmall

/-- The shortest prefix of a text that ends in a fault, and the fault. -/
structure FirstFault (sign : Sign) (text part : List Char) (fault : NumberFault) : Prop where
  isPrefix : part <+: text
  breaks : Breaks sign part fault
  shortest : ∀ other why, other <+: text → Breaks sign other why → part.length ≤ other.length

/-- Another digit is pushed onto the value. -/
theorem value_concat (sign : Sign) (part : List Char) (c : Char) :
    sign.value (part ++ [c]) = sign.push (sign.value part) (c.toNat - '0'.toNat) := by
  rw [Sign.value, Sign.value, Sign.push_apply, Nat.ofDigitChars_append, Nat.ofDigitChars_cons,
    Nat.ofDigitChars_nil]

/-- Nothing becomes wrong by leaving off digits, because they only take the value further from
zero. -/
theorem Sound.of_prefix {sign : Sign} {part whole : List Char} (h : Sound sign whole)
    (isPrefix : part <+: whole) : Sound sign part := by
  obtain ⟨more, rfl⟩ := isPrefix
  refine ⟨fun c member => h.isDigits c (List.mem_append_left more member), ?_⟩
  have whole := (fitsInt64_iff _).2 h.fits
  rw [Sign.value, Nat.ofDigitChars_append] at whole
  exact (fitsInt64_iff _).1 (fitsInt64_of_le (le_ofDigitChars _ more) whole)

/-- A character that is no digit spoils all that ends in it. -/
theorem not_isDigits_concat {part : List Char} {c : Char} (other : c.isDigit = false) :
    ¬IsDigits (part ++ [c]) := by
  intro digits
  rw [digits c (List.mem_append_right part (List.mem_singleton_self c))] at other
  exact Bool.false_ne_true other.symm

theorem Breaks.not_sound {sign : Sign} {part : List Char} {fault : NumberFault}
    (breaks : Breaks sign part fault) : ¬Sound sign part := by
  intro sound
  rcases breaks with other | ⟨-, outside⟩ | ⟨-, outside⟩
  · exact not_isDigits_concat other sound.isDigits
  · exact outside sound.fits
  · exact outside sound.fits

/-- Digits that end in one fault end in no other. -/
theorem Breaks.unique {sign : Sign} {part : List Char} {fault why : NumberFault}
    (h : Breaks sign part fault) (h' : Breaks sign part why) : fault = why := by
  cases h with
  | invalidDigit other =>
    -- The bad character is the last of the part, so the part fixes which fault it is.
    generalize whole : _ ++ [_] = text at h'
    cases h' with
    | invalidDigit => rfl
    | tooLarge digits => exact absurd (whole ▸ digits) (not_isDigits_concat other)
    | tooSmall digits => exact absurd (whole ▸ digits) (not_isDigits_concat other)
  | tooLarge digits =>
    cases h' with
    | invalidDigit other => exact absurd digits (not_isDigits_concat other)
    | tooLarge => rfl
  | tooSmall digits =>
    cases h' with
    | invalidDigit other => exact absurd digits (not_isDigits_concat other)
    | tooSmall => rfl

/-- Nothing breaks for being empty. -/
theorem Breaks.ne_empty {sign : Sign} {part : List Char} {fault : NumberFault}
    (h : Breaks sign part fault) : fault ≠ .empty := by
  rcases h with _ | _ | _ <;> exact NumberFault.noConfusion

/-- There is only one first fault. -/
theorem FirstFault.unique {sign : Sign} {text part other : List Char} {fault why : NumberFault}
    (h : FirstFault sign text part fault) (h' : FirstFault sign text other why) : fault = why := by
  have le := h.shortest other why h'.isPrefix h'.breaks
  have ge := h'.shortest part fault h.isPrefix h.breaks
  have isPrefix := List.prefix_of_prefix_length_le h.isPrefix h'.isPrefix le
  obtain rfl := isPrefix.eq_of_length (Nat.le_antisymm le ge)
  exact h.breaks.unique h'.breaks

/-- What breaks one character after a sound part breaks nowhere before. -/
theorem firstFault_concat {sign : Sign} {text part : List Char} {c : Char} {fault : NumberFault}
    (isPrefix : part ++ [c] <+: text) (sound : Sound sign part)
    (breaks : Breaks sign (part ++ [c]) fault) : FirstFault sign text (part ++ [c]) fault := by
  refine ⟨isPrefix, breaks, fun other why inText bad => Nat.le_of_not_lt fun shorter => ?_⟩
  rw [List.length_append, List.length_singleton] at shorter
  have front : part <+: text := (List.prefix_append part [c]).trans isPrefix
  have inside := List.prefix_of_prefix_length_le inText front (by omega)
  exact bad.not_sound (sound.of_prefix inside)

/-! ## Reading -/

/-- One step of the reading: either nothing is wrong yet and it goes on, or it stops with the fault
that now shows. -/
theorem readDigits_step (sign : Sign) {part : List Char} (sound : Sound sign part) (c : Char)
    (rest : List Char) :
    (Sound sign (part ++ [c]) ∧ readDigits sign (sign.value part) (c :: rest) =
      readDigits sign (sign.value (part ++ [c])) rest) ∨
    ∃ fault, Breaks sign (part ++ [c]) fault ∧
      readDigits sign (sign.value part) (c :: rest) = .error fault := by
  rw [readDigits]
  by_cases digit : c.isDigit = true
  case neg =>
    rw [digitValue?_of_not_isDigit digit]
    exact .inr ⟨_, .invalidDigit (Bool.eq_false_iff.2 digit), rfl⟩
  have digits : IsDigits (part ++ [c]) := by
    intro d member
    rcases List.mem_append.1 member with before | last
    · exact sound.isDigits d before
    · rwa [List.mem_singleton.1 last]
  rw [digitValue?_of_isDigit digit]
  simp only [← value_concat]
  by_cases fits : FitsInt64 (sign.value (part ++ [c]))
  · have low : ¬sign.value (part ++ [c]) < int64Min := Int.not_lt.2 fits.1
    have high : ¬int64Max < sign.value (part ++ [c]) := Int.not_lt.2 fits.2
    exact .inl ⟨⟨digits, fits⟩, by rw [if_neg high, if_neg low]⟩
  -- A value with a plus can only be too large, and one with a minus only too small.
  right
  rcases sign with _ | _
  · refine ⟨.tooLarge, .tooLarge digits fits, if_pos ?_⟩
    rw [FitsInt64, Sign.value, Sign.apply] at fits
    rw [Sign.value, Sign.apply, int64Max]
    omega
  · refine ⟨.tooSmall, .tooSmall digits fits, ?_⟩
    rw [FitsInt64, Sign.value, Sign.apply] at fits
    rw [Sign.value, Sign.apply, int64Min, int64Max, if_neg (by omega), if_pos (by omega)]

/-- A whole reading. The induction is on what is left of the text; what carries it is that nothing
is wrong with the part that has been read. -/
theorem readDigits_append (sign : Sign) {part : List Char} (sound : Sound sign part)
    (rest : List Char) :
    Sound sign (part ++ rest) ∨
    ∃ bad fault, FirstFault sign (part ++ rest) bad fault ∧
      readDigits sign (sign.value part) rest = .error fault := by
  -- The induction is on what is left; the part read so far grows and stays sound.
  induction rest generalizing part with
  | nil => exact .inl (by rwa [List.append_nil])
  | cons c rest ih =>
    have text : part ++ c :: rest = part ++ [c] ++ rest := List.append_cons part c rest
    rcases readDigits_step sign sound c rest with ⟨next, same⟩ | ⟨fault, breaks, read⟩
    · rw [text, same]
      exact ih next
    · have isPrefix : part ++ [c] <+: part ++ c :: rest := text ▸ List.prefix_append _ rest
      exact .inr ⟨_, fault, firstFault_concat isPrefix sound breaks, read⟩

theorem value_nil (sign : Sign) : sign.value [] = 0 := by
  rcases sign with _ | _ <;> rfl

theorem sound_nil (sign : Sign) : Sound sign [] := by
  refine ⟨fun c member => absurd member List.not_mem_nil, ?_⟩
  rw [value_nil]
  exact (fitsInt64_iff 0).1 rfl

/-- Reading digits fails exactly with the first fault in them. -/
theorem readDigits_eq_error_iff (sign : Sign) {digits : List Char} (nonempty : digits ≠ [])
    (fault : NumberFault) :
    readDigits sign 0 digits = .error fault ↔ ∃ part, FirstFault sign digits part fault := by
  have read := readDigits_append sign (sound_nil sign) digits
  rw [value_nil, List.nil_append] at read
  rcases read with sound | ⟨bad, why, first, read⟩
  -- Sound to the end, the digits are a numeral, and nothing in them breaks.
  · have spelled := (digitsNumeral?_eq_some_iff sign digits _).2
      ⟨nonempty, sound.isDigits, rfl, sound.fits⟩
    rw [(readDigits_zero_eq_ok_iff nonempty).2 spelled]
    constructor
    · rintro ⟨⟩
    · rintro ⟨part, first⟩
      exact absurd (sound.of_prefix first.isPrefix) first.breaks.not_sound
  · rw [read, Except.error.injEq]
    constructor
    · rintro rfl
      exact ⟨bad, first⟩
    · rintro ⟨part, other⟩
      exact first.unique other

/-- A text that is not empty is read as the digits after its sign, if there are any. -/
theorem readInt64_eq {s : List Char} (nonempty : s ≠ []) :
    readInt64 s =
      if dropSign s = [] then .error .invalidDigit else readDigits (signOf s) 0 (dropSign s) := by
  fun_cases readInt64 s with
  | case1 => exact absurd rfl nonempty
  | case2 => rfl
  | case3 => rfl
  | case4 digits some => exact (if_neg (by simpa [dropSign] using some)).symm
  | case5 digits some => exact (if_neg (by simpa [dropSign] using some)).symm
  | case6 _ nonempty _ _ plus minus =>
    rw [dropSign.eq_3 s plus minus, signOf.eq_2 s minus, if_neg nonempty]

/-- Why a text is no number: it is nothing but a sign, or there is a first fault after the sign. -/
def Misspells (s : List Char) (fault : NumberFault) : Prop :=
  (dropSign s = [] ∧ fault = .invalidDigit) ∨
    ∃ part, FirstFault (signOf s) (dropSign s) part fault

/-- Text is refused for its first fault from the left. -/
theorem readInt64_eq_error_iff {s : List Char} (nonempty : s ≠ []) (fault : NumberFault) :
    readInt64 s = .error fault ↔ Misspells s fault := by
  rw [readInt64_eq nonempty, Misspells]
  split
  · rename_i bare
    rw [bare, Except.error.injEq]
    constructor
    · rintro rfl
      exact .inl ⟨rfl, rfl⟩
    · rintro (⟨-, rfl⟩ | ⟨part, first⟩)
      · rfl
      -- Without any digits there is no prefix that could end in a fault.
      · have empty := List.prefix_nil.1 first.isPrefix
        have breaks := first.breaks
        rw [empty] at breaks
        exact absurd (sound_nil _) breaks.not_sound
  · rename_i digits
    rw [readDigits_eq_error_iff _ digits]
    simp [digits]

end Text

namespace Descriptor

/-! ## Sizes -/

/-- A size is read exactly from digits behind one sign at most, if their value fits. -/
theorem readSize_eq_ok_iff (s : List Char) (n : Int) :
    readSize s = .ok n ↔
      dropSign s ≠ [] ∧ IsDigits (dropSign s) ∧ (signOf s).value (dropSign s) = n ∧
        FitsInt64 n := by
  rw [← digitsNumeral?_eq_some_iff, ← numeral?_eq, ← readInt64_eq_ok_iff, readSize]
  rcases readInt64 s with fault | m <;> simp [Except.mapError]

/-- A size is refused as malformed and for no other reason. -/
theorem readSize_eq_error_iff (s : List Char) (fault : TypeFault) :
    readSize s = .error fault ↔ ∃ why, fault = .malformedSize why ∧ readInt64 s = .error why := by
  rw [readSize]
  rcases readInt64 s with why | n <;> simp [Except.mapError, eq_comm]

end Descriptor

/-! ## Sizes in descriptors -/

open Descriptor

/-- The error of a sized type tells the fault in its size. -/
theorem resolve_malformedSize_iff {accepts : String → Bool} {stem s : String}
    (sized : stem ∈ sizedStems) (nonempty : s ≠ "") (why : NumberFault) :
    resolve accepts (stem ++ s) = .error ⟨stem ++ s, .malformedSize why⟩ ↔
      readSize s.toList = .error (.malformedSize why) := by
  rw [resolve_eq_fault_iff, readSize_eq_error_iff]
  constructor
  · intro refuses
    -- The keyword and the size are cut in one way only.
    generalize whole : stem ++ s = descriptor at refuses
    cases refuses with
    | malformed sized' _ refused =>
      obtain ⟨-, rfl⟩ := append_inj_of_sizedStems sized sized' whole
      exact ⟨why, rfl, refused⟩
  · rintro ⟨_, ⟨⟩, refused⟩
    exact .malformed sized nonempty refused

/-- That there is nothing to read is no fault of a size, for without one nothing is read. -/
theorem resolve_ne_emptySize (accepts : String → Bool) (descriptor written : String) :
    resolve accepts descriptor ≠ .error ⟨written, .malformedSize .empty⟩ := by
  intro failed
  obtain ⟨-, refuses⟩ := resolve_eq_error_iff.1 failed
  cases refuses with
  | malformed _ nonempty refused =>
    have some := mt String.toList_eq_nil_iff.1 nonempty
    rcases (readInt64_eq_error_iff some _).1 refused with ⟨-, other⟩ | ⟨part, first⟩
    · exact NumberFault.noConfusion other
    · exact first.breaks.ne_empty rfl

/-- A size is read if it is an optional sign, digits and nothing else and its value has 64 bits.
Otherwise the fault is that of the shortest prefix of what follows the sign that ends in one, or an
invalid digit if nothing follows. This is also what the error of a descriptor tells, which never
is that the size is empty. -/
theorem readSize_firstFault {s : String} (nonempty : s ≠ "") :
    (∀ n, readSize s.toList = .ok n ↔
      dropSign s.toList ≠ [] ∧ IsDigits (dropSign s.toList) ∧
        (signOf s.toList).value (dropSign s.toList) = n ∧ -2 ^ 63 ≤ n ∧ n ≤ 2 ^ 63 - 1) ∧
    (∀ fault, readSize s.toList = .error fault ↔ ∃ why, fault = .malformedSize why ∧
      ((dropSign s.toList = [] ∧ why = .invalidDigit) ∨
        ∃ part, FirstFault (signOf s.toList) (dropSign s.toList) part why)) ∧
    (∀ accepts, ∀ stem ∈ ["bytes", "uint", "int"], ∀ why,
      resolve accepts (stem ++ s) = .error ⟨stem ++ s, .malformedSize why⟩ ↔
        readSize s.toList = .error (.malformedSize why)) ∧
    ∀ accepts descriptor written,
      resolve accepts descriptor ≠ .error ⟨written, .malformedSize .empty⟩ := by
  refine ⟨readSize_eq_ok_iff s.toList, ?_, ?_, resolve_ne_emptySize⟩
  · intro fault
    have some := mt String.toList_eq_nil_iff.1 nonempty
    simp only [readSize_eq_error_iff, readInt64_eq_error_iff some, Misspells]
  · intro accepts stem sized why
    exact resolve_malformedSize_iff sized nonempty why

/-- The last digit takes the value out of range, one character before the one that is no digit. -/
theorem readSize_firstFault_overflow :
    "-9223372036854775809x" ≠ "" ∧
    (∃ part, FirstFault .minus "9223372036854775809x".toList part .tooSmall) ∧
    resolve (fun _ => true) ("uint" ++ "-9223372036854775809x") =
      .error ⟨"uint" ++ "-9223372036854775809x", .malformedSize .tooSmall⟩ := by
  have nonempty : "-9223372036854775809x" ≠ "" := by decide
  have read : readSize "-9223372036854775809x".toList = .error (.malformedSize .tooSmall) := rfl
  obtain ⟨-, refused, resolved, -⟩ := readSize_firstFault nonempty
  obtain ⟨why, same, ⟨bare, -⟩ | first⟩ := (refused _).1 read
  · exact absurd bare (List.cons_ne_nil _ _)
  · obtain rfl := TypeFault.malformedSize.inj same
    exact ⟨nonempty, first, (resolved _ "uint" (by decide) _).2 read⟩

end RowBindings
