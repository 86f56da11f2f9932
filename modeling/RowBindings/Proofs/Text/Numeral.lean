import RowBindings.Text.Number

/-!
# Numerals

`numeral?` says what a numeral is without reading it from left to right: an optional sign, then at
least one digit, and a value that fits in 64 bits. `readInt64` accepts exactly the numerals
(`readInt64_eq_ok_iff`). It stops as soon as the digits read so far do not fit, and that is never
too early, because further digits only take the value further from zero.
-/

namespace RowBindings.Text

/-- The number of a given magnitude. -/
def Sign.apply : Sign → Nat → Int
  | .plus, magnitude => magnitude
  | .minus, magnitude => -magnitude

def fitsInt64 (n : Int) : Bool :=
  int64Min ≤ n && n ≤ int64Max

/-- The number that digits spell after a sign. -/
def digitsNumeral? (sign : Sign) (digits : List Char) : Option Int :=
  let value := sign.apply (Nat.ofDigitChars 10 digits 0)
  if digits ≠ [] ∧ digits.all Char.isDigit ∧ fitsInt64 value then some value else none

def numeral? : List Char → Option Int
  | '+' :: digits => digitsNumeral? .plus digits
  | '-' :: digits => digitsNumeral? .minus digits
  | digits => digitsNumeral? .plus digits

/-! ## Digits -/

/-- Digits of base ten are worth their distance from zero. -/
theorem digitValue?_of_isDigit {c : Char} (h : c.isDigit = true) :
    digitValue? c = some (c.toNat - '0'.toNat) := by
  rw [digitValue?, if_pos h]

theorem digitValue?_of_not_isDigit {c : Char} (h : c.isDigit ≠ true) : digitValue? c = none := by
  rw [digitValue?, if_neg h]

/-- One more digit multiplies the magnitude by ten and adds the digit. -/
theorem Sign.push_apply (sign : Sign) (magnitude digit : Nat) :
    sign.push (sign.apply magnitude) digit = sign.apply (10 * magnitude + digit) := by
  cases sign with
  | plus =>
    rw [Sign.push, Sign.apply, Sign.apply]
    omega
  | minus =>
    rw [Sign.push, Sign.apply, Sign.apply]
    omega

/-- Digits only add to the magnitude. -/
theorem le_ofDigitChars (magnitude : Nat) (digits : List Char) :
    magnitude ≤ Nat.ofDigitChars 10 digits magnitude := by
  induction digits generalizing magnitude with
  | nil => exact Nat.le_refl magnitude
  | cons c rest ih =>
    rw [Nat.ofDigitChars_cons]
    exact Nat.le_trans (by omega) (ih _)

/-- A number nearer to zero fits if one further away does. -/
theorem fitsInt64_of_le {sign : Sign} {m n : Nat} (le : m ≤ n)
    (h : fitsInt64 (sign.apply n) = true) : fitsInt64 (sign.apply m) = true := by
  rw [fitsInt64, Bool.and_eq_true, decide_eq_true_eq, decide_eq_true_eq] at *
  cases sign with
  | plus =>
    rw [Sign.apply, int64Min, int64Max] at *
    omega
  | minus =>
    rw [Sign.apply, int64Min, int64Max] at *
    omega

/-- The step of `readDigits`, with its two tests made one. -/
theorem readDigits_cons {sign : Sign} {magnitude : Nat} {c : Char} {rest : List Char} {n : Int}
    (digit : c.isDigit = true) :
    readDigits sign (sign.apply magnitude) (c :: rest) = .ok n ↔
      fitsInt64 (sign.apply (10 * magnitude + (c.toNat - '0'.toNat))) = true ∧
      readDigits sign (sign.apply (10 * magnitude + (c.toNat - '0'.toNat))) rest = .ok n := by
  rw [readDigits, digitValue?_of_isDigit digit]
  simp only [Sign.push_apply, fitsInt64, Bool.and_eq_true, decide_eq_true_eq]
  generalize sign.apply (10 * magnitude + (c.toNat - '0'.toNat)) = value
  -- The two bounds are asked in turn; within them the reading goes on.
  by_cases large : int64Max < value
  · rw [if_pos large]
    simp only [reduceCtorEq, false_iff]
    omega
  by_cases small : value < int64Min
  · rw [if_neg large, if_pos small]
    simp only [reduceCtorEq, false_iff]
    omega
  rw [if_neg large, if_neg small]
  constructor
  · intro h
    exact ⟨⟨by omega, by omega⟩, h⟩
  · intro h
    exact h.2

/-- Digits are read as the number that they spell, if it fits. The induction is on the digits; what
carries it is that the number read so far fits whenever the whole does. -/
theorem readDigits_eq_ok_iff {sign : Sign} {magnitude : Nat} {digits : List Char} {n : Int}
    (fits : fitsInt64 (sign.apply magnitude) = true) :
    readDigits sign (sign.apply magnitude) digits = .ok n ↔
      (∀ c ∈ digits, c.isDigit = true) ∧
      fitsInt64 (sign.apply (Nat.ofDigitChars 10 digits magnitude)) = true ∧
      sign.apply (Nat.ofDigitChars 10 digits magnitude) = n := by
  induction digits generalizing magnitude with
  | nil =>
    rw [readDigits, Nat.ofDigitChars_nil]
    simp [fits]
  | cons c rest ih =>
    by_cases digit : c.isDigit = true
    -- What is no digit is refused at once, so it spoils the whole.
    case neg =>
      rw [readDigits, digitValue?_of_not_isDigit digit]
      simp [digit]
    rw [readDigits_cons digit, Nat.ofDigitChars_cons]
    constructor
    · rintro ⟨next, read⟩
      obtain ⟨others, whole, value⟩ := (ih next).1 read
      refine ⟨?_, whole, value⟩
      intro d member
      rcases List.mem_cons.1 member with rfl | later
      · exact digit
      · exact others d later
    · rintro ⟨all, whole, value⟩
      -- The digits to come only add to the magnitude, so what is read by now fits as well.
      have next := fitsInt64_of_le (le_ofDigitChars _ rest) whole
      have others : ∀ d ∈ rest, d.isDigit = true :=
        fun d later => all d (List.mem_cons_of_mem c later)
      exact ⟨next, (ih next).2 ⟨others, whole, value⟩⟩

/-! ## Whole texts -/

/-- Digits are read as the number that they spell, if there are any. -/
theorem readDigits_zero_eq_ok_iff {sign : Sign} {digits : List Char} {n : Int}
    (nonempty : digits ≠ []) :
    readDigits sign 0 digits = .ok n ↔ digitsNumeral? sign digits = some n := by
  have zero : (0 : Int) = sign.apply 0 := by cases sign <;> rfl
  rw [zero, readDigits_eq_ok_iff (by cases sign <;> decide), digitsNumeral?]
  split
  · rename_i spelled
    obtain ⟨-, all, fits⟩ := spelled
    rw [Option.some_inj]
    constructor
    · intro h
      exact h.2.2
    · intro value
      exact ⟨List.all_eq_true.1 all, fits, value⟩
  · rename_i unspelled
    simp only [reduceCtorEq, iff_false]
    rintro ⟨all, fits, -⟩
    exact unspelled ⟨nonempty, List.all_eq_true.2 all, fits⟩

/-- No digits spell nothing. -/
theorem digitsNumeral?_nil (sign : Sign) : digitsNumeral? sign [] = none := by
  rw [digitsNumeral?, if_neg]
  intro h
  exact h.1 rfl

/-- Exactly the numerals are read, as the numbers that they spell. -/
theorem readInt64_eq_ok_iff {s : List Char} {n : Int} :
    readInt64 s = .ok n ↔ numeral? s = some n := by
  -- A sign alone is no numeral, and neither is nothing.
  fun_cases readInt64 s with
  | case1 => simp [numeral?, digitsNumeral?_nil]
  | case2 => simp [numeral?, digitsNumeral?_nil]
  | case3 => simp [numeral?, digitsNumeral?_nil]
  | case4 digits some =>
    have nonempty : digits ≠ [] := by simpa using some
    exact readDigits_zero_eq_ok_iff nonempty
  | case5 digits some =>
    have nonempty : digits ≠ [] := by simpa using some
    exact readDigits_zero_eq_ok_iff nonempty
  | case6 _ nonempty _ _ plus minus =>
    rw [numeral?.eq_3 s plus minus]
    exact readDigits_zero_eq_ok_iff nonempty

/-- A text is refused exactly if it is no numeral. -/
theorem numeral?_eq_none_iff {s : List Char} :
    numeral? s = none ↔ ∃ fault, readInt64 s = .error fault := by
  constructor
  · intro none
    cases read : readInt64 s with
    | error fault => exact ⟨fault, rfl⟩
    | ok n =>
      rw [readInt64_eq_ok_iff.1 read] at none
      cases none
  · rintro ⟨fault, read⟩
    cases spelled : numeral? s with
    | none => rfl
    | some n =>
      rw [readInt64_eq_ok_iff.2 spelled] at read
      cases read

/-! ## Leading zeros and plus signs -/

/-- Zeros in front change nothing. -/
theorem digitsNumeral?_zeros (sign : Sign) (zeros : Nat) {digits : List Char}
    (nonempty : digits ≠ []) :
    digitsNumeral? sign (List.replicate zeros '0' ++ digits) = digitsNumeral? sign digits := by
  have value : Nat.ofDigitChars 10 (List.replicate zeros '0' ++ digits) 0 =
      Nat.ofDigitChars 10 digits 0 := by
    rw [Nat.ofDigitChars_append, Nat.ofDigitChars_replicate_zero, Nat.mul_zero]
  -- Zeros are digits, and they add nothing to the value.
  have zero : (List.replicate zeros '0').all Char.isDigit = true := by
    rw [List.all_eq_true]
    intro c member
    rw [List.eq_of_mem_replicate member]
    decide
  have some : List.replicate zeros '0' ++ digits ≠ [] :=
    List.append_ne_nil_of_right_ne_nil _ nonempty
  rw [digitsNumeral?, digitsNumeral?, value, List.all_append, zero, Bool.true_and]
  simp only [some, nonempty, ne_eq, not_false_eq_true]

/-- Without a sign, a numeral begins with a digit. -/
theorem numeral?_of_isDigit {c : Char} (digit : c.isDigit = true) (rest : List Char) :
    numeral? (c :: rest) = digitsNumeral? .plus (c :: rest) := by
  apply numeral?.eq_3
  · rintro _ h
    obtain ⟨rfl, -⟩ := List.cons.inj h
    revert digit
    decide
  · rintro _ h
    obtain ⟨rfl, -⟩ := List.cons.inj h
    revert digit
    decide

/-- Zeros in front of a digit make no difference, with a sign or without, and neither does a plus
sign. -/
theorem numeral?_leading {c : Char} (digit : c.isDigit = true) (rest : List Char) (zeros : Nat) :
    numeral? (List.replicate zeros '0' ++ c :: rest) = numeral? (c :: rest) ∧
    numeral? ('+' :: (List.replicate zeros '0' ++ c :: rest)) = numeral? (c :: rest) ∧
    numeral? ('-' :: (List.replicate zeros '0' ++ c :: rest)) = numeral? ('-' :: c :: rest) := by
  have plain := numeral?_of_isDigit digit rest
  have dropped (sign : Sign) := digitsNumeral?_zeros sign zeros (List.cons_ne_nil c rest)
  refine ⟨?_, ?_, ?_⟩
  · cases zeros with
    | zero => rfl
    | succ zeros =>
      rw [plain, ← dropped .plus]
      exact numeral?_of_isDigit (by decide) _
  · rw [numeral?, dropped, plain]
  · rw [numeral?, dropped, numeral?]

/-- A number has at least one digit. -/
theorem decimal_ne_empty (n : Nat) : decimal n ≠ "" := by
  intro empty
  have digits := congrArg String.toList empty
  rw [decimal, String.toList_ofList] at digits
  exact Nat.toDigits_ne_nil digits

/-- Numbers are told apart by their digits. -/
theorem decimal_inj {m n : Nat} : decimal m = decimal n ↔ m = n := by
  constructor
  · intro same
    have digits := congrArg String.toList same
    rw [decimal, decimal, String.toList_ofList, String.toList_ofList] at digits
    have value := congrArg (Nat.ofDigitChars 10 · 0) digits
    simpa only [Nat.ofDigitChars_ten_toDigits] using value
  · rintro rfl
    rfl

/-- A number in range is read back from its own digits. -/
theorem numeral?_decimal {n : Nat} (small : (n : Int) ≤ int64Max) :
    numeral? (decimal n).toList = some ↑n := by
  have digits (c : Char) (member : c ∈ Nat.toDigits 10 n) : c.isDigit = true :=
    Nat.isDigit_of_mem_toDigits (by decide) (by decide) member
  have value : Nat.ofDigitChars 10 (Nat.toDigits 10 n) 0 = n := Nat.ofDigitChars_ten_toDigits
  have fits : fitsInt64 (Sign.plus.apply n) = true := by
    rw [fitsInt64, Bool.and_eq_true, decide_eq_true_eq, decide_eq_true_eq, Sign.apply, int64Min]
    exact ⟨by omega, small⟩
  rw [decimal, String.toList_ofList]
  cases spelled : Nat.toDigits 10 n with
  | nil => exact absurd spelled Nat.toDigits_ne_nil
  | cons c rest =>
    rw [spelled] at digits value
    rw [numeral?_of_isDigit (digits c List.mem_cons_self), digitsNumeral?, value, if_pos]
    · rfl
    · exact ⟨List.cons_ne_nil c rest, List.all_eq_true.2 digits, fits⟩

end RowBindings.Text
