import RowBindings.Text.Utf8
import Mathlib.Tactic.Convert
import Mathlib.Tactic.SplitIfs

/-!
# Reading and writing UTF-8

`Spells` lists the byte sequences of a character, as the standard does, and stands between the two
directions: a character is written by the only sequence that spells it, and the reader takes a
sequence for a character exactly when it spells one. So `decodeUtf8` and `encodeUtf8` undo each
other, in either order.
-/

namespace RowBindings.Text

/-! ## Lead bytes by the number of bytes that they promise -/

/-- The first bytes of characters of two bytes. C0 and C1 would begin overlong ones. -/
theorem leadByte?_two {b : UInt8} (h : 0xC2 ≤ b.toNat) (h' : b.toNat ≤ 0xDF) :
    leadByte? b = some ⟨b.toNat - 0xC0, 0, 0x80, 0xBF⟩ := by
  rw [leadByte?, if_pos]
  simp only [UInt8.le_iff_toNat_le, UInt8.reduceToNat]
  omega

/-- The first bytes of characters of three bytes. After E0 an overlong spelling is excluded by the
second byte, and after ED a surrogate. -/
theorem leadByte?_three {b : UInt8} (h : 0xE0 ≤ b.toNat) (h' : b.toNat ≤ 0xEF) :
    leadByte? b = some ⟨b.toNat - 0xE0, 1, if b.toNat = 0xE0 then 0xA0 else 0x80,
      if b.toNat = 0xED then 0x9F else 0xBF⟩ := by
  simp only [leadByte?, UInt8.le_iff_toNat_le, ← UInt8.toNat_inj, UInt8.reduceToNat]
  split_ifs <;> first | omega | simp [*]

/-- The first bytes of characters of four bytes. After F0 an overlong spelling is excluded by the
second byte, and after F4 what is beyond the last code point. -/
theorem leadByte?_four {b : UInt8} (h : 0xF0 ≤ b.toNat) (h' : b.toNat ≤ 0xF4) :
    leadByte? b = some ⟨b.toNat - 0xF0, 2, if b.toNat = 0xF0 then 0x90 else 0x80,
      if b.toNat = 0xF4 then 0x8F else 0xBF⟩ := by
  simp only [leadByte?, UInt8.le_iff_toNat_le, ← UInt8.toNat_inj, UInt8.reduceToNat]
  split_ifs <;> first | omega | simp [*]

/-- All other bytes begin no character of several bytes. -/
theorem leadByte?_none {b : UInt8} (h : b.toNat < 0xC2 ∨ 0xF4 < b.toNat) :
    leadByte? b = none := by
  simp only [leadByte?, UInt8.le_iff_toNat_le, ← UInt8.toNat_inj, UInt8.reduceToNat]
  split_ifs <;> first | omega | rfl

/-- The bytes that can follow a lead byte carry six bits. -/
theorem isContinuation_iff {b : UInt8} :
    isContinuation b ↔ 0x80 ≤ b.toNat ∧ b.toNat ≤ 0xBF := by
  simp [isContinuation, UInt8.le_iff_toNat_le]

/-! ## The sequences that spell one character -/

theorem isValidChar_iff {n : Nat} :
    n.isValidChar ↔ n < 0xD800 ∨ 0xDFFF < n ∧ n < 0x110000 := Iff.rfl

theorem toNat_ofNat_of_isValidChar {n : Nat} (h : n.isValidChar) :
    (Char.ofNat n).val.toNat = n := by
  rw [Char.ofNat, dif_pos h]
  rfl

/-- The byte sequences that spell one character, with its code point. The bounds on the second byte
leave out what fewer bytes could spell, the surrogates, and what lies past the last code point. -/
inductive Spells : List UInt8 → Nat → Prop
  | one {b : UInt8} (hb : b.toNat < 0x80) : Spells [b] b.toNat
  | two {b x : UInt8} (hb : 0xC2 ≤ b.toNat) (hb' : b.toNat ≤ 0xDF) (hx : isContinuation x) :
      Spells [b, x] ((b.toNat - 0xC0) * 64 + (x.toNat - 0x80))
  | three {b x y : UInt8} (hb : 0xE0 ≤ b.toNat) (hb' : b.toNat ≤ 0xEF) (hx : isContinuation x)
      (low : b.toNat = 0xE0 → 0xA0 ≤ x.toNat) (high : b.toNat = 0xED → x.toNat ≤ 0x9F)
      (hy : isContinuation y) :
      Spells [b, x, y] (((b.toNat - 0xE0) * 64 + (x.toNat - 0x80)) * 64 + (y.toNat - 0x80))
  | four {b x y z : UInt8} (hb : 0xF0 ≤ b.toNat) (hb' : b.toNat ≤ 0xF4) (hx : isContinuation x)
      (low : b.toNat = 0xF0 → 0x90 ≤ x.toNat) (high : b.toNat = 0xF4 → x.toNat ≤ 0x8F)
      (hy : isContinuation y) (hz : isContinuation z) :
      Spells [b, x, y, z]
        ((((b.toNat - 0xF0) * 64 + (x.toNat - 0x80)) * 64 + (y.toNat - 0x80)) * 64 +
          (z.toNat - 0x80))

/-- What is spelled is a scalar value. -/
theorem Spells.isValidChar {seq : List UInt8} {n : Nat} (h : Spells seq n) : n.isValidChar := by
  rw [isValidChar_iff]
  cases h with
  | one hb => omega
  | two hb hb' hx =>
    rw [isContinuation_iff] at hx
    omega
  | three hb hb' hx low high hy =>
    rw [isContinuation_iff] at hx hy
    omega
  | four hb hb' hx low high hy hz =>
    rw [isContinuation_iff] at hx hy hz
    omega

/-- A character is written by the sequence that spells it. -/
theorem Spells.utf8EncodeChar_ofNat {seq : List UInt8} {n : Nat} (h : Spells seq n) :
    String.utf8EncodeChar (Char.ofNat n) = seq := by
  simp only [String.utf8EncodeChar, toNat_ofNat_of_isValidChar h.isValidChar]
  -- The number tells how many bytes are written, and these are its groups of bits.
  cases h with
  | one hb =>
    rw [if_pos (by omega), UInt8.ofNat_toNat]
  | two hb hb' hx =>
    rw [isContinuation_iff] at hx
    rw [if_neg (by omega), if_pos (by omega)]
    simp only [List.cons.injEq, ← UInt8.toNat_inj, UInt8.toNat_ofNat', and_true]
    omega
  | three hb hb' hx low high hy =>
    rw [isContinuation_iff] at hx hy
    rw [if_neg (by omega), if_neg (by omega), if_pos (by omega)]
    simp only [List.cons.injEq, ← UInt8.toNat_inj, UInt8.toNat_ofNat', and_true]
    omega
  | four hb hb' hx low high hy hz =>
    rw [isContinuation_iff] at hx hy hz
    rw [if_neg (by omega), if_neg (by omega), if_neg (by omega)]
    simp only [List.cons.injEq, ← UInt8.toNat_inj, UInt8.toNat_ofNat', and_true]
    omega

/-- The bytes of a character spell it. -/
theorem spells_utf8EncodeChar (c : Char) : Spells (String.utf8EncodeChar c) c.toNat := by
  have hv := isValidChar_iff.1 c.valid
  change Spells _ c.val.toNat
  simp only [String.utf8EncodeChar]
  generalize c.val.toNat = n at *
  -- All bytes are given as numbers below 256.
  have byte (m : Nat) (h : m < 256) : (UInt8.ofNat m).toNat = m := UInt8.toNat_ofNat_of_lt' h
  have tail (m : Nat) : isContinuation (UInt8.ofNat (m % 64 + 128)) := by
    rw [isContinuation_iff, byte _ (by omega)]
    omega
  split_ifs with h₁ h₂ h₃
  · have spelled := Spells.one (b := UInt8.ofNat n) (by rw [byte _ (by omega)]; omega)
    rwa [byte _ (by omega)] at spelled
  · have lead := byte (n / 64 % 32 + 192) (by omega)
    have spelled := Spells.two (b := UInt8.ofNat (n / 64 % 32 + 192)) (by omega) (by omega) (tail n)
    rw [lead, byte _ (by omega)] at spelled
    convert spelled using 1
    omega
  · have lead := byte (n / 4096 % 16 + 224) (by omega)
    have second := byte (n / 64 % 64 + 128) (by omega)
    have spelled := Spells.three (b := UInt8.ofNat (n / 4096 % 16 + 224)) (by omega) (by omega)
      (tail (n / 64)) (by omega) (by omega) (tail n)
    rw [lead, second, byte _ (by omega)] at spelled
    convert spelled using 1
    omega
  · have lead := byte (n / 262144 % 8 + 240) (by omega)
    have second := byte (n / 4096 % 64 + 128) (by omega)
    have spelled := Spells.four (b := UInt8.ofNat (n / 262144 % 8 + 240)) (by omega) (by omega)
      (tail (n / 4096)) (by omega) (by omega) (tail (n / 64)) (tail n)
    rw [lead, second, byte _ (by omega), byte _ (by omega)] at spelled
    convert spelled using 1
    omega

/-! ## Reading one character -/

/-- A continuation byte adds six bits. -/
theorem readTail_succ {more width value : Nat} {b : UInt8} {rest : List UInt8}
    (hb : isContinuation b) :
    readTail (more + 1) width value (b :: rest) =
      readTail more (width + 1) (value * 64 + (b.toNat - 0x80)) rest := by
  rw [readTail, if_pos hb]

/-- A character that is read to its end has all its continuation bytes. -/
theorem readTail_succ_eq_char {more width value n : Nat} {bytes rest : List UInt8} {c : Char}
    (h : readTail (more + 1) width value bytes = .char c n rest) :
    ∃ b tail, bytes = b :: tail ∧ isContinuation b ∧
      readTail more (width + 1) (value * 64 + (b.toNat - 0x80)) tail = .char c n rest := by
  cases bytes with
  | nil => exact absurd h (by simp [readTail])
  | cons b tail =>
    rw [readTail] at h
    split at h
    · exact ⟨b, tail, rfl, ‹_›, h⟩
    · exact absurd h (by simp)

/-- A sequence that spells a character is read as that character, whatever follows. -/
theorem Spells.readChar {b : UInt8} {tail : List UInt8} {n : Nat} (h : Spells (b :: tail) n)
    (rest : List UInt8) :
    readChar b (tail ++ rest) = .char (Char.ofNat n) (tail.length + 1) rest := by
  unfold Text.readChar
  cases h with
  | one hb =>
    rw [if_pos (UInt8.lt_iff_toNat_lt.2 hb)]
    rfl
  | two hb hb' hx =>
    have hx' := isContinuation_iff.1 hx
    rw [if_neg (UInt8.not_lt.2 (UInt8.le_iff_toNat_le.2 (by simp only [UInt8.reduceToNat]; omega))),
      leadByte?_two hb hb']
    simp only [List.cons_append, List.nil_append, UInt8.le_iff_toNat_le, UInt8.reduceToNat]
    rw [if_pos hx']
    rfl
  | three hb hb' hx low high hy =>
    have hx' := isContinuation_iff.1 hx
    rw [if_neg (UInt8.not_lt.2 (UInt8.le_iff_toNat_le.2 (by simp only [UInt8.reduceToNat]; omega))),
      leadByte?_three hb hb']
    simp only [List.cons_append, List.nil_append, UInt8.le_iff_toNat_le]
    rw [if_pos (by split_ifs <;> simp only [UInt8.reduceToNat] <;> omega), readTail_succ hy]
    rfl
  | four hb hb' hx low high hy hz =>
    have hx' := isContinuation_iff.1 hx
    rw [if_neg (UInt8.not_lt.2 (UInt8.le_iff_toNat_le.2 (by simp only [UInt8.reduceToNat]; omega))),
      leadByte?_four hb hb']
    simp only [List.cons_append, List.nil_append, UInt8.le_iff_toNat_le]
    rw [if_pos (by split_ifs <;> simp only [UInt8.reduceToNat] <;> omega), readTail_succ hy,
      readTail_succ hz]
    rfl

/-- Only a sequence that spells a character is read as one. -/
theorem spells_of_readChar {b : UInt8} {bytes rest : List UInt8} {c : Char} {k : Nat}
    (h : readChar b bytes = .char c k rest) :
    ∃ tail n, bytes = tail ++ rest ∧ Spells (b :: tail) n ∧ c = Char.ofNat n ∧
      k = tail.length + 1 := by
  unfold readChar at h
  split at h
  · rename_i hb
    cases h
    exact ⟨[], _, rfl, .one (UInt8.lt_iff_toNat_lt.1 hb), rfl, rfl⟩
  split at h
  · exact absurd h (by simp)
  · exact absurd h (by simp)
  rename_i hb lead x bytes hlead
  split at h
  case isFalse => exact absurd h (by simp)
  rename_i hx
  rw [UInt8.le_iff_toNat_le, UInt8.le_iff_toNat_le] at hx
  -- The lead byte decides how many follow; the second byte has its own range.
  by_cases none : b.toNat < 0xC2 ∨ 0xF4 < b.toNat
  · rw [leadByte?_none none] at hlead
    exact absurd hlead (by simp)
  by_cases two : b.toNat ≤ 0xDF
  · rw [leadByte?_two (by omega) two] at hlead
    obtain rfl := Option.some.inj hlead
    rw [readTail, Utf8Step.char.injEq] at h
    obtain ⟨rfl, rfl, rfl⟩ := h
    exact ⟨[x], _, rfl, .two (by omega) two (isContinuation_iff.2 hx), rfl, rfl⟩
  by_cases three : b.toNat ≤ 0xEF
  · rw [leadByte?_three (by omega) three] at hlead
    obtain rfl := Option.some.inj hlead
    obtain ⟨y, tail, rfl, hy, h⟩ := readTail_succ_eq_char h
    rw [readTail, Utf8Step.char.injEq] at h
    obtain ⟨rfl, rfl, rfl⟩ := h
    refine ⟨[x, y], _, rfl, .three (by omega) three (isContinuation_iff.2 ?_) ?_ ?_ hy, rfl, rfl⟩
    all_goals split_ifs at hx <;> simp only [UInt8.reduceToNat] at hx <;> omega
  · rw [leadByte?_four (by omega) (by omega)] at hlead
    obtain rfl := Option.some.inj hlead
    obtain ⟨y, tail, rfl, hy, h⟩ := readTail_succ_eq_char h
    obtain ⟨z, tail, rfl, hz, h⟩ := readTail_succ_eq_char h
    rw [readTail, Utf8Step.char.injEq] at h
    obtain ⟨rfl, rfl, rfl⟩ := h
    refine ⟨[x, y, z], _, rfl, .four (by omega) (by omega) (isContinuation_iff.2 ?_) ?_ ?_ hy hz,
      rfl, rfl⟩
    all_goals split_ifs at hx <;> simp only [UInt8.reduceToNat] at hx <;> omega

/-- A character is read exactly if the bytes begin with those that it is written in. -/
theorem readChar_eq_char_iff {b : UInt8} {bytes rest : List UInt8} {c : Char} {n : Nat} :
    readChar b bytes = .char c n rest ↔
      b :: bytes = String.utf8EncodeChar c ++ rest ∧ n = (String.utf8EncodeChar c).length := by
  constructor
  · intro h
    obtain ⟨tail, code, rfl, spelled, rfl, rfl⟩ := spells_of_readChar h
    rw [spelled.utf8EncodeChar_ofNat]
    exact ⟨rfl, rfl⟩
  · rintro ⟨written, rfl⟩
    have spelled := spells_utf8EncodeChar c
    cases encoded : String.utf8EncodeChar c with
    | nil => exact absurd encoded String.utf8EncodeChar_ne_nil
    | cons first tail =>
      rw [encoded] at written spelled
      obtain ⟨rfl, rfl⟩ : b = first ∧ bytes = tail ++ rest := List.cons.inj written
      rw [spelled.readChar, Char.ofNat_toNat]
      rfl

/-! ## Whole texts -/

/-- Decoding goes on behind a character that is read. -/
theorem decodeFrom_of_char {offset n : Nat} {b : UInt8} {bytes rest : List UInt8} {c : Char}
    (h : readChar b bytes = .char c n rest) :
    decodeFrom offset (b :: bytes) = (decodeFrom (offset + n) rest).map (c :: ·) := by
  rw [decodeFrom]
  split
  · rename_i read
    rw [h] at read
    cases read
    rfl
  · rename_i read
    rw [h] at read
    cases read

/-- A character at the start is read, and then what follows it. -/
theorem decodeFrom_char_append (offset : Nat) (c : Char) (bytes : List UInt8) :
    decodeFrom offset (String.utf8EncodeChar c ++ bytes) =
      (decodeFrom (offset + (String.utf8EncodeChar c).length) bytes).map (c :: ·) := by
  obtain ⟨b, tail, written⟩ := List.exists_cons_of_ne_nil (String.utf8EncodeChar_ne_nil (c := c))
  have read : readChar b (tail ++ bytes) = .char c (String.utf8EncodeChar c).length bytes := by
    rw [readChar_eq_char_iff, written]
    exact ⟨rfl, rfl⟩
  rw [← decodeFrom_of_char read, written, List.cons_append]

/-- The bytes of a text are read back as that text. -/
theorem decodeFrom_flatMap (offset : Nat) (s : List Char) :
    decodeFrom offset (s.flatMap String.utf8EncodeChar) = .ok s := by
  induction s generalizing offset with
  | nil => rw [List.flatMap_nil, decodeFrom]
  | cons c s ih =>
    rw [List.flatMap_cons, decodeFrom_char_append, ih]
    rfl

/-- Bytes that are read as a text are the bytes of that text. -/
theorem flatMap_of_decodeFrom {offset : Nat} {bytes : List UInt8} {s : List Char}
    (h : decodeFrom offset bytes = .ok s) : s.flatMap String.utf8EncodeChar = bytes := by
  fun_induction decodeFrom offset bytes generalizing s with
  | case1 =>
    cases h
    rfl
  | case2 offset b bytes c width rest hread ih =>
    -- One character is read as it is written, and the rest by induction.
    obtain ⟨written, rfl⟩ := readChar_eq_char_iff.1 hread
    cases hrest : decodeFrom (offset + (String.utf8EncodeChar c).length) rest with
    | error e => rw [hrest] at h; cases h
    | ok t =>
      rw [hrest] at h
      cases h
      rw [List.flatMap_cons, ih hrest, written]
  | case3 => cases h

/-- Reading undoes writing. -/
theorem decodeUtf8_encodeUtf8 (s : String) : decodeUtf8 (encodeUtf8 s) = .ok s := by
  rw [decodeUtf8, encodeUtf8, decodeFrom_flatMap]
  exact congrArg Except.ok String.ofList_toList

/-- Writing undoes reading. -/
theorem encodeUtf8_of_decodeUtf8 {bytes : List UInt8} {s : String}
    (h : decodeUtf8 bytes = .ok s) : encodeUtf8 s = bytes := by
  rw [decodeUtf8] at h
  cases hread : decodeFrom 0 bytes with
  | error e => rw [hread] at h; cases h
  | ok t =>
    rw [hread] at h
    cases h
    rw [encodeUtf8, String.toList_ofList, flatMap_of_decodeFrom hread]

end RowBindings.Text
