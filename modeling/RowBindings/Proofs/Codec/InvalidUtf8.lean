import RowBindings.Proofs.Codec.RoundTrip

/-!
# Where bytes stop being UTF-8

A fault of `decodeUtf8` tells how much of the input is valid and how many bytes begin a character
after that. Both are the greatest numbers that could be told, and the second is missing exactly if
more input could still make the whole valid (`Codec.string_utf8`). What carries this are two facts
about a faulty character: with more input a cut character becomes a whole one, and a character that
has gone wrong stays wrong at the same byte.
-/

namespace RowBindings

namespace Text

/-- The bytes spell a text. -/
def IsUtf8 (bytes : List UInt8) : Prop :=
  ∃ s : String, encodeUtf8 s = bytes

/-- The bytes are the first of those that a character is written in, or all of them. -/
def BeginsChar (bytes : List UInt8) : Prop :=
  ∃ c : Char, bytes <+: String.utf8EncodeChar c

/-- The longest part from the start of `bytes` with the property `p` has `n` bytes. -/
structure LongestPrefix (p : List UInt8 → Prop) (bytes : List UInt8) (n : Nat) : Prop where
  le_length : n ≤ bytes.length
  take : p (bytes.take n)
  le : ∀ m ≤ bytes.length, p (bytes.take m) → m ≤ n

/-! ## The end of a character -/

/-- A first byte asks for some second byte, and for two more bytes after it at most. -/
theorem leadByte?_bounds {b : UInt8} {lead : LeadByte} (h : leadByte? b = some lead) :
    lead.low ≤ lead.high ∧ lead.more ≤ 2 := by
  unfold leadByte? at h
  split_ifs at h
  all_goals
    simp only [Option.some.injEq] at h
    rw [← h]
    dsimp only
    decide

/-- As many bytes as are missing can complete a character. -/
theorem readTail_replicate (more width value : Nat) :
    ∃ c n, readTail more width value (List.replicate more 0x80) = .char c n [] := by
  induction more generalizing width value with
  | zero => exact ⟨_, _, rfl⟩
  | succ more ih =>
    rw [List.replicate_succ, readTail_succ (by decide)]
    exact ih _ _

/-- A tail that the input cuts off is completed by some further bytes. -/
theorem exists_readTail_append {more width value : Nat} {bytes : List UInt8}
    (h : readTail more width value bytes = .fault none) :
    ∃ further c n, readTail more width value (bytes ++ further) = .char c n [] := by
  fun_induction readTail more width value bytes with
  | case1 => cases h
  | case2 width value more => exact ⟨_, readTail_replicate (more + 1) width value⟩
  | case3 more width value b rest continues ih =>
    obtain ⟨further, c, n, read⟩ := ih h
    exact ⟨further, c, n, (readTail_succ continues).trans read⟩
  | case4 => cases h

/-- A tail that has gone wrong stays wrong whatever follows. -/
theorem readTail_append_of_fault {more width value n : Nat} {bytes : List UInt8}
    (h : readTail more width value bytes = .fault (some n)) (further : List UInt8) :
    readTail more width value (bytes ++ further) = .fault (some n) := by
  fun_induction readTail more width value bytes with
  | case1 => cases h
  | case2 => cases h
  | case3 more width value b rest continues ih => exact (readTail_succ continues).trans (ih h)
  | case4 more width value b rest stops =>
    rw [List.cons_append, readTail, if_neg stops]
    exact h

/-- A tail goes wrong at the first byte that does not go on: up to there it is only cut off. -/
theorem readTail_take_of_fault {more width value n : Nat} {bytes : List UInt8}
    (h : readTail more width value bytes = .fault (some n)) :
    ∃ i, n = width + i ∧ i < more ∧ i < bytes.length ∧
      readTail more width value (bytes.take i) = .fault none ∧
      readTail more width value (bytes.take (i + 1)) = .fault (some n) := by
  fun_induction readTail more width value bytes with
  | case1 => cases h
  | case2 => cases h
  | case3 more width value b rest continues ih =>
    obtain ⟨i, rfl, few, inside, cut, wrong⟩ := ih h
    refine ⟨i + 1, by omega, by omega, Nat.succ_lt_succ inside, ?_, ?_⟩
    -- The byte that continues is kept in both prefixes.
    · exact (readTail_succ continues).trans cut
    · exact (readTail_succ continues).trans wrong
  | case4 more width value b rest stops =>
    cases h
    refine ⟨0, rfl, Nat.succ_pos more, Nat.succ_pos _, rfl, ?_⟩
    rw [List.take_succ_cons, readTail, if_neg stops]

/-! ## One character -/

/-- The second byte decides whether a character of several bytes goes on. -/
theorem readChar_of_lead {b x : UInt8} {rest : List UInt8} {lead : LeadByte} (several : ¬b < 0x80)
    (begins : leadByte? b = some lead) :
    readChar b (x :: rest) =
      if lead.low ≤ x ∧ x ≤ lead.high then
        readTail lead.more 2 (lead.payload * 64 + (x.toNat - 0x80)) rest
      else .fault (some 1) := by
  simp only [readChar, if_neg several, begins]

/-- The ways in which a character can be faulty, with what follows its first byte and the fault. -/
inductive Faulty (b : UInt8) : List UInt8 → Option Nat → Prop
  /-- No character begins with the byte. -/
  | stray (bytes : List UInt8) : (∀ others, readChar b others = .fault (some 1)) →
    Faulty b bytes (some 1)
  /-- The input ends after the first byte. -/
  | cut {lead : LeadByte} : ¬b < 0x80 → leadByte? b = some lead → Faulty b [] none
  /-- The second byte is out of its range. -/
  | second {lead : LeadByte} {x : UInt8} (rest : List UInt8) : ¬b < 0x80 →
    leadByte? b = some lead → ¬(lead.low ≤ x ∧ x ≤ lead.high) → readChar b [] = .fault none →
    Faulty b (x :: rest) (some 1)
  /-- The fault is further on. -/
  | tail {lead : LeadByte} {x : UInt8} {rest : List UInt8} {n : Option Nat} : ¬b < 0x80 →
    leadByte? b = some lead → lead.low ≤ x ∧ x ≤ lead.high →
    readTail lead.more 2 (lead.payload * 64 + (x.toNat - 0x80)) rest = .fault n →
    Faulty b (x :: rest) n

/-- Where a character cannot be read, its bytes are faulty in one of the two ways. -/
theorem faulty_of_readChar {b : UInt8} {bytes : List UInt8} {n : Option Nat}
    (h : readChar b bytes = .fault n) : Faulty b bytes n := by
  by_cases single : b < 0x80
  · simp [readChar, single] at h
  cases begins : leadByte? b with
  | none =>
    have wrong (others : List UInt8) : readChar b others = .fault (some 1) := by
      simp only [readChar, if_neg single, begins]
    rw [wrong] at h
    cases h
    exact .stray bytes wrong
  | some lead =>
    -- A lead byte alone is cut, whatever it announces.
    have cut : readChar b [] = .fault none := by simp only [readChar, if_neg single, begins]
    cases bytes with
    | nil =>
      rw [cut] at h
      cases h
      exact .cut single begins
    | cons x rest =>
      rw [readChar_of_lead single begins] at h
      split at h
      · rename_i range
        exact .tail single begins range h
      · rename_i range
        cases h
        exact .second rest single begins range cut

/-- A character that is read does not depend on the bytes behind it. -/
theorem readChar_append_of_char {b : UInt8} {bytes rest : List UInt8} {c : Char} {n : Nat}
    (h : readChar b bytes = .char c n rest) (further : List UInt8) :
    readChar b (bytes ++ further) = .char c n (rest ++ further) := by
  rw [readChar_eq_char_iff] at h ⊢
  rw [← List.cons_append, h.1, List.append_assoc]
  exact ⟨rfl, h.2⟩

/-- A character that the input cuts off is completed by some further bytes. -/
theorem exists_readChar_append {b : UInt8} {bytes : List UInt8}
    (h : readChar b bytes = .fault none) :
    ∃ further c n, readChar b (bytes ++ further) = .char c n [] := by
  cases faulty_of_readChar h with
  | @cut lead several begins =>
    -- The least byte in range, and then as many continuations as are announced.
    obtain ⟨c, n, read⟩ := readTail_replicate lead.more 2
      (lead.payload * 64 + (lead.low.toNat - 0x80))
    have range := (leadByte?_bounds begins).1
    refine ⟨lead.low :: List.replicate lead.more 0x80, c, n, ?_⟩
    rw [List.nil_append, readChar_of_lead several begins, if_pos ⟨UInt8.le_refl _, range⟩, read]
  | tail several begins range cut =>
    obtain ⟨further, c, n, read⟩ := exists_readTail_append cut
    refine ⟨further, c, n, ?_⟩
    rw [List.cons_append, readChar_of_lead several begins, if_pos range, read]

/-- A character that has gone wrong stays wrong whatever follows. -/
theorem readChar_append_of_fault {b : UInt8} {bytes : List UInt8} {n : Nat}
    (h : readChar b bytes = .fault (some n)) (further : List UInt8) :
    readChar b (bytes ++ further) = .fault (some n) := by
  cases faulty_of_readChar h with
  | stray _ wrong => exact wrong _
  | second rest several begins range =>
    rw [List.cons_append, readChar_of_lead several begins, if_neg range]
  | tail several begins range wrong =>
    rw [List.cons_append, readChar_of_lead several begins, if_pos range]
    exact readTail_append_of_fault wrong further

/-- A character of several bytes goes wrong at the first byte that cannot stand in its place, and up
to there it is only cut off. If that byte is the first, nothing that follows matters. -/
theorem readChar_take_of_fault {b : UInt8} {bytes : List UInt8} {n : Nat}
    (h : readChar b bytes = .fault (some n)) :
    (n = 1 ∧ ∀ others, readChar b others = .fault (some 1)) ∨
    (∃ i, n = i + 1 ∧ i < 3 ∧ i < bytes.length ∧ readChar b (bytes.take i) = .fault none ∧
      readChar b (bytes.take (i + 1)) = .fault (some n)) := by
  cases faulty_of_readChar h with
  | stray _ wrong => exact .inl ⟨rfl, wrong⟩
  | second rest several begins range cut =>
    refine .inr ⟨0, rfl, by decide, Nat.succ_pos _, cut, ?_⟩
    rw [List.take_succ_cons, readChar_of_lead several begins, if_neg range]
  | tail several begins range wrong =>
    obtain ⟨i, rfl, few, inside, before, here⟩ := readTail_take_of_fault wrong
    have bound := (leadByte?_bounds begins).2
    refine .inr ⟨i + 1, by omega, by omega, Nat.succ_lt_succ inside, ?_, ?_⟩
    · rw [List.take_succ_cons, readChar_of_lead several begins, if_pos range, before]
    · rw [List.take_succ_cons, readChar_of_lead several begins, if_pos range, here]

/-! ## Beginnings of characters -/

/-- Bytes begin a character if it is cut off after them or ends with them. -/
theorem beginsChar_cons_iff {b : UInt8} {bytes : List UInt8} :
    BeginsChar (b :: bytes) ↔
      readChar b bytes = .fault none ∨ ∃ c n, readChar b bytes = .char c n [] := by
  constructor
  -- What is read of the whole is read of the prefix, unless that is cut short.
  · rintro ⟨c, further, written⟩
    have whole : readChar b (bytes ++ further) = .char c (String.utf8EncodeChar c).length [] :=
      readChar_eq_char_iff.2 ⟨by rw [List.append_nil, ← written]; rfl, rfl⟩
    cases read : readChar b bytes with
    | char c' n rest =>
      rw [readChar_append_of_char read] at whole
      injection whole with _ _ none
      rw [(List.append_eq_nil_iff.1 none).1]
      exact .inr ⟨c', n, rfl⟩
    | fault errorLength =>
      cases errorLength with
      | none => exact .inl rfl
      | some n =>
        rw [readChar_append_of_fault read] at whole
        cases whole
  · rintro (cut | ⟨c, n, read⟩)
    · obtain ⟨further, c, n, read⟩ := exists_readChar_append cut
      have written := (readChar_eq_char_iff.1 read).1
      rw [List.append_nil] at written
      exact ⟨c, further, written⟩
    · have written := (readChar_eq_char_iff.1 read).1
      rw [List.append_nil] at written
      exact ⟨c, [], by rw [List.append_nil, written]⟩

theorem beginsChar_nil : BeginsChar [] :=
  ⟨'a', List.nil_prefix⟩

/-- What begins a character still does so if it is cut short. -/
theorem BeginsChar.of_prefix {a b : List UInt8} (h : BeginsChar b) (le : a <+: b) :
    BeginsChar a := by
  obtain ⟨c, begins⟩ := h
  exact ⟨c, le.trans begins⟩

/-- What begins characters and goes on no further is the longest beginning. -/
theorem longestPrefix_beginsChar {bytes : List UInt8} {n : Nat} (inside : n < bytes.length)
    (begins : BeginsChar (bytes.take n)) (ends : ¬BeginsChar (bytes.take (n + 1))) :
    LongestPrefix BeginsChar bytes n := by
  refine ⟨Nat.le_of_lt inside, begins, fun m _ longer => Nat.le_of_not_lt fun more => ?_⟩
  exact ends (longer.of_prefix (List.take_prefix_take_left more))

/-- Where a character goes wrong tells how many of the bytes begin one. -/
theorem longestPrefix_of_readChar {b : UInt8} {bytes : List UInt8} {n : Nat}
    (h : readChar b bytes = .fault (some n)) :
    (n = 1 ∨ n = 2 ∨ n = 3) ∧ ∃ k, LongestPrefix BeginsChar (b :: bytes) k ∧ n = max 1 k := by
  rcases readChar_take_of_fault h with ⟨rfl, wrong⟩ | ⟨i, rfl, few, inside, cut, wrong⟩
  · refine ⟨.inl rfl, 0, longestPrefix_beginsChar (Nat.succ_pos _) beginsChar_nil ?_, rfl⟩
    rw [List.take_succ_cons, beginsChar_cons_iff, wrong]
    simp
  · refine ⟨by omega, i + 1, longestPrefix_beginsChar (Nat.succ_lt_succ inside) ?_ ?_, by omega⟩
    · rw [List.take_succ_cons, beginsChar_cons_iff]
      exact .inl cut
    · rw [List.take_succ_cons, beginsChar_cons_iff, wrong]
      simp

/-! ## Whole texts -/

/-- Decoding stops at the first character that cannot be read and tells where it begins. -/
theorem decodeFrom_of_fault {offset : Nat} {b : UInt8} {bytes : List UInt8} {n : Option Nat}
    (h : readChar b bytes = .fault n) : decodeFrom offset (b :: bytes) = .error ⟨offset, n⟩ := by
  rw [decodeFrom]
  split
  · rename_i read
    rw [h] at read
    cases read
  · rename_i read
    rw [h] at read
    cases read
    rfl

/-- Bytes are valid exactly if they are read, wherever they stand. -/
theorem isUtf8_iff {bytes : List UInt8} (offset : Nat) :
    IsUtf8 bytes ↔ ∃ s, decodeFrom offset bytes = .ok s := by
  constructor
  · rintro ⟨s, rfl⟩
    exact ⟨s.toList, decodeFrom_flatMap offset s.toList⟩
  · rintro ⟨s, read⟩
    refine ⟨String.ofList s, ?_⟩
    rw [encodeUtf8, String.toList_ofList, flatMap_of_decodeFrom read]

/-- Valid bytes begin with a character, and what follows it is valid. -/
theorem exists_readChar_of_isUtf8 {b : UInt8} {bytes : List UInt8} (h : IsUtf8 (b :: bytes)) :
    ∃ c n rest, readChar b bytes = .char c n rest := by
  obtain ⟨s, whole⟩ := (isUtf8_iff 0).1 h
  cases read : readChar b bytes with
  | char c n rest => exact ⟨c, n, rest, rfl⟩
  | fault n =>
    rw [decodeFrom_of_fault read] at whole
    cases whole

/-- What follows a character decides whether the whole is valid. -/
theorem isUtf8_char_append_iff {c : Char} {bytes : List UInt8} :
    IsUtf8 (String.utf8EncodeChar c ++ bytes) ↔ IsUtf8 bytes := by
  rw [isUtf8_iff 0, isUtf8_iff (0 + (String.utf8EncodeChar c).length), decodeFrom_char_append]
  cases decodeFrom (0 + (String.utf8EncodeChar c).length) bytes with
  | error fault => simp [Except.map]
  | ok s => simp [Except.map]

/-- What follows valid bytes decides whether the whole is valid. -/
theorem isUtf8_append_iff {valid bytes : List UInt8} (h : IsUtf8 valid) :
    IsUtf8 (valid ++ bytes) ↔ IsUtf8 bytes := by
  obtain ⟨s, rfl⟩ := h
  rw [encodeUtf8]
  induction s.toList with
  | nil => rw [List.flatMap_nil, List.nil_append]
  | cons c rest ih => rw [List.flatMap_cons, List.append_assoc, isUtf8_char_append_iff, ih]

/-- A fault stands after valid bytes, where a character is cut off or goes wrong. -/
theorem exists_of_decodeFrom_eq_error {offset : Nat} {bytes : List UInt8} {fault : Utf8Fault}
    (h : decodeFrom offset bytes = .error fault) :
    ∃ valid b rest, bytes = valid ++ b :: rest ∧ IsUtf8 valid ∧
      fault.validUpTo = offset + valid.length ∧ readChar b rest = .fault fault.errorLength := by
  fun_induction decodeFrom offset bytes with
  | case1 => cases h
  | case2 offset b bytes c n rest read ih =>
    obtain ⟨written, rfl⟩ := readChar_eq_char_iff.1 read
    cases later : decodeFrom (offset + (String.utf8EncodeChar c).length) rest with
    | ok s =>
      rw [later] at h
      cases h
    | error e =>
      rw [later] at h
      cases h
      -- The character goes to the valid part, and the fault stays where it is.
      obtain ⟨valid, first, others, rfl, spelled, place, wrong⟩ := ih later
      refine ⟨String.utf8EncodeChar c ++ valid, first, others, ?_, ?_, ?_, wrong⟩
      · rw [written, List.append_assoc]
      · exact isUtf8_char_append_iff.2 spelled
      · rw [place, List.length_append, Nat.add_assoc]
  | case3 offset b bytes n read =>
    cases h
    exact ⟨[], b, bytes, rfl, ⟨"", rfl⟩, rfl, read⟩

/-- The bytes before a faulty character are the longest valid part. -/
theorem longestPrefix_isUtf8 {valid : List UInt8} {b : UInt8} {rest : List UInt8} {n : Option Nat}
    (h : IsUtf8 valid) (wrong : readChar b rest = .fault n) :
    LongestPrefix IsUtf8 (valid ++ b :: rest) valid.length := by
  refine ⟨by simp, by rwa [List.take_left], fun m _ longer => Nat.le_of_not_lt fun more => ?_⟩
  obtain ⟨k, rfl⟩ := Nat.exists_eq_add_of_lt more
  rw [Nat.add_assoc, List.take_length_add_append, List.take_succ_cons,
    isUtf8_append_iff h] at longer
  obtain ⟨c, width, others, read⟩ := exists_readChar_of_isUtf8 longer
  -- A character that is read from a part of the bytes is read from all of them.
  have whole := readChar_append_of_char read (rest.drop k)
  rw [List.take_append_drop, wrong] at whole
  cases whole

/-- Further bytes can make the whole valid exactly if the faulty character is cut off. -/
theorem exists_append_iff {valid : List UInt8} {b : UInt8} {rest : List UInt8} {n : Option Nat}
    (h : IsUtf8 valid) (wrong : readChar b rest = .fault n) :
    (∃ further, IsUtf8 ((valid ++ b :: rest) ++ further)) ↔ n = none := by
  simp only [List.append_assoc, List.cons_append, isUtf8_append_iff h]
  constructor
  · rintro ⟨further, whole⟩
    obtain ⟨c, width, others, read⟩ := exists_readChar_of_isUtf8 whole
    cases n with
    | none => rfl
    | some n =>
      -- A fault with a length is a fault of every continuation.
      rw [readChar_append_of_fault wrong] at read
      cases read
  · rintro rfl
    obtain ⟨further, c, width, read⟩ := exists_readChar_append wrong
    refine ⟨further, ?_⟩
    rw [(readChar_eq_char_iff.1 read).1, isUtf8_char_append_iff]
    exact ⟨"", rfl⟩

/-- The faults of bytes that are not valid, with what they tell. -/
theorem exists_fault {bytes : List UInt8} (h : ¬IsUtf8 bytes) :
    ∃ fault, decodeUtf8 bytes = .error fault ∧ LongestPrefix IsUtf8 bytes fault.validUpTo ∧
      (fault.errorLength = none ↔ ∃ further, IsUtf8 (bytes ++ further)) ∧
      ∀ n ∈ fault.errorLength, (n = 1 ∨ n = 2 ∨ n = 3) ∧
        ∃ k, LongestPrefix BeginsChar (bytes.drop fault.validUpTo) k ∧ n = max 1 k := by
  cases read : decodeFrom 0 bytes with
  | ok s => exact absurd ((isUtf8_iff 0).2 ⟨s, read⟩) h
  | error fault =>
    obtain ⟨valid, b, rest, rfl, spelled, place, wrong⟩ := exists_of_decodeFrom_eq_error read
    rw [Nat.zero_add] at place
    refine ⟨fault, ?_, ?_, (exists_append_iff spelled wrong).symm, ?_⟩
    · rw [decodeUtf8, read]
      rfl
    · rw [place]
      exact longestPrefix_isUtf8 spelled wrong
    · intro n told
      rw [Option.mem_def.1 told] at wrong
      rw [place, List.drop_left]
      exact longestPrefix_of_readChar wrong

end Text

open Text in
/-- Bytes are read as a text exactly if the text is written as those bytes. Any other bytes are
refused; the fault tells how long the longest valid part is, and how many bytes after it begin a
character, but at least one, unless further bytes could make the whole valid. -/
theorem Codec.string_utf8 (data : Bytes) :
    (∀ s : String, Codec.string.decode data = .ok s ↔ Codec.string.encode s = .ok data) ∧
    ((∃ s : String, Codec.string.encode s = .ok data) ∨
      ∃ fault, Codec.string.decode data = .error (.invalidUtf8 fault) ∧
        LongestPrefix IsUtf8 data fault.validUpTo ∧
        (fault.errorLength = none ↔ ∃ further, IsUtf8 (data ++ further)) ∧
        ∀ n ∈ fault.errorLength, (n = 1 ∨ n = 2 ∨ n = 3) ∧
          ∃ k, LongestPrefix BeginsChar (data.drop fault.validUpTo) k ∧ n = max 1 k) := by
  refine ⟨Codec.string.decode_eq_ok_iff data, ?_⟩
  -- Text is written by the codec itself; all else has a first fault.
  by_cases valid : IsUtf8 data
  · obtain ⟨s, written⟩ := valid
    exact .inl ⟨s, congrArg Except.ok written⟩
  · obtain ⟨fault, read, told⟩ := exists_fault valid
    refine .inr ⟨fault, ?_, told⟩
    show (decodeUtf8 data).mapError CodecError.invalidUtf8 = _
    rw [read]
    rfl

/-- A letter, and a character of four bytes that goes wrong at its third. -/
example : Codec.string.decode [0x61, 0xF0, 0x90, 0x41] = .error (.invalidUtf8 ⟨1, some 2⟩) := by
  cbv

end RowBindings
