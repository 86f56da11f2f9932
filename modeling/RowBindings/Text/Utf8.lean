/-!
# UTF-8

`encodeUtf8` writes a text as bytes and `decodeUtf8` reads it back. Reading takes one character at
a time and stops at the first byte that cannot go on, so that a fault tells where the valid text
ends and how many bytes begin a character there without completing it. The range of the second
byte depends on the first: that rules out overlong forms, surrogates and numbers past U+10FFFF.
-/

namespace RowBindings.Text

def encodeUtf8 (s : String) : List UInt8 :=
  s.toList.flatMap String.utf8EncodeChar

/-- Where a byte string stops being UTF-8. -/
structure Utf8Fault where
  /-- The length of the longest part from the start that is valid. -/
  validUpTo : Nat
  /-- How many bytes the faulty sequence has, or `none` if the input ends inside a character. -/
  errorLength : Option Nat
  deriving DecidableEq, Repr

/-- What a first byte from 128 on promises. -/
structure LeadByte where
  /-- The payload of the byte itself. -/
  payload : Nat
  /-- How many bytes follow the second. -/
  more : Nat
  /-- The least second byte. -/
  low : UInt8
  /-- The greatest second byte. -/
  high : UInt8

/-- The shape of the character that `b` begins, if it begins one of several bytes. -/
def leadByte? (b : UInt8) : Option LeadByte :=
  if 0xC2 ≤ b ∧ b ≤ 0xDF then some ⟨b.toNat - 0xC0, 0, 0x80, 0xBF⟩
  else if b = 0xE0 then some ⟨0, 1, 0xA0, 0xBF⟩
  else if b = 0xED then some ⟨0xD, 1, 0x80, 0x9F⟩
  else if 0xE1 ≤ b ∧ b ≤ 0xEF then some ⟨b.toNat - 0xE0, 1, 0x80, 0xBF⟩
  else if b = 0xF0 then some ⟨0, 2, 0x90, 0xBF⟩
  else if 0xF1 ≤ b ∧ b ≤ 0xF3 then some ⟨b.toNat - 0xF0, 2, 0x80, 0xBF⟩
  else if b = 0xF4 then some ⟨4, 2, 0x80, 0x8F⟩
  else none

/-- Whether `b` may stand third or fourth in a character. -/
def isContinuation (b : UInt8) : Bool :=
  0x80 ≤ b && b ≤ 0xBF

/-- What the next bytes of an input turn out to be. -/
inductive Utf8Step
  /-- A character that took `width` bytes. -/
  | char (c : Char) (width : Nat) (rest : List UInt8)
  /-- No character; the length is as in `Utf8Fault`. -/
  | fault (errorLength : Option Nat)

/-- Read the last `more` bytes of a character of which `width` bytes are read. -/
def readTail : (more width value : Nat) → List UInt8 → Utf8Step
  | 0, width, value, rest => .char (Char.ofNat value) width rest
  | _ + 1, _, _, [] => .fault none
  | more + 1, width, value, b :: rest =>
    if isContinuation b then readTail more (width + 1) (value * 64 + (b.toNat - 0x80)) rest
    else .fault (some width)

/-- Read the character that begins with `b`. -/
def readChar (b : UInt8) (rest : List UInt8) : Utf8Step :=
  if b < 0x80 then .char (Char.ofNat b.toNat) 1 rest
  else
    match leadByte? b, rest with
    | none, _ => .fault (some 1)
    | some _, [] => .fault none
    | some lead, second :: rest =>
      if lead.low ≤ second ∧ second ≤ lead.high then
        readTail lead.more 2 (lead.payload * 64 + (second.toNat - 0x80)) rest
      else .fault (some 1)

/-- Reading the end of a character leaves no more than there was. -/
theorem length_le_of_readTail {more width value : Nat} {bytes rest : List UInt8} {c : Char}
    {n : Nat} (h : readTail more width value bytes = .char c n rest) :
    rest.length ≤ bytes.length := by
  fun_induction readTail more width value bytes with
  | case1 => simp_all
  | case2 => simp at h
  | case3 _ _ _ _ _ _ ih => exact Nat.le_succ_of_le (ih h)
  | case4 => simp at h

/-- Reading a character leaves no more than what followed its first byte. -/
theorem length_le_of_readChar {b : UInt8} {bytes rest : List UInt8} {c : Char} {n : Nat}
    (h : readChar b bytes = .char c n rest) : rest.length ≤ bytes.length := by
  unfold readChar at h
  split at h
  · simp_all
  · split at h
    · simp at h
    · simp at h
    · split at h
      · exact Nat.le_succ_of_le (length_le_of_readTail h)
      · simp at h

/-- Read the characters of `bytes`, which stand at `offset` in the whole input. -/
def decodeFrom (offset : Nat) : List UInt8 → Except Utf8Fault (List Char)
  | [] => .ok []
  | b :: bytes =>
    match _h : readChar b bytes with
    | .char c width rest => (decodeFrom (offset + width) rest).map (c :: ·)
    | .fault errorLength => .error ⟨offset, errorLength⟩
  termination_by bytes => bytes.length
  decreasing_by exact Nat.lt_succ_of_le (length_le_of_readChar _h)

/-- The text that the bytes spell, or where they stop being UTF-8. -/
def decodeUtf8 (bytes : List UInt8) : Except Utf8Fault String :=
  (decodeFrom 0 bytes).map String.ofList

end RowBindings.Text
