import RowBindings.Log.Pattern
import RowBindings.Text.FlatObject

/-!
# Flat JSON objects read back

`readObject?` reads a JSON object whose members are texts, natural numbers or null, written without
blanks. It keeps to the grammar of JSON: in a text, quotes, backslashes and control characters must
be escaped and every escape is known; a number has no zero in front; and between the members and
after the object nothing is passed over. So what it accepts is well-formed JSON, and
`readObject?_jsonObject` says that it reads every object back as it was written.
-/

namespace RowBindings.Text

open Log.Pattern

/-! ## The reader -/

/-- The letters that stand for a character behind a backslash. -/
def escapeLetters : List (Char × Char) :=
  [('"', '"'), ('\\', '\\'), ('/', '/'), ('b', '\x08'), ('f', '\x0c'), ('n', '\n'), ('r', '\r'),
    ('t', '\t')]

/-- The character whose code point hexadecimal digits spell. -/
def codePoint? (digits : List Char) : Option Char := do
  let values ← digits.mapM hexDigitValue?
  let n := values.foldl (16 * · + ·) 0
  if n.isValidChar then some (Char.ofNat n) else none

/-- Read a text up to the quote that ends it: its characters, and what follows the quote. -/
def readText? : List Char → Option (List Char × List Char)
  | [] => none
  | '\\' :: 'u' :: h₁ :: h₂ :: h₃ :: h₄ :: rest => do
    let c ← codePoint? [h₁, h₂, h₃, h₄]
    (readText? rest).map (Prod.map (c :: ·) id)
  | '\\' :: letter :: rest => do
    let c ← escapeLetters.lookup letter
    (readText? rest).map (Prod.map (c :: ·) id)
  | c :: rest =>
    if c = '"' then some ([], rest)
    else if c = '\\' ∨ c.toNat < 32 then none
    else (readText? rest).map (Prod.map (c :: ·) id)

/-- Read a number, which goes as far as there are digits, and what follows it. -/
def readNumber? (s : List Char) : Option (Nat × List Char) :=
  match s.takeWhile Char.isDigit with
  | [] => none
  | '0' :: _ :: _ => none
  | digits => some (Nat.ofDigitChars 10 digits 0, s.dropWhile Char.isDigit)

/-- Read the value of a member, and what follows it. -/
def readScalar? : List Char → Option (Scalar × List Char)
  | '"' :: rest => (readText? rest).map (Prod.map (.text ∘ String.ofList) id)
  | 'n' :: 'u' :: 'l' :: 'l' :: rest => some (.null, rest)
  | s => (readNumber? s).map (Prod.map .number id)

/-- Read a member, and what follows it. -/
def readMember? : List Char → Option ((String × Scalar) × List Char)
  | '"' :: rest =>
    match readText? rest with
    | some (key, ':' :: rest) => (readScalar? rest).map (Prod.map (String.ofList key, ·) id)
    | _ => none
  | _ => none

/-- A change of the value leaves the rest of the text alone. -/
theorem rest_of_map {α β : Type} {read : Option (α × List Char)} {f : α → β} {b : β}
    {rest : List Char} (h : read.map (Prod.map f id) = some (b, rest)) :
    ∃ a, read = some (a, rest) := by
  obtain ⟨⟨a, rest'⟩, read, same⟩ := Option.map_eq_some_iff.1 h
  obtain ⟨-, rfl⟩ := Prod.mk.inj same
  exact ⟨a, read⟩

/-- A text takes up its closing quote at least. -/
theorem length_lt_of_readText? {s t rest : List Char} (h : readText? s = some (t, rest)) :
    rest.length < s.length := by
  -- An escape takes several characters, the closing quote one.
  fun_induction readText? s generalizing t rest with
  | case1 => cases h
  | case2 h₁ h₂ h₃ h₄ s ih =>
    obtain ⟨c, -, read⟩ := Option.bind_eq_some_iff.1 h
    obtain ⟨t, read⟩ := rest_of_map read
    have shorter := ih read
    simp only [List.length_cons]
    omega
  | case3 letter s _ ih =>
    obtain ⟨c, -, read⟩ := Option.bind_eq_some_iff.1 h
    obtain ⟨t, read⟩ := rest_of_map read
    have shorter := ih read
    simp only [List.length_cons]
    omega
  | case4 s =>
    cases h
    exact Nat.lt_succ_self _
  | case5 => cases h
  | case6 c s _ _ _ _ ih =>
    obtain ⟨t, read⟩ := rest_of_map h
    exact Nat.lt_succ_of_lt (ih read)

theorem length_le_of_readNumber? {s rest : List Char} {n : Nat}
    (h : readNumber? s = some (n, rest)) : rest.length ≤ s.length := by
  rw [readNumber?] at h
  split at h
  · cases h
  · cases h
  · cases h
    exact (List.dropWhile_sublist _).length_le

theorem length_le_of_readScalar? {s rest : List Char} {value : Scalar}
    (h : readScalar? s = some (value, rest)) : rest.length ≤ s.length := by
  rw [readScalar?.eq_def] at h
  split at h
  · obtain ⟨t, read⟩ := rest_of_map h
    exact Nat.le_of_lt (Nat.lt_succ_of_lt (length_lt_of_readText? read))
  · cases h
    simp only [List.length_cons]
    omega
  · obtain ⟨n, read⟩ := rest_of_map h
    exact length_le_of_readNumber? read

/-- A member takes up its opening quote at least, so reading members comes to an end. -/
theorem length_lt_of_readMember? {s rest : List Char} {member : String × Scalar}
    (h : readMember? s = some (member, rest)) : rest.length < s.length := by
  rw [readMember?.eq_def] at h
  split at h
  · split at h
    · rename_i s key s' read
      have text := length_lt_of_readText? read
      obtain ⟨value, read⟩ := rest_of_map h
      have scalar := length_le_of_readScalar? read
      simp only [List.length_cons] at text ⊢
      omega
    · cases h
  · cases h

/-- Read members up to the brace that ends the object, and what follows it. -/
def readMembers? (s : List Char) : Option (List (String × Scalar) × List Char) :=
  match _ : readMember? s with
  | some (member, ',' :: rest) => (readMembers? rest).map (Prod.map (member :: ·) id)
  | some (member, '}' :: rest) => some ([member], rest)
  | _ => none
termination_by s.length
decreasing_by
  have shorter := length_lt_of_readMember? ‹readMember? s = _›
  simp only [List.length_cons] at shorter
  omega

/-- After a comma there is another member. -/
theorem readMembers?_of_comma {s rest : List Char} {member : String × Scalar}
    (read : readMember? s = some (member, ',' :: rest)) :
    readMembers? s = (readMembers? rest).map (Prod.map (member :: ·) id) := by
  rw [readMembers?]
  split
  · rename_i same
    cases read.symm.trans same
    rfl
  · rename_i same
    cases read.symm.trans same
  · rename_i other _
    exact absurd read (other _ _)

/-- After the brace there is none. -/
theorem readMembers?_of_brace {s rest : List Char} {member : String × Scalar}
    (read : readMember? s = some (member, '}' :: rest)) :
    readMembers? s = some ([member], rest) := by
  rw [readMembers?]
  split
  · rename_i same
    cases read.symm.trans same
  · rename_i same
    cases read.symm.trans same
    rfl
  · rename_i _ other
    exact absurd read (other _ _)

def readObject? (s : String) : Option (List (String × Scalar)) :=
  match s.toList with
  | '{' :: rest =>
    if rest = ['}'] then some []
    else
      match readMembers? rest with
      | some (members, []) => some members
      | _ => none
  | _ => none

/-! ## Texts -/

/-- A hexadecimal digit is read as what it was written for. -/
theorem hexDigitValue?_digitChar {d : Nat} (small : d < 16) :
    hexDigitValue? d.digitChar = some d := by
  have digits : ∀ d : Fin 16, hexDigitValue? (Nat.digitChar d) = some d.val := by decide
  exact digits ⟨d, small⟩

/-- The code point of a control character is read back from its two last digits. -/
theorem codePoint?_of_lt {c : Char} (control : c.toNat < 32) :
    codePoint? ['0', '0', Nat.digitChar (c.toNat / 16), Nat.digitChar (c.toNat % 16)] = some c := by
  have high := @hexDigitValue?_digitChar (c.toNat / 16) (by omega)
  have low := @hexDigitValue?_digitChar (c.toNat % 16) (by omega)
  have zero : hexDigitValue? '0' = some 0 := by decide
  have value : 16 * (16 * (16 * (16 * 0 + 0) + 0) + c.toNat / 16) + c.toNat % 16 = c.toNat := by
    omega
  have valid : c.toNat.isValidChar := c.valid
  simp only [codePoint?, List.mapM_cons, List.mapM_nil, zero, high, low, Option.pure_def,
    Option.bind_eq_bind, Option.bind_some, List.foldl_cons, List.foldl_nil, value, if_pos valid,
    Char.ofNat_toNat]

/-- A character of a text is read back, whatever follows. -/
theorem readText?_jsonChar (c : Char) (rest : List Char) :
    readText? (jsonChar c ++ rest) = (readText? rest).map (Prod.map (c :: ·) id) := by
  -- Seven characters are escaped by a letter of their own.
  have letter {letter : Char} (other : letter ≠ 'u')
      (stands : escapeLetters.lookup letter = some c) :
      readText? ('\\' :: letter :: rest) = (readText? rest).map (Prod.map (c :: ·) id) := by
    rw [readText?, stands]
    · rfl
    · rintro _ _ _ _ _ rfl
      exact absurd rfl other
  fun_cases jsonChar c with
  | case1 => subst c; exact letter (by decide) (by decide)
  | case2 => subst c; exact letter (by decide) (by decide)
  | case3 => subst c; exact letter (by decide) (by decide)
  | case4 => subst c; exact letter (by decide) (by decide)
  | case5 => subst c; exact letter (by decide) (by decide)
  | case6 => subst c; exact letter (by decide) (by decide)
  | case7 => subst c; exact letter (by decide) (by decide)
  | case8 _ _ _ _ _ _ _ control =>
    show readText? ('\\' :: 'u' :: '0' :: '0' :: _ :: _ :: rest) = _
    rw [readText?, codePoint?_of_lt control]
    rfl
  | case9 quote backslash _ _ _ _ _ printable =>
    have plain : ¬(c = '\\' ∨ c.toNat < 32) := not_or.2 ⟨backslash, printable⟩
    show readText? (c :: rest) = _
    rw [readText?, if_neg quote, if_neg plain]
    · intro _ _ _ _ _ escaped _
      exact backslash escaped
    · intro _ _ escaped _
      exact backslash escaped

/-- The characters of a text are read back up to the quote that ends it. -/
theorem readText?_flatMap (s rest : List Char) :
    readText? (s.flatMap jsonChar ++ '"' :: rest) = some (s, rest) := by
  induction s with
  | nil => rfl
  | cons c s ih =>
    rw [List.flatMap_cons, List.append_assoc, readText?_jsonChar, ih]
    rfl

/-- The characters of a written text and what follows it. -/
theorem toList_jsonText_append (s : String) (rest : List Char) :
    (jsonText s).toList ++ rest = '"' :: (s.toList.flatMap jsonChar ++ '"' :: rest) := by
  rw [jsonText, String.toList_ofList, List.cons_append, List.append_assoc]
  rfl

/-! ## Values -/

/-- Only zero begins with a zero, and zero is one digit. -/
theorem toDigits_ne_zero_cons (n : Nat) (d : Char) (digits : List Char) :
    Nat.toDigits 10 n ≠ '0' :: d :: digits := by
  induction n using Nat.strongRecOn generalizing d digits with
  | ind n ih =>
    rcases Nat.lt_or_ge n 10 with one | more
    · rw [Nat.toDigits_of_lt_base one]
      intro zero
      cases (List.cons.inj zero).2
    · rw [Nat.toDigits_of_base_le (by decide) more]
      intro zero
      -- A zero in front would be in front of the quotient too.
      cases front : Nat.toDigits 10 (n / 10) with
      | nil => exact Nat.toDigits_ne_nil front
      | cons first digits' =>
        rw [front] at zero
        obtain rfl := (List.cons.inj zero).1
        cases digits' with
        | nil =>
          have value := @Nat.ofDigitChars_ten_toDigits (n / 10)
          rw [front] at value
          have : n / 10 = 0 := value.symm
          omega
        | cons d' digits' => exact ih (n / 10) (by omega) d' digits' front

variable {mark : Char} (ends : mark.isDigit = false) (rest : List Char)
include ends

/-- A number is read back if no digit follows it. -/
theorem readNumber?_decimal (n : Nat) :
    readNumber? ((decimal n).toList ++ mark :: rest) = some (n, mark :: rest) := by
  have digits (c : Char) (member : c ∈ Nat.toDigits 10 n) : c.isDigit = true :=
    Nat.isDigit_of_mem_toDigits (by decide) (by decide) member
  have all : (Nat.toDigits 10 n ++ mark :: rest).takeWhile Char.isDigit = Nat.toDigits 10 n := by
    rw [List.takeWhile_append_of_pos digits, List.takeWhile_cons_of_neg (by simp [ends]),
      List.append_nil]
  -- The mark behind the number is no digit, so the number ends there.
  have left : (Nat.toDigits 10 n ++ mark :: rest).dropWhile Char.isDigit = mark :: rest := by
    rw [List.dropWhile_append_of_pos digits, List.dropWhile_cons_of_neg (by simp [ends])]
  rw [decimal, String.toList_ofList, readNumber?, all, left]
  split
  · rename_i none
    exact absurd none Nat.toDigits_ne_nil
  · rename_i d digits zero
    exact absurd zero (toDigits_ne_zero_cons n d digits)
  · rw [Nat.ofDigitChars_ten_toDigits]

/-- A value is read back if no digit follows it. -/
theorem readScalar?_render (value : Scalar) :
    readScalar? (value.render.toList ++ mark :: rest) = some (value, mark :: rest) := by
  cases value with
  | null => rfl
  | number n =>
    have read := readNumber?_decimal ends rest n
    -- A number begins with a digit, so it is taken neither for a text nor for `null`.
    have digits (c : Char) (rest' : List Char)
        (first : (decimal n).toList ++ mark :: rest = c :: rest') : c.isDigit = true := by
      rw [decimal, String.toList_ofList] at first
      cases front : Nat.toDigits 10 n with
      | nil => exact absurd front Nat.toDigits_ne_nil
      | cons d digits =>
        rw [front] at first
        obtain rfl := (List.cons.inj first).1
        exact Nat.isDigit_of_mem_toDigits (by decide) (by decide) (front ▸ List.mem_cons_self)
    rw [Scalar.render, readScalar?, read]
    · rfl
    · intro rest' quote
      exact absurd (digits _ _ quote) (by decide)
    · intro rest' null
      exact absurd (digits _ _ null) (by decide)
  | text s =>
    rw [Scalar.render, toList_jsonText_append, readScalar?, readText?_flatMap]
    simp

/-! ## Members -/

def renderMember (member : String × Scalar) : String :=
  jsonText member.1 ++ ":" ++ member.2.render

/-- A member is read back if no digit follows it. -/
theorem readMember?_renderMember (member : String × Scalar) :
    readMember? ((renderMember member).toList ++ mark :: rest) = some (member, mark :: rest) := by
  have read := readScalar?_render ends rest member.2
  rw [renderMember, String.toList_append, String.toList_append, List.append_assoc,
    List.append_assoc, toList_jsonText_append, readMember?, readText?_flatMap]
  show (readScalar? (member.2.render.toList ++ mark :: rest)).map _ = _
  rw [read]
  simp

omit ends

/-- Members are read back up to the brace that ends the object. -/
theorem readMembers?_intercalate (member : String × Scalar) (members : List (String × Scalar)) :
    readMembers?
        ((",".intercalate ((member :: members).map renderMember)).toList ++ '}' :: rest) =
      some (member :: members, rest) := by
  induction members generalizing member with
  | nil =>
    rw [List.map_singleton, String.intercalate_singleton]
    exact readMembers?_of_brace (readMember?_renderMember (by decide) rest member)
  | cons next members ih =>
    have comma : ",".toList = [','] := rfl
    rw [List.map_cons, List.map_cons, String.intercalate_cons_cons, ← List.map_cons,
      String.toList_append, String.toList_append, List.append_assoc, List.append_assoc, comma,
      List.singleton_append,
      readMembers?_of_comma (readMember?_renderMember (by decide) _ member), ih next]
    rfl

theorem toList_jsonObject (members : List (String × Scalar)) :
    (jsonObject members).toList =
      '{' :: ((",".intercalate (members.map renderMember)).toList ++ ['}']) := by
  rw [jsonObject, String.toList_append, String.toList_append]
  rfl

/-- Every object is read back as it was written. -/
theorem readObject?_jsonObject (members : List (String × Scalar)) :
    readObject? (jsonObject members) = some members := by
  cases members with
  | nil => rfl
  | cons member members =>
    have read := readMembers?_intercalate [] member members
    -- The object has members, so what follows the brace is not its end.
    have brace : readMembers? ['}'] = none := by
      rw [readMembers?]
      rfl
    rw [readObject?, toList_jsonObject]
    split
    · rename_i rest same
      obtain rfl := (List.cons.inj same).2
      rw [if_neg (fun empty => by rw [empty, brace] at read; cases read), read]
    · rename_i other
      exact absurd rfl (other _)

end RowBindings.Text
