import RowBindings.Proofs.Text.FlatObject
import RowBindings.Proofs.Text.Printable
import RowBindings.Text.Split

/-!
# Quoted texts read back

A quoted text ends at its second quote, whatever stands in it, and tells which text was quoted.
`readEscaped?` reads a single character back as it was written; so `quote_append_inj` can take a
quoted text off the front of any other.
-/

namespace RowBindings.Text

open Log.Pattern

/-! ## Hexadecimal digits -/

/-- The hexadecimal digits of a number have values that make up the number again. -/
theorem exists_mapM_toDigits (n : Nat) :
    ∃ values, (Nat.toDigits 16 n).mapM hexDigitValue? = some values ∧
      values.foldl (16 * · + ·) 0 = n := by
  -- The digits of the quotient come first, and the remainder is the last.
  induction n using Nat.strongRecOn with
  | ind n ih =>
    rw [Nat.toDigits_eq_if (by decide)]
    split
    · rename_i small
      refine ⟨[n], ?_, by simp⟩
      rw [List.mapM_cons, hexDigitValue?_digitChar small]
      rfl
    · rename_i large
      have last := @hexDigitValue?_digitChar (n % 16) (Nat.mod_lt n (by decide))
      obtain ⟨values, read, value⟩ := ih (n / 16) (by omega)
      refine ⟨values ++ [n % 16], ?_, ?_⟩
      · rw [List.mapM_append, read, List.mapM_cons, last]
        rfl
      · rw [List.foldl_append, value]
        exact Nat.div_add_mod n 16

/-- A code point is read back from its hexadecimal digits. -/
theorem codePoint?_toDigits (c : Char) : codePoint? (Nat.toDigits 16 c.toNat) = some c := by
  obtain ⟨values, read, value⟩ := exists_mapM_toDigits c.toNat
  have valid : c.toNat.isValidChar := c.valid
  simp only [codePoint?, read, Option.bind_eq_bind, Option.bind_some, value, if_pos valid,
    Char.ofNat_toNat]

/-! ## Single characters -/

/-- The letters that stand for a character behind a backslash in a quoted text. -/
def quotedLetters : List (Char × Char) :=
  [('0', '\x00'), ('t', '\t'), ('r', '\r'), ('n', '\n'), ('\\', '\\'), ('"', '"')]

/-- Read one character of a quoted text, and what follows it. A quote by itself is none. -/
def readEscaped? : List Char → Option (Char × List Char)
  | '\\' :: 'u' :: '{' :: rest =>
    match splitFirst '}' rest with
    | (digits, some rest) => (codePoint? digits).map (·, rest)
    | (_, none) => none
  | '\\' :: letter :: rest => (quotedLetters.lookup letter).map (·, rest)
  | c :: rest => if c = '"' ∨ c = '\\' then none else some (c, rest)
  | [] => none

/-- A character is read back, whatever follows. -/
theorem readEscaped?_escapeChar (c : Char) (rest : List Char) :
    readEscaped? (escapeChar c ++ rest) = some (c, rest) := by
  fun_cases escapeChar c with
  | case1 => subst c; rfl
  | case2 => subst c; rfl
  | case3 => subst c; rfl
  | case4 => subst c; rfl
  | case5 => subst c; rfl
  | case6 => subst c; rfl
  | case7 =>
    -- The code point ends at the brace, which is no hexadecimal digit.
    have open_ : '}' ∉ Nat.toDigits 16 c.toNat := by
      intro member
      obtain ⟨d, small, brace⟩ := exists_digitChar_of_mem_toDigits (by decide) member
      have digits : ∀ d : Fin 16, '}' ≠ Nat.digitChar d := by decide
      exact digits ⟨d, small⟩ brace
    have whole : codePointEscape c ++ rest =
        '\\' :: 'u' :: '{' :: (Nat.toDigits 16 c.toNat ++ '}' :: rest) := by
      simp [codePointEscape]
    rw [whole, readEscaped?, splitFirst_append open_]
    simp only [codePoint?_toDigits, Option.map_some]
  | case8 _ _ _ _ backslash quote _ =>
    have plain : ¬(c = '"' ∨ c = '\\') := not_or.2 ⟨quote, backslash⟩
    show readEscaped? (c :: rest) = _
    rw [readEscaped?, if_neg plain]
    · intro _ escaped
      exact absurd escaped backslash
    · intro _ _ escaped
      exact absurd escaped backslash

/-! ## Whole texts -/

/-- The written characters of a text, up to the quote that ends it, tell the text. The induction
takes one character off both texts at a time. -/
theorem flatMap_escapeChar_inj {s t rest rest' : List Char}
    (same : s.flatMap escapeChar ++ '"' :: rest = t.flatMap escapeChar ++ '"' :: rest') :
    s = t ∧ rest = rest' := by
  -- Both texts are read alike: a quote ends them, all else is one character.
  induction s generalizing t with
  | nil =>
    cases t with
    | nil => exact ⟨rfl, (List.cons.inj same).2⟩
    | cons d t =>
      have read := congrArg readEscaped? same
      rw [List.flatMap_cons, List.append_assoc, readEscaped?_escapeChar] at read
      cases read
  | cons c s ih =>
    cases t with
    | nil =>
      have read := congrArg readEscaped? same
      rw [List.flatMap_cons, List.append_assoc, readEscaped?_escapeChar] at read
      cases read
    | cons d t =>
      have read := congrArg readEscaped? same
      simp only [List.flatMap_cons, List.append_assoc, readEscaped?_escapeChar, Option.some.injEq,
        Prod.mk.injEq] at read
      obtain ⟨rfl, others⟩ := read
      obtain ⟨rfl, after⟩ := ih others
      exact ⟨rfl, after⟩

theorem toList_quote_append (s rest : String) :
    (quote s ++ rest).toList = '"' :: (s.toList.flatMap escapeChar ++ '"' :: rest.toList) := by
  rw [String.toList_append, quote, String.toList_ofList, List.cons_append, List.append_assoc]
  rfl

/-- A quoted text begins with a quote. -/
theorem head?_quote_append (s rest : String) : (quote s ++ rest).toList.head? = some '"' := by
  rw [toList_quote_append]
  rfl

/-- A quoted text is told apart from what follows it. -/
theorem quote_append_inj {s t rest rest' : String} :
    quote s ++ rest = quote t ++ rest' ↔ s = t ∧ rest = rest' := by
  constructor
  · intro same
    have lists := congrArg String.toList same
    rw [toList_quote_append, toList_quote_append] at lists
    obtain ⟨text, after⟩ := flatMap_escapeChar_inj (List.cons.inj lists).2
    exact ⟨String.toList_inj.1 text, String.toList_inj.1 after⟩
  · rintro ⟨rfl, rfl⟩
    rfl

/-- Different texts are quoted differently. -/
theorem quote_injective {s t : String} (same : quote s = quote t) : s = t := by
  rw [← String.append_empty (s := quote s), ← String.append_empty (s := quote t)] at same
  exact (quote_append_inj.1 same).1

end RowBindings.Text
