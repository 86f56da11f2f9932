import RowBindings.Text.FlatObject
import RowBindings.Text.Quoted

/-!
# Texts that keep to their line

Messages put foreign texts between quotes, so that no character in them is left that does not show,
and above all no line break. JSON texts keep line breaks out as well, and leave other characters as
they are.
-/

namespace RowBindings.Text

/-- Every character of a text has a form of its own. -/
def Printable (s : String) : Prop :=
  ∀ c ∈ s.toList, isUnprintable c = false

instance : DecidablePred Printable :=
  fun s => List.decidableBAll (fun c => isUnprintable c = false) s.toList

/-- Texts that can be printed can be put together. -/
theorem Printable.append {s t : String} (h : Printable s) (h' : Printable t) :
    Printable (s ++ t) := by
  intro c member
  rw [String.toList_append] at member
  rcases List.mem_append.1 member with first | second
  · exact h c first
  · exact h' c second

/-- A text that shows is one line. -/
theorem Printable.newline_not_mem {s : String} (h : Printable s) : '\n' ∉ s.toList := by
  intro member
  have shows := h '\n' member
  revert shows
  decide

/-- Whether a character is one of the control characters, which come in two blocks: before the
space, and from the delete character on. -/
def isControl (c : Char) : Bool :=
  c.toNat < 0x20 || 0x7F ≤ c.toNat && c.toNat < 0xA0

theorem isUnprintable_of_isControl {c : Char} (h : isControl c = true) :
    isUnprintable c = true := by
  have beyond : ∀ k : Fin 0x20, unprintableBeyondAscii.contains (0x80 + k) = true := by decide
  simp only [isControl, Bool.or_eq_true, Bool.and_eq_true, decide_eq_true_eq] at h
  rw [isUnprintable]
  split
  · simp only [Bool.or_eq_true, decide_eq_true_eq, beq_iff_eq]
    omega
  · have member := beyond ⟨c.toNat - 0x80, by omega⟩
    rwa [show 0x80 + (c.toNat - 0x80) = c.toNat by omega] at member

/-- A text that shows has no control character. -/
theorem Printable.isControl_eq_false {s : String} (h : Printable s) {c : Char}
    (member : c ∈ s.toList) : isControl c = false := by
  rw [Bool.eq_false_iff]
  intro control
  have shows := h c member
  rw [isUnprintable_of_isControl control] at shows
  cases shows

/-- Two texts on one line are one line. -/
theorem newline_not_mem_append {s t : String} (h : '\n' ∉ s.toList) (h' : '\n' ∉ t.toList) :
    '\n' ∉ (s ++ t).toList := by
  rw [String.toList_append, List.mem_append, not_or]
  exact ⟨h, h'⟩

/-- So are any number of them, with a mark between them. -/
theorem newline_not_mem_intercalate {mark : String} {parts : List String}
    (h : '\n' ∉ mark.toList) (h' : ∀ part ∈ parts, '\n' ∉ part.toList) :
    '\n' ∉ (mark.intercalate parts).toList := by
  induction parts with
  | nil =>
    rw [String.intercalate_nil]
    decide
  | cons part rest ih =>
    have first := h' part List.mem_cons_self
    have others := ih fun other later => h' other (List.mem_cons_of_mem part later)
    cases rest with
    | nil =>
      rw [String.intercalate_singleton]
      exact first
    | cons next rest =>
      rw [String.intercalate_cons_cons]
      exact newline_not_mem_append (newline_not_mem_append first h) others

/-! ## Numbers -/

/-- The digits of a number are those of its base. -/
theorem exists_digitChar_of_mem_toDigits {base n : Nat} {c : Char} (large : 1 < base)
    (member : c ∈ Nat.toDigits base n) : ∃ d < base, c = d.digitChar := by
  -- The last digit is the remainder, the others are those of the quotient.
  induction n using Nat.strongRecOn with
  | ind n ih =>
    rw [Nat.toDigits_eq_if large] at member
    split at member
    · rename_i small
      exact ⟨n, small, List.mem_singleton.1 member⟩
    · rename_i whole
      rcases List.mem_append.1 member with before | last
      · have pos : 0 < n := by omega
        exact ih (n / base) (Nat.div_lt_self pos large) before
      · exact ⟨n % base, Nat.mod_lt n (by omega), List.mem_singleton.1 last⟩

theorem isUnprintable_digitChar {d : Nat} (small : d < 16) :
    isUnprintable d.digitChar = false := by
  have digits : ∀ d : Fin 16, isUnprintable (Nat.digitChar d) = false := by decide
  exact digits ⟨d, small⟩

/-- Digits can be printed in every base up to sixteen. -/
theorem isUnprintable_of_mem_toDigits {base n : Nat} {c : Char} (large : 1 < base)
    (small : base ≤ 16) (member : c ∈ Nat.toDigits base n) : isUnprintable c = false := by
  obtain ⟨d, lt, rfl⟩ := exists_digitChar_of_mem_toDigits large member
  exact isUnprintable_digitChar (by omega)

theorem printable_decimal (n : Nat) : Printable (decimal n) := by
  intro c member
  rw [decimal, String.toList_ofList] at member
  exact isUnprintable_of_mem_toDigits (by decide) (by decide) member

theorem printable_signedDecimal (n : Int) : Printable (signedDecimal n) := by
  rw [signedDecimal]
  split
  · exact .append (by decide) (printable_decimal _)
  · exact printable_decimal _

/-! ## Quotes -/

/-- A character of a quoted text is escaped unless it shows. -/
theorem isUnprintable_of_mem_escapeChar {c d : Char} (member : d ∈ escapeChar c) :
    isUnprintable d = false := by
  have pair (letter : Char) (shows : isUnprintable letter = false) (member : d ∈ ['\\', letter]) :
      isUnprintable d = false := by
    simp only [List.mem_cons, List.not_mem_nil, or_false] at member
    rcases member with rfl | rfl
    · decide
    · exact shows
  rw [escapeChar] at member
  split at member
  · exact pair '0' (by decide) member
  split at member
  · exact pair 't' (by decide) member
  split at member
  · exact pair 'r' (by decide) member
  split at member
  · exact pair 'n' (by decide) member
  split at member
  · exact pair '\\' (by decide) member
  split at member
  · exact pair '"' (by decide) member
  split at member
  · -- The code point is written in hexadecimal digits.
    rw [codePointEscape] at member
    simp only [List.mem_cons, List.mem_append, List.not_mem_nil, or_false] at member
    rcases member with rfl | rfl | rfl | digit | rfl
    · decide
    · decide
    · decide
    · exact isUnprintable_of_mem_toDigits (by decide) (by decide) digit
    · decide
  · rename_i shows
    obtain rfl := List.mem_singleton.1 member
    rw [Bool.or_eq_true, not_or] at shows
    simpa using shows.2

/-- Between quotes every text shows. -/
theorem printable_quote (s : String) : Printable (quote s) := by
  intro c member
  rw [quote, String.toList_ofList] at member
  rcases List.mem_cons.1 member with rfl | inside
  · decide
  rcases List.mem_append.1 inside with escaped | last
  · obtain ⟨d, -, written⟩ := List.mem_flatMap.1 escaped
    exact isUnprintable_of_mem_escapeChar written
  · obtain rfl := List.mem_singleton.1 last
    decide

/-! ## JSON -/

/-- A line break is escaped like every control character. -/
theorem newline_not_mem_jsonChar (c : Char) : '\n' ∉ jsonChar c := by
  rw [jsonChar]
  split
  · decide
  split
  · decide
  split
  · decide
  split
  · decide
  split
  · decide
  split
  · decide
  split
  · decide
  split
  · rename_i control
    -- What is written in hexadecimal shows digits only.
    have digit {d : Nat} (small : d < 16) : '\n' ≠ d.digitChar := by
      intro same
      have shows := isUnprintable_digitChar small
      rw [← same] at shows
      revert shows
      decide
    have high : c.toNat / 16 < 16 := by omega
    have low : c.toNat % 16 < 16 := Nat.mod_lt _ (by decide)
    simp [digit high, digit low]
  · rename_i newline _ _ _ _ _
    simpa [eq_comm] using newline

/-- A JSON text is one line, whatever text it holds. -/
theorem newline_not_mem_jsonText (s : String) : '\n' ∉ (jsonText s).toList := by
  rw [jsonText, String.toList_ofList, List.mem_cons, List.mem_append, not_or, not_or]
  refine ⟨by decide, ?_, by decide⟩
  intro member
  obtain ⟨c, -, inside⟩ := List.mem_flatMap.1 member
  exact newline_not_mem_jsonChar c inside

theorem newline_not_mem_render (value : Scalar) : '\n' ∉ value.render.toList := by
  cases value with
  | null => decide
  | number n => exact (printable_decimal n).newline_not_mem
  | text s => exact newline_not_mem_jsonText s

/-- A flat object is one line. -/
theorem newline_not_mem_jsonObject (members : List (String × Scalar)) :
    '\n' ∉ (jsonObject members).toList := by
  refine newline_not_mem_append (newline_not_mem_append (by decide) ?_) (by decide)
  refine newline_not_mem_intercalate (by decide) fun part member => ?_
  obtain ⟨⟨key, value⟩, -, rfl⟩ := List.mem_map.1 member
  exact newline_not_mem_append (newline_not_mem_append (newline_not_mem_jsonText key) (by decide))
    (newline_not_mem_render value)

end RowBindings.Text
