import RowBindings.Text.Split

/-!
# Cutting at offsets

An offset counts bytes of UTF-8. A text can be cut at the offsets where a character begins and at
its end, and nowhere else.
-/

namespace RowBindings.Text

def byteSize : List Char → Nat
  | [] => 0
  | c :: s => c.utf8Size + byteSize s

@[simp] theorem byteSize_nil : byteSize [] = 0 := rfl

@[simp] theorem byteSize_cons (c : Char) (s : List Char) :
    byteSize (c :: s) = c.utf8Size + byteSize s :=
  rfl

@[simp] theorem byteSize_append (s t : List Char) :
    byteSize (s ++ t) = byteSize s + byteSize t := by
  induction s with
  | nil => rw [List.nil_append, byteSize_nil, Nat.zero_add]
  | cons c s ih => rw [List.cons_append, byteSize_cons, byteSize_cons, ih, Nat.add_assoc]

/-- A text begins at an offset if what stands before it takes so many bytes. -/
theorem dropBytes?_eq_some_iff {n : Nat} {s rest : List Char} :
    dropBytes? n s = some rest ↔ ∃ before, s = before ++ rest ∧ byteSize before = n := by
  -- A character that begins before the offset has to end there or before.
  fun_induction dropBytes? n s with
  | case1 s =>
    constructor
    · rintro ⟨⟩
      exact ⟨[], rfl, rfl⟩
    · rintro ⟨before, rfl, size⟩
      cases before with
      | nil => rfl
      | cons c before =>
        have pos := c.utf8Size_pos
        rw [byteSize_cons] at size
        omega
  | case2 n => simp
  | case3 n c s le ih =>
    rw [ih]
    constructor
    · rintro ⟨before, rfl, size⟩
      refine ⟨c :: before, rfl, ?_⟩
      rw [byteSize_cons, size, Nat.add_sub_cancel' le]
    · rintro ⟨before, same, size⟩
      cases before with
      | nil => cases size
      | cons d before =>
        obtain ⟨rfl, rfl⟩ := List.cons.inj same
        refine ⟨before, rfl, ?_⟩
        rw [byteSize_cons] at size
        omega
  | case4 n c s gt =>
    constructor
    · nofun
    · rintro ⟨before, same, size⟩
      cases before with
      | nil => cases size
      | cons d before =>
        obtain ⟨rfl, rfl⟩ := List.cons.inj same
        rw [byteSize_cons] at size
        omega

/-- The text up to an offset is the part that takes so many bytes. -/
theorem takeBytes?_append (s t : List Char) : takeBytes? (byteSize s) (s ++ t) = some s := by
  induction s with
  | nil => simp [takeBytes?]
  | cons c s ih =>
    have pos := c.utf8Size_pos
    obtain ⟨n, size⟩ : ∃ n, byteSize (c :: s) = n + 1 := by
      rw [byteSize_cons]
      exact ⟨c.utf8Size + byteSize s - 1, by omega⟩
    have rest : n + 1 - c.utf8Size = byteSize s := by
      rw [byteSize_cons] at size
      omega
    have le : c.utf8Size ≤ n + 1 := by
      rw [byteSize_cons] at size
      omega
    rw [size, List.cons_append, takeBytes?, if_pos le, rest, ih]
    rfl

/-- A character begins at an offset of a text, or the text ends there. -/
def IsBoundary (s : List Char) (offset : Nat) : Prop :=
  ∃ before after, s = before ++ after ∧ byteSize before = offset

theorem isBoundary_zero (s : List Char) : IsBoundary s 0 :=
  ⟨[], s, rfl, rfl⟩

/-- What stands before a boundary can be dropped. -/
theorem IsBoundary.exists_dropBytes? {s : List Char} {offset : Nat} (h : IsBoundary s offset) :
    ∃ rest, dropBytes? offset s = some rest := by
  obtain ⟨before, after, same, size⟩ := h
  exact ⟨after, dropBytes?_eq_some_iff.2 ⟨before, same, size⟩⟩

/-- A text can be cut at two boundaries. -/
theorem IsBoundary.exists_cutBytes? {s : List Char} {start stop : Nat} (h : IsBoundary s start)
    (h' : IsBoundary s stop) (le : start ≤ stop) : ∃ part, cutBytes? start stop s = some part := by
  obtain ⟨before, after, same, size⟩ := h
  obtain ⟨before', after', same', size'⟩ := h'
  have dropped : dropBytes? start s = some after := dropBytes?_eq_some_iff.2 ⟨before, same, size⟩
  -- The text before the later offset begins with the text before the earlier one.
  obtain ⟨part, rfl, rfl⟩ : ∃ part, before' = before ++ part ∧ after = part ++ after' := by
    rcases List.append_eq_append_iff.1 (same.symm.trans same') with ⟨part, h, h'⟩ | ⟨part, h, h'⟩
    · exact ⟨part, h, h'⟩
    · have none : part = [] := by
        rw [h, byteSize_append] at size
        cases part with
        | nil => rfl
        | cons c part =>
          have pos := c.utf8Size_pos
          rw [byteSize_cons] at size
          omega
      subst none
      exact ⟨[], by simpa using h.symm, by simpa using h'.symm⟩
  have taken : takeBytes? (stop - start) (part ++ after') = some part := by
    have length : stop - start = byteSize part := by
      rw [byteSize_append] at size'
      omega
    rw [length, takeBytes?_append]
  exact ⟨part, by rw [cutBytes?, dropped, Option.bind_some, taken]⟩

end RowBindings.Text
