import Mathlib.Order.Monotone.Basic
import RowBindings.Proofs.Text.Utf8

/-!
# The order of texts is that of their bytes

Texts are compared by code points. Comparing their UTF-8 bytes comes to the same: of two different
characters, the one that comes first has the lesser bytes already, so that what follows does not
matter (`encodeUtf8_lt_iff`).
-/

namespace RowBindings.Text

/-! ## Characters by their first byte -/

/-- The least first byte of characters with a number of bytes behind it. -/
def leastLead : Nat → Nat
  | 0 => 0
  | 1 => 0xC0
  | 2 => 0xE0
  | 3 => 0xF0
  | _ => 0xF8

/-- The least code point of characters with a number of bytes behind the first. -/
def leastPoint : Nat → Nat
  | 0 => 0
  | 1 => 0x80
  | 2 => 0x800
  | 3 => 0x10000
  | _ => 0x110000

/-- Longer encodings have larger first bytes. -/
theorem monotone_leastLead : Monotone leastLead := by
  apply monotone_nat_of_le_succ
  rintro (_ | _ | _ | _ | n) <;> simp [leastLead]

/-- Longer encodings are of larger code points. -/
theorem monotone_leastPoint : Monotone leastPoint := by
  apply monotone_nat_of_le_succ
  rintro (_ | _ | _ | _ | n) <;> simp [leastPoint]

/-- A number with the six bits of a continuation byte behind it. -/
def addSixBits (n : Nat) (b : UInt8) : Nat :=
  n * 64 + (b.toNat - 0x80)

/-- The bytes of the code point `n`. How many they are is told by the first of them and by `n`. -/
structure Leads (lead : UInt8) (tail : List UInt8) (n : Nat) : Prop where
  continues : ∀ x ∈ tail, isContinuation x
  point_eq : n = tail.foldl addSixBits (lead.toNat - leastLead tail.length)
  le_lead : leastLead tail.length ≤ lead.toNat
  lead_lt : lead.toNat < leastLead (tail.length + 1)
  le_point : leastPoint tail.length ≤ n
  point_lt : n < leastPoint (tail.length + 1)

/-- A spelling is its first byte and a run of continuation bytes. -/
theorem Spells.exists_leads {a : List UInt8} {n : Nat} (spells : Spells a n) :
    ∃ lead tail, a = lead :: tail ∧ Leads lead tail n := by
  -- The bounds of the lead byte and of the number are those of the length.
  cases spells with
  | @one b hb =>
    refine ⟨b, [], rfl, by simp, rfl, ?_, ?_, ?_, ?_⟩ <;>
      simp only [leastLead, leastPoint, List.length_nil] <;> omega
  | @two b x hb hb' hx =>
    have second := isContinuation_iff.1 hx
    refine ⟨b, [x], rfl, by simp [hx], rfl, ?_, ?_, ?_, ?_⟩ <;>
      simp only [leastLead, leastPoint, List.length_cons, List.length_nil] <;> omega
  | @three b x y hb hb' hx low high hy =>
    have second := isContinuation_iff.1 hx
    have third := isContinuation_iff.1 hy
    refine ⟨b, [x, y], rfl, by simp [hx, hy], rfl, ?_, ?_, ?_, ?_⟩ <;>
      simp only [leastLead, leastPoint, List.length_cons, List.length_nil] <;> omega
  | @four b x y z hb hb' hx low high hy hz =>
    have second := isContinuation_iff.1 hx
    have third := isContinuation_iff.1 hy
    have fourth := isContinuation_iff.1 hz
    refine ⟨b, [x, y, z], rfl, by simp [hx, hy, hz], rfl, ?_, ?_, ?_, ?_⟩ <;>
      simp only [leastLead, leastPoint, List.length_cons, List.length_nil] <;> omega

/-- Of two bytes above a bound, what is less above it is less. -/
theorem cons_lt_cons_of_above {low : Nat} {x y : UInt8} {a b : List UInt8} (hx : low ≤ x.toNat)
    (hy : low ≤ y.toNat)
    (less : x.toNat - low < y.toNat - low ∨ x.toNat - low = y.toNat - low ∧ a < b) :
    x :: a < y :: b := by
  rw [List.cons_lt_cons_iff, UInt8.lt_iff_toNat_lt, ← UInt8.toNat_inj]
  rcases less with less | ⟨same, less⟩
  · left
    omega
  · exact .inr ⟨by omega, less⟩

/-- If continuation bytes lead to a lesser number, then it was less before them, or it was the same
and they are less. The induction moves a byte of each run to what stands before. -/
theorem append_lt_of_foldl_lt {m n : Nat} {a b : List UInt8} (same : a.length = b.length)
    (ha : ∀ x ∈ a, isContinuation x) (hb : ∀ y ∈ b, isContinuation y)
    (less : a.foldl addSixBits m < b.foldl addSixBits n) (rest rest' : List UInt8) :
    m < n ∨ m = n ∧ a ++ rest < b ++ rest' := by
  induction a generalizing m n b with
  | nil =>
    obtain rfl := List.length_eq_zero_iff.1 same.symm
    rw [List.foldl_nil, List.foldl_nil] at less
    exact .inl less
  | cons x a ih =>
    obtain ⟨y, b, rfl⟩ := List.exists_cons_of_length_eq_add_one same.symm
    rw [List.forall_mem_cons, isContinuation_iff] at ha hb
    rw [List.foldl_cons, List.foldl_cons] at less
    have length : a.length = b.length := by simpa using same
    have later := ih length ha.2 hb.2 less
    unfold addSixBits at later
    -- The six bits of the first byte count more than all that follow.
    rcases later with before | ⟨before, after⟩
    · by_cases equal : m = n
      · exact .inr ⟨equal, cons_lt_cons_of_above ha.1.1 hb.1.1 (.inl (by omega))⟩
      · left
        omega
    · exact .inr ⟨by omega, cons_lt_cons_of_above ha.1.1 hb.1.1 (.inr ⟨by omega, after⟩)⟩

/-- Of two characters, the lesser code point has the lesser bytes, whatever follows them. Of fewer
bytes both the first and the code point are less; of as many, each byte carries the next bits. -/
theorem Spells.append_lt {a b : List UInt8} {m n : Nat} (first : Spells a m) (second : Spells b n)
    (less : m < n) (rest rest' : List UInt8) : a ++ rest < b ++ rest' := by
  obtain ⟨x, a, rfl, leadsA⟩ := first.exists_leads
  obtain ⟨y, b, rfl, leadsB⟩ := second.exists_leads
  -- Longer sequences have greater lead bytes and stand for greater numbers.
  rcases Nat.lt_trichotomy a.length b.length with shorter | same | longer
  · have between := monotone_leastLead (Nat.succ_le_of_lt shorter)
    have lead : x.toNat < y.toNat :=
      leadsA.lead_lt.trans_le (between.trans leadsB.le_lead)
    exact List.cons_lt_cons_iff.2 (.inl (UInt8.lt_iff_toNat_lt.2 lead))
  · have lead := leadsB.le_lead
    rw [leadsA.point_eq, leadsB.point_eq, same] at less
    rw [← same] at lead less
    exact cons_lt_cons_of_above leadsA.le_lead lead
      (append_lt_of_foldl_lt same leadsA.continues leadsB.continues less rest rest')
  · have between := monotone_leastPoint (Nat.succ_le_of_lt longer)
    have greater : n < m := leadsB.point_lt.trans_le (between.trans leadsA.le_point)
    exact absurd less greater.asymm

/-! ## Texts -/

/-- A common start does not count in the order. -/
theorem append_lt_append (a : List UInt8) {b c : List UInt8} (less : b < c) : a ++ b < a ++ c := by
  induction a with
  | nil => exact less
  | cons x a ih => exact List.cons_lt_cons_iff.2 (.inr ⟨rfl, ih⟩)

theorem utf8EncodeChar_ne_nil (c : Char) : String.utf8EncodeChar c ≠ [] := by
  intro empty
  have spells := spells_utf8EncodeChar c
  rw [empty] at spells
  cases spells

/-- The bytes of the lesser text are less. The induction is on the first place where the texts
differ. -/
theorem flatMap_utf8EncodeChar_lt {s t : List Char} (less : List.Lex (· < ·) s t) :
    s.flatMap String.utf8EncodeChar < t.flatMap String.utf8EncodeChar := by
  -- The induction is on where the two first differ.
  induction less with
  | @nil c t =>
    rw [List.flatMap_nil, List.flatMap_cons]
    cases bytes : String.utf8EncodeChar c with
    | nil => exact absurd bytes (utf8EncodeChar_ne_nil c)
    | cons x rest => exact .nil
  | @rel c s d t less =>
    rw [List.flatMap_cons, List.flatMap_cons]
    exact (spells_utf8EncodeChar c).append_lt (spells_utf8EncodeChar d) less _ _
  | cons _ ih =>
    rw [List.flatMap_cons, List.flatMap_cons]
    exact append_lt_append _ ih

/-- Texts are ordered as their bytes are. -/
theorem encodeUtf8_lt_iff {s t : String} : encodeUtf8 s < encodeUtf8 t ↔ s < t := by
  have forward {s t : String} (less : s < t) : encodeUtf8 s < encodeUtf8 t :=
    flatMap_utf8EncodeChar_lt less
  refine ⟨fun less => ?_, forward⟩
  rcases Decidable.em (s = t) with rfl | differ
  · exact absurd less (List.lt_irrefl _)
  refine Decidable.byContradiction fun not_less => differ ?_
  refine String.le_antisymm (String.not_lt.1 fun greater => ?_) (String.not_lt.1 not_less)
  exact List.lt_asymm less (forward greater)

end RowBindings.Text
