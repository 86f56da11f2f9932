import RowBindings.Proofs.Descriptor.Language
import RowBindings.Proofs.Identifier.Spelling

/-!
# Canonical names

The canonical name of a type is the same for all spellings of its descriptor. It is a descriptor
itself, and it tells the type, unless the type is a table: that is named like the table, without the
keyword in front. `resolve_canonical` says so of every descriptor that resolves.
-/

namespace RowBindings

open Text

namespace FieldType

variable {accepts : String → Bool} {t t' : FieldType}

/-- The canonical name of a type is a descriptor of it, whatever tables are accepted. -/
theorem denotes_name (stored : t.kind ≠ .table) : Descriptor.Denotes accepts t.name t := by
  cases t with
  | address => exact .address
  | bool => exact .bool
  | bytes => exact .bytes
  | string => exact .string
  | fixedBytes w =>
    -- The numeral has to be read back, so the size must fit a machine integer.
    have le := w.le_limit
    exact .fixedBytes w (numeral?_decimal (by rw [int64Max]; omega))
  | hash => exact @Descriptor.Denotes.hash accepts "32" (by decide)
  | integer sign w =>
    have le := w.le_limit
    exact .integer sign w (numeral?_decimal (by rw [int64Max, ByteWidth.bits]; omega))
  | uint256 => exact @Descriptor.Denotes.uint256 accepts "256" (by decide)
  | table => exact absurd rfl stored

/-- Types that are no tables are told apart by their canonical names. -/
theorem name_injective (stored : t.kind ≠ .table) (stored' : t'.kind ≠ .table)
    (same : t.name = t'.name) : t = t' := by
  have first := (@denotes_name (fun _ => false) t stored).classify
  have second := (@denotes_name (fun _ => false) t' stored').classify
  rw [same] at first
  exact Except.ok.inj (first.symm.trans second)

/-- The canonical name of a type that is no table begins with a small letter. -/
theorem isCapital_name (stored : t.kind ≠ .table) : isCapital t.name = false := by
  cases t with
  | table => exact absurd rfl stored
  | fixedBytes w => exact isCapital_append (by decide)
  | integer sign w => cases sign <;> exact isCapital_append (by decide)
  | _ => decide

/-- Of types with the same canonical name, a table has the kind of a table and all others agree. -/
theorem kind_eq_of_name_eq (same : t.name = t'.name) (tables : t.kind = .table ↔ t'.kind = .table) :
    t.kind = t'.kind := by
  by_cases table : t.kind = .table
  · rw [table, tables.1 table]
  · rw [name_injective table (mt tables.2 table) same]

/-- No type is without a name, because the empty text is no descriptor. -/
theorem name_ne_empty {descriptor : String} (h : Descriptor.Denotes accepts descriptor t) :
    t.name ≠ "" := by
  intro empty
  by_cases stored : t.kind ≠ .table
  · have named := (@denotes_name accepts t stored).classify
    rw [empty] at named
    cases named
  · cases h with
    | table nonempty => exact nonempty empty
    | _ => exact stored nofun

/-- The descriptor of a table is its name after the keyword. -/
theorem descriptor_eq_of_table {descriptor : String} (h : Descriptor.Denotes accepts descriptor t)
    (table : t.kind = .table) : descriptor = "table " ++ t.name := by
  cases h with
  | table => rfl
  | _ => cases table

/-- A table is what its name denotes after the keyword, wherever it is accepted. -/
theorem denotes_table (table : t.kind = .table) (named : t.name ≠ "")
    (accepted : accepts t.name = true) : Descriptor.Denotes accepts ("table " ++ t.name) t := by
  cases t with
  | table name => exact .table named accepted
  | _ => cases table

end FieldType

/-- A resolved type has a canonical name. Unless the type is a table, the name resolves to the type
whatever tables are accepted, and every descriptor of a type with this name is a descriptor of this
type. A table has just one descriptor, in which its name follows the keyword, and it resolves to the
same type wherever the table is accepted. -/
theorem resolve_canonical {accepts : String → Bool} {descriptor : String} {t : FieldType}
    (h : resolve accepts descriptor = .ok t) :
    t.name ≠ "" ∧
    (t.kind ≠ .table → (∀ accepts', resolve accepts' t.name = .ok t) ∧
      ∀ accepts' descriptor' t', resolve accepts' descriptor' = .ok t' → t'.kind ≠ .table →
        t'.name = t.name → t' = t) ∧
    (t.kind = .table → descriptor = "table " ++ t.name ∧
      ∀ accepts', accepts' t.name = true → resolve accepts' ("table " ++ t.name) = .ok t) := by
  have denotes := resolve_eq_ok_iff.1 h
  have named := FieldType.name_ne_empty denotes
  refine ⟨named, fun stored => ⟨fun accepts' => ?_, ?_⟩, fun table => ⟨?_, ?_⟩⟩
  · exact resolve_eq_ok_iff.2 (FieldType.denotes_name stored)
  · intro _ _ t' _ stored' same
    -- The names of stored types are distinct, whatever resolved to them.
    exact FieldType.name_injective stored' stored same
  · exact FieldType.descriptor_eq_of_table denotes table
  · intro accepts' accepted
    exact resolve_eq_ok_iff.2 (FieldType.denotes_table table named accepted)

/-- A spelling with a sign and a zero, and a table that is called like a type. -/
theorem resolve_canonical_uint64 :
    (∃ t, resolve (fun _ => false) "uint+064" = .ok t ∧ t.name = "uint64" ∧
      ∀ accepts, resolve accepts "uint64" = .ok t) ∧
    (∃ t, resolve (· == "uint64") "table uint64" = .ok t ∧ t.name = "uint64" ∧
      ∀ accepts, accepts "uint64" = true → resolve accepts "table uint64" = .ok t) := by
  have number : resolve (fun _ => false) "uint+064" =
      .ok (.integer .unsigned ⟨8, by decide, by decide⟩) := rfl
  have table : resolve (· == "uint64") "table uint64" = .ok (.table "uint64") := rfl
  exact ⟨⟨_, number, rfl, ((resolve_canonical number).2.1 (by decide)).1⟩,
    ⟨_, table, rfl, ((resolve_canonical table).2.2 rfl).2⟩⟩

end RowBindings
