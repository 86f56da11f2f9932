import RowBindings.Proofs.Descriptor.Language
import RowBindings.Proofs.Field.Accepted

/-!
# What the schema decides

Of all descriptors, only a reference to a table asks the schema anything, and then only for the name
that is referred to. So more declared tables can turn the refusal of a reference into a type and
change nothing else. `resolve_locality` says so of every descriptor, and what a reference tells of
its table.
-/

namespace RowBindings

namespace Descriptor

variable {V W : String → Bool} {descriptor : String}

/-- What denotes a type goes on to denote it if the table that it refers to is still accepted. -/
theorem Denotes.imp {t : FieldType} (denotes : Denotes V descriptor t)
    (still : ∀ name, descriptor = "table " ++ name → V name = true → W name = true) :
    Denotes W descriptor t := by
  cases denotes with
  | address => exact .address
  | bool => exact .bool
  | bytes => exact .bytes
  | string => exact .string
  | hash spelled => exact .hash spelled
  | fixedBytes w spelled => exact .fixedBytes w spelled
  | uint => exact .uint
  | uint256 spelled => exact .uint256 spelled
  | integer sign w spelled => exact .integer sign w spelled
  | table nonempty accepted => exact .table nonempty (still _ rfl accepted)

/-- What is refused for some reason is still refused for it, unless it is a reference to a table
that is now accepted. -/
theorem Refuses.imp_or {fault : TypeFault} (refuses : Refuses V descriptor fault) :
    Refuses W descriptor fault ∨
      ∃ name, descriptor = "table " ++ name ∧ fault = .invalidTable name ∧ V name = false ∧
        Denotes W descriptor (.table name) := by
  cases refuses with
  | malformed sized nonempty refused => exact .inl (.malformed sized nonempty refused)
  | bytesSize spelled outside => exact .inl (.bytesSize spelled outside)
  | integerSize sign spelled narrow outside =>
    exact .inl (.integerSize sign spelled narrow outside)
  | int => exact .inl .int
  | int256 spelled => exact .inl (.int256 spelled)
  | unknown other unprefixed => exact .inl (.unknown other unprefixed)
  | @table name refused =>
    -- An empty name is refused by every validator.
    by_cases empty : name = ""
    · exact .inl (.table (.inl empty))
    cases accepted : W name with
    | false => exact .inl (.table (.inr accepted))
    | true =>
      exact .inr ⟨name, rfl, rfl, refused.resolve_left empty, .table empty accepted⟩

end Descriptor

open Descriptor

variable {descriptor : String}

/-- A descriptor resolves to the same under two schemas that agree on the table that it refers to,
if it refers to one. -/
theorem resolve_congr {V W : String → Bool}
    (agree : ∀ name, descriptor = "table " ++ name → V name = W name) :
    resolve V descriptor = resolve W descriptor := by
  rcases denotes_or_refuses V descriptor with ⟨t, denotes⟩ | ⟨fault, refuses⟩
  · have same := denotes.imp fun name reference accepted => agree name reference ▸ accepted
    rw [resolve_eq_ok_iff.2 denotes, resolve_eq_ok_iff.2 same]
  · rw [resolve_eq_fault_iff.2 refuses]
    rcases refuses.imp_or (W := W) with same | ⟨name, reference, -, refused, denotes⟩
    · rw [resolve_eq_fault_iff.2 same]
    -- The second validator would vouch for what the first refuses.
    · subst reference
      have accepted := accepts_of_resolve (resolve_eq_ok_iff.2 denotes)
      rw [← agree name rfl, refused] at accepted
      cases accepted

namespace Tables

/-- Whoever declares more tables vouches for no fewer. -/
theorem accepts_mono {tables more : Tables}
    (subset : ∀ name, tables.contains name = true → more.contains name = true) {name : String}
    (accepted : tables.accepts name = true) : more.accepts name = true := by
  simp only [accepts, Bool.and_eq_true] at accepted ⊢
  obtain ⟨⟨declared, identifier⟩, unreserved⟩ := accepted
  exact ⟨⟨subset name declared, identifier⟩, unreserved⟩

/-- What a reference tells of its table: it is declared, named by an identifier, and its type hides
none. -/
theorem of_resolve_table {tables : Tables} {t : FieldType}
    (resolved : resolve tables.accepts descriptor = .ok t) (table : t.kind = .table) :
    tables.contains t.name = true ∧ isIdentifier t.name = true ∧
      typeName t.name ∉ reservedTypeNames := by
  cases t with
  | table name =>
    have accepted := accepts_of_resolve resolved
    obtain ⟨identifier, own⟩ := of_accepts accepted
    have unreserved : typeName name ∉ reservedTypeNames := by
      simpa [isReservedTypeName] using own
    simp only [accepts, Bool.and_eq_true] at accepted
    exact ⟨accepted.1.1, identifier, unreserved⟩
  | _ => cases table

end Tables

/-- A descriptor is resolved without asking the schema, or asks it for the one table that it refers
to. If more tables are declared, what resolves still resolves to the same type, and the only results
that change are refusals of a reference that then names its table. A table that a descriptor
resolves to is declared, its name is an identifier and its type would not hide a builtin one. -/
theorem resolve_locality (descriptor : String) :
    (∀ V W : String → Bool,
      ((∀ name, descriptor ≠ "table " ++ name) ∨
        ∀ name, descriptor = "table " ++ name → V name = W name) →
      resolve V descriptor = resolve W descriptor) ∧
    (∀ tables more : Tables,
      (∀ name, tables.contains name = true → more.contains name = true) →
      (∀ t, resolve tables.accepts descriptor = .ok t →
        resolve more.accepts descriptor = .ok t) ∧
      (resolve tables.accepts descriptor ≠ resolve more.accepts descriptor →
        ∃ name, resolve tables.accepts descriptor = .error ⟨descriptor, .invalidTable name⟩ ∧
          resolve more.accepts descriptor = .ok (.table name))) ∧
    (∀ (tables : Tables) (t : FieldType), resolve tables.accepts descriptor = .ok t →
      t.kind = .table → tables.contains t.name = true ∧ isIdentifier t.name = true ∧
        typeName t.name ∉ reservedTypeNames) := by
  refine ⟨?_, ?_, fun tables t => Tables.of_resolve_table⟩
  · rintro V W (none | agree)
    · exact resolve_congr fun name reference => absurd reference (none name)
    · exact resolve_congr agree
  · intro tables more subset
    have mono := fun name (_ : descriptor = "table " ++ name) =>
      @Tables.accepts_mono tables more subset name
    refine ⟨fun t resolved => resolve_eq_ok_iff.2 ((resolve_eq_ok_iff.1 resolved).imp mono), ?_⟩
    intro differs
    rcases denotes_or_refuses tables.accepts descriptor with ⟨t, denotes⟩ | ⟨fault, refuses⟩
    · -- What resolves under fewer tables does not change.
      refine absurd ?_ differs
      rw [resolve_eq_ok_iff.2 denotes, resolve_eq_ok_iff.2 (denotes.imp mono)]
    · rcases refuses.imp_or (W := more.accepts) with same | ⟨name, -, rfl, -, denotes⟩
      · refine absurd ?_ differs
        rw [resolve_eq_fault_iff.2 refuses, resolve_eq_fault_iff.2 same]
      · exact ⟨name, resolve_eq_fault_iff.2 refuses, resolve_eq_ok_iff.2 denotes⟩

/-- A reference that resolves once its table is declared, and a descriptor that never asks. -/
theorem resolve_locality_user :
    let empty := Tables.empty
    let user := Tables.ofList ["user"]
    (∀ name, empty.contains name = true → user.contains name = true) ∧
      resolve empty.accepts "bytes07" = .ok (.fixedBytes ⟨7, by decide, by decide⟩) ∧
      resolve user.accepts "bytes07" = .ok (.fixedBytes ⟨7, by decide, by decide⟩) ∧
      resolve empty.accepts "table user" ≠ resolve user.accepts "table user" ∧
      (∃ name, resolve empty.accepts "table user" = .error ⟨"table user", .invalidTable name⟩ ∧
        resolve user.accepts "table user" = .ok (.table name)) ∧
      user.contains "user" = true ∧ isIdentifier "user" = true ∧
      typeName "user" ∉ reservedTypeNames := by
  intro empty user
  have subset : ∀ name, empty.contains name = true → user.contains name = true := by
    rintro name ⟨⟩
  have bytes : resolve empty.accepts "bytes07" = .ok (.fixedBytes ⟨7, by decide, by decide⟩) := rfl
  have refused : resolve empty.accepts "table user" =
      .error ⟨"table user", .invalidTable "user"⟩ := rfl
  have resolved : resolve user.accepts "table user" = .ok (.table "user") := rfl
  have differs : resolve empty.accepts "table user" ≠ resolve user.accepts "table user" := by
    rw [refused, resolved]
    rintro ⟨⟩
  obtain ⟨kept, -⟩ := (resolve_locality "bytes07").2.1 empty user subset
  obtain ⟨-, changed⟩ := (resolve_locality "table user").2.1 empty user subset
  exact ⟨subset, bytes, kept _ bytes, differs, changed differs,
    (resolve_locality "table user").2.2 user _ resolved rfl⟩

end RowBindings
