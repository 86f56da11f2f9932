import RowBindings.Proofs.Bindings.Outcome
import RowBindings.Proofs.Field.Order

/-!
# Two checks for repeated names

Names that are the same in snake case are refused twice: when the fields of a row are resolved,
where all repetitions are collected, and when host bindings are written, where the first one ends
the work. Both find the name that `firstRepeated?` gives. So rows pass both checks or neither, and
`generate_of_valid_names` says that the second names the first repetition that the first reports.
-/

namespace RowBindings

open Text

/-- The first name that is the same in snake case as one before it. The names before the first one
are in `seen`. -/
def firstRepeated? (seen : List String) : List String → Option String
  | [] => none
  | name :: rest =>
    if snakeCase name ∈ seen then some name else firstRepeated? (snakeCase name :: seen) rest

namespace Field

variable {accepts : String → Bool} {row : List (String × String)}

/-- Among the errors of a row with valid names, the first repetition is that of the first repeated
name. The induction is on the row; both sides remember the same names. -/
theorem find?_duplicate_collect (seen : List String)
    (valid : ∀ pair ∈ row, isIdentifier pair.1 = true) :
    (collect accepts seen row).2.find? (·.isDuplicate) =
      (firstRepeated? seen (row.map Prod.fst)).map .duplicate := by
  induction row generalizing seen with
  | nil => rfl
  | cons pair rest ih =>
    obtain ⟨identifier, others⟩ := List.forall_mem_cons.1 valid
    have types : (typeErrors accepts pair).find? (·.isDuplicate) = none := by
      rw [List.find?_eq_none]
      intro e member
      simp [isDuplicate_of_mem_typeErrors member]
    rw [errors_collect_cons, List.find?_append, List.find?_append, types, Option.or_none,
      remember_of_isIdentifier identifier, ih _ others, List.map_cons, firstRepeated?]
    -- Only a name that is known is the fault of this pair; its type cannot be a duplicate.
    by_cases known : snakeCase pair.1 ∈ seen
    · have fault : nameError? seen pair.1 = some (.duplicate pair.1) := by
        simp [nameError?, identifier, known]
      rw [fault, if_pos known]
      rfl
    · rw [nameError?_eq_none_iff.2 ⟨identifier, known⟩, if_neg known]
      rfl

/-- Valid names and descriptors that resolve leave repetitions as the only errors. -/
theorem isDuplicate_of_mem_collect (seen : List String)
    (valid : ∀ pair ∈ row, isIdentifier pair.1 = true)
    (resolves : ∀ pair ∈ row, ∃ t, resolve accepts pair.2 = .ok t) {e : FieldError}
    (h : e ∈ (collect accepts seen row).2) : e.isDuplicate = true := by
  have none : row.flatMap (ownErrors accepts) = [] := by
    rw [List.flatMap_eq_nil_iff]
    intro pair member
    obtain ⟨t, resolved⟩ := resolves pair member
    rw [ownErrors, typeErrors, if_pos (valid pair member), resolved]
    rfl
  rw [← filter_errors_collect accepts seen, List.filter_eq_nil_iff] at none
  simpa using none e h

/-- Such a row has an error exactly if a name is repeated. -/
theorem errors_eq_nil_iff (seen : List String)
    (valid : ∀ pair ∈ row, isIdentifier pair.1 = true)
    (resolves : ∀ pair ∈ row, ∃ t, resolve accepts pair.2 = .ok t) :
    (collect accepts seen row).2 = [] ↔ firstRepeated? seen (row.map Prod.fst) = none := by
  rw [← Option.map_eq_none_iff, ← find?_duplicate_collect seen valid, List.find?_eq_none]
  constructor
  · intro empty
    rw [empty]
    exact List.forall_mem_nil _
  · intro other
    refine List.eq_nil_iff_forall_not_mem.2 fun e member => ?_
    exact other e member (isDuplicate_of_mem_collect seen valid resolves member)

/-- Pairs whose descriptors resolve declare fields. -/
theorem exists_forall₂_declares (resolves : ∀ pair ∈ row, ∃ t, resolve accepts pair.2 = .ok t) :
    ∃ fields, List.Forall₂ (Declares accepts) row fields := by
  induction row with
  | nil => exact ⟨[], .nil⟩
  | cons pair rest ih =>
    obtain ⟨⟨t, resolved⟩, others⟩ := List.forall_mem_cons.1 resolves
    obtain ⟨fields, declared⟩ := ih others
    exact ⟨⟨pair.1, t⟩ :: fields, .cons ⟨rfl, resolved⟩ declared⟩

end Field

/-- Sound fields are written up to the first repeated name. -/
theorem HostFile.entriesFrom_eq {seen : List String} {fields : List Field}
    (sound : ∀ f ∈ fields, f.Sound) :
    entriesFrom seen fields =
      match firstRepeated? seen (fields.map (·.name)) with
      | some name => .error (.duplicateField name)
      | none => .ok (fields.map Entry.ofField) := by
  induction fields generalizing seen with
  | nil => rfl
  | cons f rest ih =>
    obtain ⟨own, others⟩ := List.forall_mem_cons.1 sound
    rw [entriesFrom, fieldError?_of_sound own, List.map_cons, firstRepeated?]
    -- Of a sound field nothing can be wrong but that its name is known.
    by_cases known : snakeCase f.name ∈ seen
    · simp only [if_pos known]
    · simp only [if_neg known, ih others]
      cases firstRepeated? (snakeCase f.name :: seen) (rest.map (·.name)) <;> rfl

/-- So host bindings of a row fail for the first repeated name, or are written. -/
theorem generate_rust_of_sound {row : String} {fields : List Field}
    (identifier : isIdentifier row = true) (own : isReservedTypeName row = false)
    (sound : ∀ f ∈ fields, f.Sound) :
    match firstRepeated? [] (fields.map (·.name)) with
    | some name => generate .rust row fields = .error (.duplicateField name)
    | none => ∃ output, generate .rust row fields = .ok output := by
  have unreserved : ¬isReservedTypeName row = true := by simp [own]
  simp only [generate, if_neg unreserved, HostFile.ofRow, HostFile.entriesFrom_eq sound,
    isName_typeName identifier, if_true]
  cases firstRepeated? [] (fields.map (·.name)) with
  | some name => rfl
  | none => exact ⟨_, rfl⟩

/-- Let all names of a row be valid and all descriptors resolve. Then the row is accepted and its
host bindings are written, or it is refused and the bindings of the same fields fail, for the name
of the first repetition that was reported. -/
theorem generate_of_valid_names {tables : Tables} {row : String} {pairs : List (String × String)}
    (valid : ∀ pair ∈ pairs, isIdentifier pair.1 = true)
    (resolves : ∀ pair ∈ pairs, ∃ t, resolve tables.accepts pair.2 = .ok t)
    (identifier : isIdentifier row = true) (own : isReservedTypeName row = false) :
    ∃ fields, resolveTypes tables.accepts pairs = .ok fields ∧
      match resolveFields tables.accepts pairs with
      | .ok accepted => accepted = fields ∧ ∃ output, generate .rust row fields = .ok output
      | .error errors => ∃ name, errors.find? (·.isDuplicate) = some (.duplicate name) ∧
          generate .rust row fields = .error (.duplicateField name) := by
  obtain ⟨fields, declared⟩ := Field.exists_forall₂_declares resolves
  have sound : ∀ f ∈ fields, f.Sound := by
    intro f member
    obtain ⟨pair, inRow, named, resolved⟩ := Field.exists_declares declared member
    exact Field.sound_of_resolve (named ▸ valid pair inRow) resolved
  have written := generate_rust_of_sound identifier own sound
  have errors := Field.errors_eq_nil_iff [] valid resolves
  have repetition := @Field.find?_duplicate_collect tables.accepts _ [] valid
  rw [Field.map_name_of_declares declared] at written
  refine ⟨fields, resolveTypes_eq_ok_iff.2 declared, ?_⟩
  rw [resolveFields_eq_collect]
  -- Both checks ask the same: whether a name is repeated in snake case, and which first.
  cases repeated : firstRepeated? [] (pairs.map Prod.fst) with
  | none =>
    rw [repeated] at written
    have none := errors.2 repeated
    rw [if_pos none]
    exact ⟨List.right_unique_forall₂' Field.rightUnique_declares
      (Field.forall₂_declares_collect none) declared, written⟩
  | some name =>
    rw [repeated] at written repetition
    have some := mt errors.1 (by simp [repeated])
    rw [if_neg some]
    exact ⟨name, repetition, written⟩

/-- Three spellings of one name: the second of them is reported by both checks. -/
theorem generate_of_valid_names_order_id :
    let pairs := [("orderId", "uint64"), ("order_id", "bool"), ("OrderId", "table Item")]
    let tables := Tables.ofList ["Item"]
    (∀ pair ∈ pairs, isIdentifier pair.1 = true) ∧
      (∀ pair ∈ pairs, ∃ t, resolve tables.accepts pair.2 = .ok t) ∧
      ∃ fields, resolveTypes tables.accepts pairs = .ok fields ∧
        resolveFields tables.accepts pairs = .error [.duplicate "order_id", .duplicate "OrderId"] ∧
        generate .rust "row" fields = .error (.duplicateField "order_id") := by
  intro pairs tables
  have valid : ∀ pair ∈ pairs, isIdentifier pair.1 = true := by decide +kernel
  have accepted : tables.accepts "Item" = true := by decide +kernel
  have resolves : ∀ pair ∈ pairs, ∃ t, resolve tables.accepts pair.2 = .ok t := by
    simp only [pairs, List.forall_mem_cons]
    exact ⟨⟨_, rfl⟩, ⟨_, rfl⟩, ⟨_, Tables.resolve_of_accepts accepted⟩, List.forall_mem_nil _⟩
  have errors : resolveFields tables.accepts pairs =
      .error [.duplicate "order_id", .duplicate "OrderId"] := rfl
  obtain ⟨fields, typed, outcome⟩ := generate_of_valid_names valid resolves
    (by decide +kernel : isIdentifier "row" = true) (by decide +kernel)
  rw [errors] at outcome
  obtain ⟨name, first, written⟩ := outcome
  cases first
  exact ⟨valid, resolves, fields, typed, errors, written⟩

end RowBindings
