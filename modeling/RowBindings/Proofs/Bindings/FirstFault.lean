import RowBindings.Proofs.Bindings.TypeNames

/-!
# The first fault of a row decides

Bindings are written field by field, and the first field that has a fault ends the work. What comes
after it is never looked at, so a row that fails goes on to fail in the same way however many fields
are added, and a row that is written could have been ended at any field (`generate_append`). This
holds of any fields, whatever they are called and whatever tables they refer to. Only the name of
the row's own struct is looked at when all fields are done.
-/

namespace RowBindings

open Text

/-! ## Faults of fields -/

/-- The fault of a field that follows others. Only host code holds a field against those before
it. -/
def faultAfter (language : Language) (before : List Field) (f : Field) : Option GenerateError :=
  match language with
  | .rust => HostFile.fieldError? (before.map (snakeCase ·.name)) f
  | .solidity => f.typeError?

/-- The first fault among fields that follow others. -/
def firstFault? (language : Language) (before : List Field) : List Field → Option GenerateError
  | [] => none
  | f :: rest => (faultAfter language before f).or (firstFault? language (f :: before) rest)

/-- Fields are gone through in order, so the first of two parts comes first. -/
theorem firstFault?_append (language : Language) (before fields more : List Field) :
    firstFault? language before (fields ++ more) =
      (firstFault? language before fields).or
        (firstFault? language (fields.reverse ++ before) more) := by
  induction fields generalizing before with
  | nil => rfl
  | cons f fields ih =>
    rw [List.cons_append, firstFault?, firstFault?, ih, List.reverse_cons, List.append_assoc,
      Option.or_assoc]
    rfl

/-- A fault behind fields that have none is the first one. -/
theorem firstFault?_of_fault {language : Language} {fields : List Field} {f : Field}
    {e : GenerateError} (sound : firstFault? language [] fields = none)
    (fault : faultAfter language fields.reverse f = some e) (more : List Field) :
    firstFault? language [] (fields ++ f :: more) = some e := by
  rw [firstFault?_append, sound, List.append_nil, firstFault?, fault, Option.none_or,
    Option.some_or]

/-- The entries of a file are built unless a field is at fault. -/
theorem HostFile.entriesFrom_eq_firstFault? (before fields : List Field) :
    entriesFrom (before.map (snakeCase ·.name)) fields =
      match firstFault? .rust before fields with
      | some e => .error e
      | none => .ok (fields.map Entry.ofField) := by
  -- The names that are taken grow with the fields before, so these are generalized.
  induction fields generalizing before with
  | nil => rfl
  | cons f fields ih =>
    rw [entriesFrom, firstFault?, faultAfter]
    cases fieldError? (before.map (snakeCase ·.name)) f with
    | some e => rfl
    | none =>
      have others := ih (f :: before)
      rw [List.map_cons] at others
      rw [Option.none_or]
      show (entriesFrom (snakeCase f.name :: before.map (snakeCase ·.name)) fields).map _ = _
      rw [others]
      cases firstFault? .rust (f :: before) fields <;> rfl

/-- Contract code looks at the types of fields only. -/
theorem firstFault?_solidity (before fields : List Field) :
    firstFault? .solidity before fields = fields.findSome? Field.typeError? := by
  induction fields generalizing before with
  | nil => rfl
  | cons f fields ih =>
    rw [firstFault?, faultAfter, ih, List.findSome?_cons]
    cases f.typeError? <;> rfl

/-! ## Faults of rows -/

/-- The text of bindings, if no field is at fault. The name of the struct is looked at last, and
only in host code. -/
def written (language : Language) (row : String) (fields : List Field) :
    Except GenerateError String :=
  match language with
  | .rust =>
    if isName (typeName row) then
      .ok (HostFile.text ⟨escapeKeyword (typeName row), fields.map HostFile.Entry.ofField⟩)
    else .error (.unwritableName (typeName row))
  | .solidity =>
    .ok (ContractStruct.text (typeName row) (fields.map ContractStruct.memberLine))

/-- Once all fields are sound, only the name of the struct can fail. -/
theorem eq_of_written_eq_error {language : Language} {row : String} {fields : List Field}
    {e : GenerateError} (failed : written language row fields = .error e) :
    e = .unwritableName (typeName row) := by
  cases language with
  | rust =>
    rw [written] at failed
    split at failed
    · cases failed
    · exact (Except.error.inj failed).symm
  | solidity => cases failed

/-- Whether the struct can be named does not depend on its members. -/
theorem exists_written {language : Language} {row output : String} {fields : List Field}
    (other : List Field) (done : written language row fields = .ok output) :
    ∃ output', written language row other = .ok output' := by
  cases language with
  | rust =>
    rw [written] at done ⊢
    split at done
    · rename_i named
      rw [if_pos named]
      exact ⟨_, rfl⟩
    · cases done
  | solidity => exact ⟨_, rfl⟩

/-- What decides about bindings: the type of the row, then the first field at fault, then the name
of the struct. -/
theorem generate_eq (language : Language) (row : String) (fields : List Field) :
    generate language row fields =
      if isReservedTypeName row then .error (.reservedName row)
      else
        match firstFault? language [] fields with
        | some e => .error e
        | none => written language row fields := by
  unfold generate
  split
  · rfl
  cases language with
  | rust =>
    have entries := HostFile.entriesFrom_eq_firstFault? [] fields
    rw [List.map_nil] at entries
    rw [HostFile.ofRow, entries]
    cases firstFault? .rust [] fields with
    | some e => rfl
    | none =>
      -- The fields are fine, so only the name of the struct is left to be looked at.
      by_cases named : isName (typeName row) = true
      · simp only [written, if_pos named]
        rfl
      · simp only [written, if_neg named]
        rfl
  | solidity =>
    rw [ContractStruct.ofRow, firstFault?_solidity]
    cases fields.findSome? Field.typeError? <;> rfl

variable {language : Language} {row : String} {fields : List Field}

/-- A row whose own name is free fails with the first fault of its fields. -/
theorem generate_of_firstFault? {e : GenerateError} (own : isReservedTypeName row = false)
    (fault : firstFault? language [] fields = some e) :
    generate language row fields = .error e := by
  rw [generate_eq, own, fault]
  rfl

/-- Bindings are written if the type of the row hides none and no field is at fault. -/
theorem generate_eq_ok {output : String} (done : generate language row fields = .ok output) :
    isReservedTypeName row = false ∧ firstFault? language [] fields = none ∧
      written language row fields = .ok output := by
  rw [generate_eq] at done
  split at done
  · cases done
  rename_i own
  split at done
  · cases done
  · rename_i sound
    exact ⟨by simpa using own, sound, done⟩

/-- A failure that is not about the name of the struct comes back whatever fields are added. -/
theorem generate_append_of_error {e : GenerateError}
    (failed : generate language row fields = .error e) (other : e ≠ .unwritableName (typeName row))
    (more : List Field) : generate language row (fields ++ more) = .error e := by
  rw [generate_eq] at failed ⊢
  split at failed
  · rename_i reserved
    rw [if_pos reserved, failed]
  rename_i own
  rw [if_neg own, firstFault?_append]
  split at failed
  -- A fault among the first fields stays the first. The name of the struct is excluded.
  · rename_i fault found
    rw [found, Option.some_or]
    exact failed
  · exact absurd (eq_of_written_eq_error failed) other

/-- A row that is written could end at any field. -/
theorem exists_generate_of_append {more : List Field} {output : String}
    (done : generate language row (fields ++ more) = .ok output) :
    ∃ output', generate language row fields = .ok output' := by
  obtain ⟨own, sound, written⟩ := generate_eq_ok done
  obtain ⟨output', text⟩ := exists_written fields written
  rw [firstFault?_append, Option.or_eq_none_iff] at sound
  refine ⟨output', ?_⟩
  rw [generate_eq, own, sound.1]
  exact text

/-! ## Faults of a reference -/

/-- The faults of a reference that are found in every language, and those that only host code has,
in the order in which they are looked for. -/
theorem faultAfter_table {before : List Field} {f : Field} {table : String}
    (refers : f.type = .table table) :
    faultAfter language before f =
      if isReservedTypeName table then some (.reservedName table)
      else
        match language with
        | .rust =>
          if isName (typeName table) then HostFile.nameError? (before.map (snakeCase ·.name)) f
          else some (.hostType f.name (typeName table))
        | .solidity => none := by
  have type : f.typeError? =
      if isReservedTypeName table then some (.reservedName table) else none := by
    rw [Field.typeError?, refers]
    rfl
  have host : HostFile.hostTypeError? f =
      if isName (typeName table) then none else some (.hostType f.name (typeName table)) := by
    rw [HostFile.hostTypeError?, refers]
    rfl
  -- In host code a fault of the type comes before one of the name; in contract code it is the only
  -- one.
  cases language with
  | rust =>
    rw [faultAfter, HostFile.fieldError?, type, host]
    split
    · rfl
    · split <;> rfl
  | solidity => rw [faultAfter, type]

/-- A field whose name an earlier one has in snake case is a duplicate. -/
theorem nameError?_of_repeated {before : List Field} {f : Field}
    (repeated : ∃ g ∈ before, snakeCase g.name = snakeCase f.name) :
    HostFile.nameError? (before.map (snakeCase ·.name)) f = some (.duplicateField f.name) := by
  obtain ⟨g, member, same⟩ := repeated
  have known : snakeCase f.name ∈ before.map (snakeCase ·.name) :=
    List.mem_map.2 ⟨g, member, same⟩
  rw [HostFile.nameError?, if_pos (List.contains_iff_mem.2 known)]

/-- A failure does not depend on fields behind the one that is at fault, except that the name of the
struct is only looked at in the end. So the start of a row that is written is written too. A row
whose type would hide a builtin one is refused for that, whatever its fields are. If a reference
comes behind fields that have bindings, then it is refused for a table whose type would hide a
builtin one; otherwise, in host code, for a type that cannot be written; and otherwise for a name
that is taken. -/
theorem generate_append (language : Language) (row : String) (fields more : List Field) :
    (∀ e, generate language row fields = .error e → e ≠ .unwritableName (typeName row) →
      generate language row (fields ++ more) = .error e) ∧
    (∀ output, generate language row (fields ++ more) = .ok output →
      ∃ output', generate language row fields = .ok output') ∧
    (isReservedTypeName row = true → generate language row fields = .error (.reservedName row)) ∧
    ∀ f table, f.type = .table table → isReservedTypeName row = false →
      (∃ row' output, generate language row' fields = .ok output) →
      (isReservedTypeName table = true →
        generate language row (fields ++ f :: more) = .error (.reservedName table)) ∧
      (language = .rust → isReservedTypeName table = false →
        (isName (typeName table) = false →
          generate language row (fields ++ f :: more) =
            .error (.hostType f.name (typeName table))) ∧
        (isName (typeName table) = true → (∃ g ∈ fields, snakeCase g.name = snakeCase f.name) →
          generate language row (fields ++ f :: more) = .error (.duplicateField f.name))) := by
  refine ⟨fun e failed other => generate_append_of_error failed other more,
    fun output => exists_generate_of_append, fun reserved => ?_, ?_⟩
  · rw [generate_eq, if_pos reserved]
  · rintro f table refers own ⟨row', output, done⟩
    -- Fields that have bindings under some name have no fault, so the first one is that of `f`.
    have sound := (generate_eq_ok done).2.1
    have fault := @faultAfter_table language fields.reverse f table refers
    refine ⟨fun reserved => ?_, ?_⟩
    · rw [if_pos reserved] at fault
      exact generate_of_firstFault? own (firstFault?_of_fault sound fault more)
    · rintro rfl unreserved
      rw [unreserved] at fault
      refine ⟨fun unwritable => ?_, fun writable repeated => ?_⟩
      · rw [unwritable] at fault
        exact generate_of_firstFault? own (firstFault?_of_fault sound fault more)
      · have taken := @nameError?_of_repeated fields.reverse f (by simpa using repeated)
        simp only [writable, taken] at fault
        exact generate_of_firstFault? own (firstFault?_of_fault sound fault more)

/-- The name of the second field is taken, but the type of its table is looked at before. The third
field, which has no name at all, is not looked at. -/
theorem generate_append_id :
    let fields := [Field.mk "id" .uint256]
    let reference := Field.mk "id" (.table "1st")
    (∃ output, generate .rust "order" fields = .ok output) ∧
      generate .rust "order" (fields ++ [reference]) = .error (.hostType "id" "1st") ∧
      generate .rust "order" ((fields ++ [reference]) ++ [⟨"", .bool⟩]) =
        .error (.hostType "id" "1st") := by
  intro fields reference
  have own : isReservedTypeName "order" = false := by decide
  have unreserved : isReservedTypeName "1st" = false := by decide
  have unwritable : isName (typeName "1st") = false := by decide
  -- What is written is not evaluated; it is enough that the row gets that far.
  have whole : generate .rust "order" (fields ++ []) = .ok _ := rfl
  have done := (generate_append .rust "order" fields []).2.1 _ whole
  obtain ⟨-, behind⟩ := (generate_append .rust "order" fields []).2.2.2 reference "1st" rfl own
    ⟨"order", done⟩
  have refused := (behind rfl unreserved).1 unwritable
  have type : typeName "1st" = "1st" := by decide
  rw [type] at refused
  have further := (generate_append .rust "order" (fields ++ [reference]) [⟨"", .bool⟩]).1 _ refused
    (by rintro ⟨⟩)
  exact ⟨done, refused, further⟩

end RowBindings
