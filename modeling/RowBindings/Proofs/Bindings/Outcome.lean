import RowBindings.Command
import RowBindings.Proofs.Codec.Resolved
import RowBindings.Proofs.Field.Accepted
import RowBindings.Proofs.Identifier.Spelling

/-!
# When bindings are written

Writing the bindings of a row can go wrong in many places: a type or a routine may have a name that
is none, a field may take the name of another. `Field.Sound` and `Field.WellNamed` are what rules
them out, and accepted fields have both. So `generate` fails on an accepted row only if the row's
own type would hide a builtin one, in either language.
-/

namespace RowBindings

open Text

/-! ## Routine names and host types -/

/-- The suffix of a codec may stand later in a name. -/
theorem Codec.all_isNameContinue_suffix (c : Codec) :
    c.suffix.toList.all isNameContinue = true := by
  cases c with
  | integer sign w =>
    apply ByteWidth.forall_eight
      (p := fun w => (Codec.integer sign w).suffix.toList.all isNameContinue = true)
    cases sign <;> decide +kernel
  | fixedBytes =>
    show "fixed_bytes".toList.all isNameContinue = true
    decide
  | _ => decide

/-- The routines of a codec have names that can be written. -/
theorem FieldType.isName_routine {t : FieldType} {name : String}
    (h : name ∈ t.encoderName?.toList ++ t.decoderName?.toList) : isName name = true := by
  by_cases table : t.kind = .table
  · cases t with
    | table => cases h
    | _ => cases table
  -- Both routines are named by a verb and the suffix of the codec.
  obtain ⟨c, storage⟩ := exists_storage table
  rw [encoderName?_eq storage, decoderName?_eq storage] at h
  have suffix := c.all_isNameContinue_suffix
  rcases List.mem_append.1 h with encoder | decoder
  · obtain rfl := List.mem_singleton.1 encoder
    exact isName_append (by decide) suffix
  · obtain rfl := List.mem_singleton.1 decoder
    exact isName_append (by decide) suffix

/-- The machine words have names that can be written. -/
theorem isName_wordName (sign : Signedness) (w : ByteWidth 8) :
    isName (sign.wordName w.bits) = true := by
  apply ByteWidth.forall_eight (p := fun w => isName (sign.wordName w.bits) = true)
  cases sign <;> decide +kernel

/-! ## Sound fields -/

/-- A field is named by an identifier, and so is a table that it refers to, whose type hides
none. -/
structure Field.Sound (f : Field) : Prop where
  name : isIdentifier f.name = true
  table : ∀ name, f.type = .table name → isIdentifier name = true ∧ isReservedTypeName name = false

namespace HostFile

/-- The type of a sound field can be written in host code: a table is named by an identifier, and
the other types are known. -/
theorem isWritable_hostType {f : Field} (sound : f.Sound) : isWritable f.type.hostType = true := by
  have table := sound.table
  cases type : f.type with
  | table name =>
    show isName (typeName name) = true
    exact isName_typeName (table name type).1
  | integer sign w => exact isName_wordName sign w
  | bytes | fixedBytes => exact (by decide : isName "u8" = true)
  | _ => decide

/-- Nothing is wrong with the type of a sound field: a table that was accepted hides no builtin
type, and every other type has a codec. -/
theorem typeError?_eq_none {f : Field} (sound : f.Sound) : f.typeError? = none := by
  rw [Field.typeError?]
  by_cases table : f.type.kind = .table
  · rw [table]
    cases type : f.type with
    | table name => exact if_neg (by simp [FieldType.name, (sound.table name type).2])
    | _ =>
      rw [type] at table
      cases table
  -- A type that is stored names both routines, so neither kind has a fault.
  · obtain ⟨c, storage⟩ := FieldType.exists_storage table
    have named : f.type.encoderName?.isSome && f.type.decoderName?.isSome := by
      rw [FieldType.encoderName?_eq storage, FieldType.decoderName?_eq storage]
      rfl
    cases kind : f.type.kind with
    | table => exact absurd kind table
    | value => exact if_pos named
    | bytes => exact if_pos named

/-- Every name that a sound field brings into the file can be written. -/
theorem isName_of_mem_namesOf {f : Field} {name : String} (sound : f.Sound)
    (h : name ∈ namesOf f) : isName name = true := by
  rw [namesOf] at h
  rcases List.mem_append.1 h with always | method
  · simp only [List.mem_cons, List.not_mem_nil, or_false] at always
    rcases always with rfl | rfl
    · exact (identifierLike_snakeCase sound.name).isName
    · exact (identifierLike_constantName sound.name).isName
  split at method
  · cases method
  -- A field with a codec adds the names of its methods and those of the routines they call.
  rw [List.append_assoc] at method
  rcases List.mem_append.1 method with own | routine
  · simp only [List.mem_cons, List.not_mem_nil, or_false] at own
    rcases own with rfl | rfl
    · exact (identifierLike_encoderName sound.name).isName
    · exact (identifierLike_decoderName sound.name).isName
  · exact FieldType.isName_routine routine

/-- All that can be wrong with a sound field is that its name is taken. -/
theorem fieldError?_of_sound {seen : List String} {f : Field} (sound : f.Sound) :
    fieldError? seen f =
      if snakeCase f.name ∈ seen then some (.duplicateField f.name) else none := by
  have named : (namesOf f).find? (!isName ·) = none := by
    rw [List.find?_eq_none]
    intro name member
    simp [isName_of_mem_namesOf sound member]
  rw [fieldError?, typeError?_eq_none sound, hostTypeError?, if_pos (isWritable_hostType sound),
    nameError?, named]
  simp only [List.contains_iff_mem]
  rfl

/-- A sound field with a new name has no fault. -/
theorem fieldError?_eq_none {seen : List String} {f : Field} (sound : f.Sound)
    (fresh : snakeCase f.name ∉ seen) : fieldError? seen f = none := by
  rw [fieldError?_of_sound sound, if_neg fresh]

/-- Sound fields whose names differ all get their entries. -/
theorem entriesFrom_eq_ok {seen : List String} {fields : List Field}
    (sound : ∀ f ∈ fields, f.Sound) (named : Field.WellNamed seen fields) :
    entriesFrom seen fields = .ok (fields.map Entry.ofField) := by
  induction named with
  | nil => rfl
  | @cons seen f rest _ fresh _ ih =>
    have others := ih fun g later => sound g (List.mem_cons_of_mem f later)
    rw [entriesFrom, fieldError?_eq_none (sound f List.mem_cons_self) fresh]
    show (entriesFrom (snakeCase f.name :: seen) rest).map _ = _
    rw [others]
    rfl

end HostFile

/-- Sound fields with distinct names have a file of host bindings. -/
theorem HostFile.ofRow_eq_ok {row : String} {fields : List Field}
    (identifier : isIdentifier row = true) (sound : ∀ f ∈ fields, f.Sound)
    (named : Field.WellNamed [] fields) :
    HostFile.ofRow row fields =
      .ok ⟨escapeKeyword (typeName row), fields.map HostFile.Entry.ofField⟩ := by
  rw [HostFile.ofRow, HostFile.entriesFrom_eq_ok sound named]
  exact if_pos (isName_typeName identifier)

/-- Sound fields always make a contract struct, whatever the row is called. -/
theorem ContractStruct.exists_ofRow {row : String} {fields : List Field}
    (sound : ∀ f ∈ fields, f.Sound) : ∃ output, ContractStruct.ofRow row fields = .ok output := by
  have none : fields.findSome? Field.typeError? = none := by
    rw [List.findSome?_eq_none_iff]
    intro f member
    exact HostFile.typeError?_eq_none (sound f member)
  rw [ContractStruct.ofRow, none]
  exact ⟨_, rfl⟩

/-! ## Accepted rows -/

/-- Every accepted field is declared by a pair. -/
theorem Field.exists_declares {accepts : String → Bool} {row : List (String × String)}
    {fields : List Field} {f : Field} (declared : List.Forall₂ (Field.Declares accepts) row fields)
    (member : f ∈ fields) : ∃ pair ∈ row, Field.Declares accepts pair f := by
  induction declared with
  | nil => cases member
  | @cons pair g row fields declares _ ih =>
    rcases List.mem_cons.1 member with rfl | later
    · exact ⟨pair, List.mem_cons_self, declares⟩
    · obtain ⟨other, inRow, declares⟩ := ih later
      exact ⟨other, List.mem_cons_of_mem _ inRow, declares⟩

/-- A field of a type that resolves under declared tables is sound, however it is called. -/
theorem Field.sound_of_resolve {tables : Tables} {descriptor name : String} {t : FieldType}
    (identifier : isIdentifier name = true) (resolved : resolve tables.accepts descriptor = .ok t) :
    Field.Sound ⟨name, t⟩ := by
  refine ⟨identifier, fun table type => ?_⟩
  obtain rfl : t = .table table := type
  exact Tables.of_accepts (accepts_of_resolve resolved)

/-- Fields that are accepted under declared tables are sound. -/
theorem Field.sound_of_resolveFields {tables : Tables} {row : List (String × String)}
    {fields : List Field} (h : resolveFields tables.accepts row = .ok fields) :
    ∀ f ∈ fields, f.Sound := by
  obtain ⟨declared, named⟩ := resolveFields_eq_ok_iff.1 h
  intro f member
  obtain ⟨pair, -, -, resolved⟩ := Field.exists_declares declared member
  exact Field.sound_of_resolve (named.isIdentifier_of_mem member) resolved

/-- An accepted row has bindings in every language unless its own type would hide a builtin one. -/
theorem generate_of_accepted {tables : Tables} {row : String} {pairs : List (String × String)}
    {fields : List Field} (language : Language) (identifier : isIdentifier row = true)
    (accepted : resolveFields tables.accepts pairs = .ok fields) :
    if isReservedTypeName row then generate language row fields = .error (.reservedName row)
    else ∃ output, generate language row fields = .ok output := by
  have sound := Field.sound_of_resolveFields accepted
  have named := (resolveFields_eq_ok_iff.1 accepted).2
  unfold generate
  split
  · rfl
  · cases language with
    | rust =>
      rw [HostFile.ofRow_eq_ok identifier sound named]
      exact ⟨_, rfl⟩
    | solidity => exact ContractStruct.exists_ofRow sound

/-! ## Outcomes -/

namespace Run

/-- What decides the outcome of `generate`: the row's name, then the fields, then whether the row's
type would hide a builtin one. -/
theorem result_ofGenerate (tables : Tables) (language : Language) (row : String)
    (pairs : List (String × String)) :
    (ofGenerate tables language row pairs).result =
      if !isIdentifier row then .error (.rowName row)
      else
        match resolveFields tables.accepts pairs with
        | .error errors => .error (.fields errors)
        | .ok _ =>
          if isReservedTypeName row then .error (.generate (.reservedName row)) else .ok () := by
  rw [ofGenerate]
  split
  · rfl
  rename_i identifier
  have identifier : isIdentifier row = true := by simpa using identifier
  cases accepted : resolveFields tables.accepts pairs with
  | error errors => rfl
  | ok fields =>
    -- Accepted fields are sound, so only the row's own type is left to go wrong.
    have outcome := generate_of_accepted language identifier accepted
    by_cases reserved : isReservedTypeName row = true
    · rw [if_pos reserved] at outcome
      simp only [outcome, if_pos reserved]
    · rw [if_neg reserved] at outcome
      obtain ⟨output, written⟩ := outcome
      simp only [written, if_neg reserved]

/-- Accepted fields of a row whose type hides none are printed. -/
theorem result_of_accepted {tables : Tables} {row : String} {pairs : List (String × String)}
    {fields : List Field} (language : Language) (identifier : isIdentifier row = true)
    (accepted : resolveFields tables.accepts pairs = .ok fields)
    (own : isReservedTypeName row = false) :
    (ofGenerate tables language row pairs).result = .ok () := by
  rw [result_ofGenerate, identifier, accepted, own]
  rfl

/-- A run of `generate` that succeeds has resolved all fields and prints their bindings. -/
theorem exists_resolved {tables : Tables} {language : Language} {row : String}
    {pairs : List (String × String)}
    (succeeds : (ofGenerate tables language row pairs).result = .ok ()) :
    isIdentifier row = true ∧ ∃ fields, resolveFields tables.accepts pairs = .ok fields ∧
      generate language row fields = .ok (ofGenerate tables language row pairs).output := by
  rw [ofGenerate] at succeeds ⊢
  split at succeeds
  · cases succeeds
  rename_i identifier
  rw [if_neg identifier]
  refine ⟨by simpa using identifier, ?_⟩
  -- Each earlier way out ends in a failure, which this run is not.
  cases accepted : resolveFields tables.accepts pairs with
  | error errors =>
    rw [accepted] at succeeds
    cases succeeds
  | ok fields =>
    rw [accepted] at succeeds
    refine ⟨fields, rfl, ?_⟩
    cases written : generate language row fields with
    | error e =>
      simp only [written] at succeeds
      cases succeeds
    | ok output => simp only [written]

/-- A run that fails has written nothing. -/
theorem output_of_failure {tables : Tables} {language : Language} {row : String}
    {pairs : List (String × String)} {failure : Failure}
    (failed : (ofGenerate tables language row pairs).result = .error failure) :
    (ofGenerate tables language row pairs).output = "" := by
  rw [ofGenerate] at failed ⊢
  split
  · rfl
  rename_i identifier
  rw [if_neg identifier] at failed
  -- Only a run that ends well prints anything.
  cases accepted : resolveFields tables.accepts pairs with
  | error errors => rfl
  | ok fields =>
    rw [accepted] at failed
    cases written : generate language row fields with
    | error e => simp only [written]
    | ok output =>
      simp only [written] at failed
      cases failed

/-- The outcome of `generate` is decided by the row's name, the fields and the row's type, in this
order, and is otherwise success. No fault that only the writing of bindings finds ever shows; so
both languages agree. A failure writes nothing. -/
theorem ofGenerate_outcome (tables : Tables) (language : Language) (row : String)
    (pairs : List (String × String)) :
    (ofGenerate tables language row pairs).result =
      (if !isIdentifier row then .error (.rowName row)
      else
        match resolveFields tables.accepts pairs with
        | .error errors => .error (.fields errors)
        | .ok _ =>
          if isReservedTypeName row then .error (.generate (.reservedName row)) else .ok ()) ∧
    (∀ e, (ofGenerate tables language row pairs).result = .error (.generate e) →
      e = .reservedName row ∧ isReservedTypeName row = true) ∧
    (ofGenerate tables .rust row pairs).result = (ofGenerate tables .solidity row pairs).result ∧
    (∀ failure, (ofGenerate tables language row pairs).result = .error failure →
      (ofGenerate tables language row pairs).output = "") := by
  have outcome := result_ofGenerate tables language row pairs
  refine ⟨outcome, ?_, ?_, fun failure => output_of_failure⟩
  · intro e failed
    -- Of all the failures that the outcome lists, one alone comes from generating.
    rw [outcome] at failed
    split at failed
    · cases failed
    split at failed
    · cases failed
    split at failed
    · rename_i reserved
      cases failed
      exact ⟨rfl, reserved⟩
    · cases failed
  · rw [result_ofGenerate, result_ofGenerate]

end Run

end RowBindings
