import RowBindings.Proofs.Bindings.Names

/-!
# Types of rows and tables in bindings

A row declares a struct, and a field that refers to the table of that name has this struct as its
type. Both names are made from the same declared name, but not in the same way: host code escapes
the struct of a row and writes the type of a field as it is. `reference_names_row` says that they
are the same unless the type is called `Self`, and that contract code always agrees with itself.
-/

namespace RowBindings

open Text

/-! ## Contract code -/

def ContractStruct.text (name : String) (lines : List String) : String :=
  "// " ++ generatedBy ++ "\n\nstruct " ++ name ++ " \x7b\n" ++ String.join lines ++ "\x7d\n"

/-- The name of a struct is told by its text and its lines. -/
theorem ContractStruct.text_inj {a b : String} {lines : List String}
    (h : ContractStruct.text a lines = ContractStruct.text b lines) : a = b := by
  simpa only [text, String.append_left_inj, String.append_right_inj] using h

namespace Run

/-- A run of `generate` for contract code that succeeds, with the fields that the row resolves to
and the name of the struct that is printed. -/
structure PrintsStruct (tables : Tables) (row : String) (pairs : List (String × String))
    (fields : List Field) (struct : String) : Prop where
  succeeds : (ofGenerate tables .solidity row pairs).result = .ok ()
  resolved : resolveFields tables.accepts pairs = .ok fields
  output : (ofGenerate tables .solidity row pairs).output =
    ContractStruct.text struct (fields.map ContractStruct.memberLine)

/-- A run that succeeds prints a struct named after the row. -/
theorem exists_printsStruct {tables : Tables} {row : String} {pairs : List (String × String)}
    (succeeds : (ofGenerate tables .solidity row pairs).result = .ok ()) :
    ∃ fields, PrintsStruct tables row pairs fields (typeName row) := by
  obtain ⟨-, fields, accepted, written⟩ := exists_resolved succeeds
  refine ⟨fields, succeeds, accepted, ?_⟩
  -- Neither the row's name nor a field can have failed, as there is an output.
  unfold generate at written
  split at written
  · cases written
  change ContractStruct.ofRow row fields = _ at written
  rw [ContractStruct.ofRow] at written
  split at written
  · cases written
  · exact (Except.ok.inj written).symm

/-- The struct that is printed has the name of the row's type. -/
theorem PrintsStruct.struct_eq {tables : Tables} {row : String} {pairs : List (String × String)}
    {fields : List Field} {struct : String}
    (prints : PrintsStruct tables row pairs fields struct) : struct = typeName row := by
  obtain ⟨others, same⟩ := exists_printsStruct prints.succeeds
  obtain rfl : fields = others := Except.ok.inj (prints.resolved.symm.trans same.resolved)
  exact ContractStruct.text_inj (prints.output.symm.trans same.output)

/-! ## References -/

open HostFile

/-- Bindings of the row `name` call its struct `struct`. In host code this is the name that the
tokens of the text declare. -/
inductive DeclaresStruct (name : String) : Language → (struct : String) → Prop
  | rust {tables : Tables} {pairs : List (String × String)} {tokens : List Token}
    {struct : String} :
    (ofGenerate tables .rust name pairs).result = .ok () →
    readTokens (ofGenerate tables .rust name pairs).output = some tokens →
    struct ∈ structsOf tokens → DeclaresStruct name .rust struct
  | solidity {tables : Tables} {pairs : List (String × String)} {fields : List Field}
    {struct : String} :
    PrintsStruct tables name pairs fields struct → DeclaresStruct name .solidity struct

/-- Bindings of some row give the type `type` to the member of a field that refers to the table
`name`. In host code the tokens of the text declare the member with this type. -/
inductive WritesReference (name : String) : Language → (type : String) → Prop
  | rust {tables : Tables} {row : String} {pairs : List (String × String)} {fields : List Field}
    {tokens : List Token} {f : Field} {type : HostType} :
    (ofGenerate tables .rust row pairs).result = .ok () →
    resolveFields tables.accepts pairs = .ok fields → f ∈ fields → f.type = .table name →
    readTokens (ofGenerate tables .rust row pairs).output = some tokens →
    (escapeKeyword (snakeCase f.name), type) ∈ membersOf tokens →
    WritesReference name .rust type.text
  | solidity {tables : Tables} {row : String} {pairs : List (String × String)}
    {fields : List Field} {struct : String} {f : Field} {type : String} :
    PrintsStruct tables row pairs fields struct → f ∈ fields → f.type = .table name →
    ContractStruct.memberLine f = "    " ++ type ++ " " ++ f.name ++ ";\n" →
    WritesReference name .solidity type

/-- An entry of a printed file that bears the member of a field is the entry of that field. -/
theorem PrintsFile.eq_ofField {tables : Tables} {row : String} {pairs : List (String × String)}
    {fields : List Field} {file : HostFile} {f : Field} {e : HostFile.Entry}
    (prints : PrintsFile tables row pairs fields file) (member : f ∈ fields)
    (entry : e ∈ file.entries) (same : e.member = escapeKeyword (snakeCase f.name)) :
    e = .ofField f := by
  have named := prints.wellNamed
  rw [prints.file_eq] at entry
  obtain ⟨g, inFields, rfl⟩ := List.mem_map.1 entry
  -- The members of two fields are the same only if the fields are.
  rw [HostFile.Entry.member_ofField] at same
  have snake := escapeKeyword_injective (named.isIdentifier_of_mem inFields)
    (named.isIdentifier_of_mem member) same
  rw [List.inj_on_of_nodup_map named.nodup.1 inFields member snake]

/-- The name of a row's struct. Only host code escapes it. -/
def structName (name : String) : Language → String
  | .rust => escapeKeyword (typeName name)
  | .solidity => typeName name

/-- What bindings call the struct of a row depends on the row and the language only. -/
theorem DeclaresStruct.eq {name struct : String} {language : Language}
    (h : DeclaresStruct name language struct) : struct = structName name language := by
  cases h with
  | rust succeeds read member =>
    obtain ⟨fields, file, prints⟩ := exists_printsFile succeeds
    obtain ⟨tokens, own, -, declared⟩ := prints.exists_tokens
    obtain rfl := Option.some.inj (read.symm.trans own)
    rw [declared.structs, List.mem_singleton] at member
    rw [member, prints.row_eq, structName]
  | solidity prints => exact prints.struct_eq

/-- References to a table are written as its type name, in both languages. -/
theorem WritesReference.eq {name type : String} {language : Language}
    (h : WritesReference name language type) : type = typeName name := by
  cases h with
  | rust succeeds resolved member table read declares =>
    obtain ⟨fields, file, prints⟩ := exists_printsFile succeeds
    obtain rfl := Except.ok.inj (prints.resolved.symm.trans resolved)
    obtain ⟨tokens, own, -, declared⟩ := prints.exists_tokens
    obtain rfl := Option.some.inj (read.symm.trans own)
    rw [declared.members, List.mem_map] at declares
    -- The member that is declared belongs to an entry, and that entry to the field.
    obtain ⟨e, entry, same⟩ := declares
    obtain ⟨named, rfl⟩ := Prod.mk.inj same
    rw [prints.eq_ofField member entry named, HostFile.Entry.host_ofField_table table]
  | @solidity tables row pairs fields struct f type prints member table line =>
    rw [ContractStruct.memberLine, table] at line
    have same : (FieldType.table name).solidityName = type := by
      simpa only [String.append_left_inj, String.append_right_inj] using line
    exact same.symm

/-- An accepted table has bindings of its own. -/
theorem declaresStruct_of_accepts {tables : Tables} {name : String}
    (accepted : tables.accepts name = true) (language : Language) :
    DeclaresStruct name language (structName name language) := by
  obtain ⟨identifier, own⟩ := Tables.of_accepts accepted
  have succeeds (language : Language) : (ofGenerate tables language name []).result = .ok () :=
    result_of_accepted language identifier rfl own
  cases language with
  | rust =>
    obtain ⟨fields, file, prints⟩ := exists_printsFile (succeeds .rust)
    obtain ⟨tokens, read, -, declared⟩ := prints.exists_tokens
    refine .rust prints.succeeds read ?_
    rw [declared.structs, prints.row_eq, structName]
    exact List.mem_singleton_self _
  | solidity =>
    obtain ⟨fields, prints⟩ := exists_printsStruct (succeeds .solidity)
    exact .solidity prints

/-- An accepted table can be referred to. -/
theorem writesReference_of_accepts {tables : Tables} {name : String}
    (accepted : tables.accepts name = true) (language : Language) :
    WritesReference name language (typeName name) := by
  -- A row of its own with a single field that refers to the table shows how it is written.
  have identifier : isIdentifier "owner" = true := by decide
  have fields : resolveFields tables.accepts [("owner", "table " ++ name)] =
      .ok [⟨"owner", .table name⟩] :=
    resolveFields_eq_ok_iff.2 ⟨.cons ⟨rfl, Tables.resolve_of_accepts accepted⟩ .nil,
      .cons identifier List.not_mem_nil .nil⟩
  have succeeds (language : Language) :
      (ofGenerate tables language "row" [("owner", "table " ++ name)]).result = .ok () :=
    result_of_accepted language (by decide) fields (by decide)
  cases language with
  | rust =>
    obtain ⟨others, file, prints⟩ := exists_printsFile (succeeds .rust)
    obtain rfl := Except.ok.inj (fields.symm.trans prints.resolved)
    have member : Field.mk "owner" (.table name) ∈ [Field.mk "owner" (.table name)] :=
      List.mem_cons_self
    obtain ⟨tokens, read, -, declared⟩ := prints.exists_tokens
    exact .rust prints.succeeds fields member rfl read (prints.mem_membersOf declared member)
  | solidity =>
    obtain ⟨others, prints⟩ := exists_printsStruct (succeeds .solidity)
    obtain rfl := Except.ok.inj (fields.symm.trans prints.resolved)
    exact .solidity prints List.mem_cons_self rfl rfl

/-- The type that bindings write for a reference to an accepted table is the struct that the
bindings of the table declare. The one exception is host code for a table whose type is called
`Self`: the struct has an underscore after its name, and the reference, which has none, is to the
enclosing row. -/
theorem reference_names_row {tables : Tables} {name : String}
    (accepted : tables.accepts name = true) (language : Language) :
    resolve tables.accepts ("table " ++ name) = .ok (.table name) ∧
      (∃ struct, DeclaresStruct name language struct) ∧
      (∃ type, WritesReference name language type) ∧
      ∀ struct type, DeclaresStruct name language struct → WritesReference name language type →
        (type = struct ↔ language = .solidity ∨ typeName name ≠ "Self") ∧
        (language = .rust → (type = "Self" ↔ typeName name = "Self")) := by
  refine ⟨Tables.resolve_of_accepts accepted, ⟨_, declaresStruct_of_accepts accepted language⟩,
    ⟨_, writesReference_of_accepts accepted language⟩, ?_⟩
  intro struct type declares writes
  rw [declares.eq, writes.eq]
  refine ⟨?_, fun _ => Iff.rfl⟩
  cases language with
  | solidity => simp [structName]
  | rust =>
    rw [structName, escapeKeyword_typeName (Tables.of_accepts accepted).1]
    -- `Self` is the only type name that is a keyword, so the only one that is escaped.
    by_cases self : typeName name = "Self"
    · simp [self]
    · simp [self]

/-- Host code refers to the table `order_item` by the name of its struct. -/
theorem reference_names_row_order_item :
    (Tables.ofList ["order_item"]).accepts "order_item" = true ∧
      ∃ name, DeclaresStruct "order_item" .rust name ∧ WritesReference "order_item" .rust name := by
  have accepted : (Tables.ofList ["order_item"]).accepts "order_item" = true := by decide
  obtain ⟨-, ⟨struct, declares⟩, ⟨type, writes⟩, agree⟩ := reference_names_row accepted .rust
  have other : typeName "order_item" ≠ "Self" := by decide
  obtain rfl := (agree struct type declares writes).1.2 (.inr other)
  exact ⟨accepted, type, declares, writes⟩

/-- The struct of the table `self_` is called `Self_`, and references to it are to `Self`. -/
theorem reference_self_ne :
    (Tables.ofList ["self_"]).accepts "self_" = true ∧
      DeclaresStruct "self_" .rust "Self_" ∧ WritesReference "self_" .rust "Self" ∧
      "Self_" ≠ "Self" := by
  have accepted : (Tables.ofList ["self_"]).accepts "self_" = true := by decide
  have struct : structName "self_" .rust = "Self_" := by decide
  have type : typeName "self_" = "Self" := by decide
  have declares := declaresStruct_of_accepts accepted .rust
  have writes := writesReference_of_accepts accepted .rust
  rw [struct] at declares
  rw [type] at writes
  exact ⟨accepted, declares, writes, by decide⟩

end Run

end RowBindings
