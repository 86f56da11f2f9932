import Mathlib.Data.List.Nodup
import RowBindings.Proofs.Bindings.Declarations

/-!
# Names in host bindings

Fields are told apart by their names in snake case. A file of host bindings writes those names in
five ways: as the members of the struct, where keywords are escaped, and in the constants and the
methods of the impl. `names_of_rust` says that names which differ in snake case still differ in
each of these ways, that no two kinds of items meet, and that every name is legal where it stands.
-/

namespace RowBindings

open Text

/-! ## Runs that print a file -/

namespace Run

/-- A run of `generate` for host code that succeeds, with the fields that the row resolves to and
the file that is printed. -/
structure PrintsFile (tables : Tables) (row : String) (pairs : List (String × String))
    (fields : List Field) (file : HostFile) : Prop where
  succeeds : (ofGenerate tables .rust row pairs).result = .ok ()
  resolved : resolveFields tables.accepts pairs = .ok fields
  built : HostFile.ofRow row fields = .ok file
  output : (ofGenerate tables .rust row pairs).output = file.text

/-- A run that succeeds prints a file. -/
theorem exists_printsFile {tables : Tables} {row : String} {pairs : List (String × String)}
    (succeeds : (ofGenerate tables .rust row pairs).result = .ok ()) :
    ∃ fields file, PrintsFile tables row pairs fields file := by
  obtain ⟨identifier, fields, accepted, written⟩ := exists_resolved succeeds
  have sound := Field.sound_of_resolveFields accepted
  have file := HostFile.ofRow_eq_ok identifier sound (resolveFields_eq_ok_iff.1 accepted).2
  refine ⟨fields, _, succeeds, accepted, file, ?_⟩
  unfold generate at written
  split at written
  · cases written
  rw [file] at written
  exact (Except.ok.inj written).symm

namespace PrintsFile

variable {tables : Tables} {row : String} {pairs : List (String × String)} {fields : List Field}
  {file : HostFile}

/-- Only a row that is named by an identifier gets as far as a file. -/
theorem isIdentifier (prints : PrintsFile tables row pairs fields file) :
    isIdentifier row = true :=
  (exists_resolved prints.succeeds).1

/-- The fields of a printed file come from descriptors that resolve. -/
theorem sound (prints : PrintsFile tables row pairs fields file) : ∀ f ∈ fields, f.Sound :=
  Field.sound_of_resolveFields prints.resolved

/-- The fields of a printed file have identifiers for names, which differ in snake case. -/
theorem wellNamed (prints : PrintsFile tables row pairs fields file) :
    Field.WellNamed [] fields :=
  (resolveFields_eq_ok_iff.1 prints.resolved).2

/-- The printed file is that of the row's type and of the resolved fields. -/
theorem file_eq (prints : PrintsFile tables row pairs fields file) :
    file = ⟨escapeKeyword (typeName row), fields.map HostFile.Entry.ofField⟩ := by
  have expected := HostFile.ofRow_eq_ok prints.isIdentifier prints.sound prints.wellNamed
  exact Except.ok.inj (prints.built.symm.trans expected)

/-- The struct is named after the row's type, escaped. -/
theorem row_eq (prints : PrintsFile tables row pairs fields file) :
    file.row = escapeKeyword (typeName row) := by
  rw [prints.file_eq]

/-- Each field has its entry in the file. -/
theorem ofField_mem {f : Field} (prints : PrintsFile tables row pairs fields file)
    (member : f ∈ fields) : .ofField f ∈ file.entries := by
  rw [prints.file_eq]
  exact List.mem_map_of_mem member

/-- The row's type hides none that fields have. -/
theorem unreserved (prints : PrintsFile tables row pairs fields file) :
    isReservedTypeName row = false := by
  have outcome := result_ofGenerate tables .rust row pairs
  rw [prints.succeeds, prints.resolved, prints.isIdentifier] at outcome
  rw [Bool.eq_false_iff]
  intro reserved
  rw [reserved] at outcome
  cases outcome

end PrintsFile

end Run

namespace HostFile

/-! ## Members -/

def memberNames (file : HostFile) : List String :=
  file.entries.map Entry.member

/-- A member is named after its field, escaped. -/
theorem Entry.member_ofField (f : Field) :
    (Entry.ofField f).member = escapeKeyword (snakeCase f.name) := by
  rw [Entry.ofField]

/-- A table is the type of the members that refer to it. -/
theorem Entry.host_ofField_table {f : Field} {name : String} (h : f.type = .table name) :
    (Entry.ofField f).host.text = typeName name := by
  rw [Entry.ofField, h]
  rfl

/-- Fields that differ in snake case have members that differ. -/
theorem nodup_members {fields : List Field} (named : Field.WellNamed [] fields) :
    ((fields.map (snakeCase ·.name)).map escapeKeyword).Nodup := by
  refine List.Nodup.map_on ?_ named.nodup.1
  intro a memberA b memberB same
  obtain ⟨f, inFields, rfl⟩ := List.mem_map.1 memberA
  obtain ⟨g, inFields', rfl⟩ := List.mem_map.1 memberB
  exact escapeKeyword_injective (named.isIdentifier_of_mem inFields)
    (named.isIdentifier_of_mem inFields') same

/-! ## Items of the impl -/

/-- What an item of the impl is. -/
inductive ItemKind
  | constant
  | encoder
  | decoder

def ItemKind.itemName : ItemKind → (field : String) → String
  | constant => constantName
  | encoder => encoderName
  | decoder => decoderName

/-- The items of a field: a constant, and the methods unless the field is a table. -/
def itemKinds (f : Field) : List ItemKind :=
  if f.type.kind = .table then [.constant] else [.constant, .encoder, .decoder]

theorem nodup_itemKinds (f : Field) : (itemKinds f).Nodup := by
  rw [itemKinds]
  split <;> simp

/-- The items of a field in the order in which they are written. -/
theorem itemNames_ofField (f : Field) :
    (Entry.ofField f).itemNames = (itemKinds f).map (·.itemName f.name) := by
  rw [itemNames_ofField_eq, itemKinds]
  split <;> rfl

/-- Every name of an item is an identifier. -/
theorem isIdentifier_itemName (kind : ItemKind) {field : String}
    (h : isIdentifier field = true) : isIdentifier (kind.itemName field) = true := by
  cases kind with
  | constant =>
    exact (identifierLike_constantName h).isIdentifier (underscore_mem_append _ _ (by decide))
  | encoder =>
    apply (identifierLike_encoderName h).isIdentifier
    rw [encoderName, String.toList_append]
    exact List.mem_append_left _ (by decide)
  | decoder =>
    apply (identifierLike_decoderName h).isIdentifier
    rw [decoderName, String.toList_append]
    exact List.mem_append_left _ (by decide)

/-- The name of an item tells what it is and which field it belongs to. -/
theorem itemName_injective {i j : ItemKind} {a b : String} (ha : isIdentifier a = true)
    (hb : isIdentifier b = true) (h : i.itemName a = j.itemName b) :
    i = j ∧ snakeCase a = snakeCase b := by
  -- Methods begin with a small letter, of which the two verbs have different ones.
  have encoder (s : String) : (encoderName s).toList.head? = some 'e' := by
    rw [encoderName, String.toList_append]
    rfl
  have decoder (s : String) : (decoderName s).toList.head? = some 'd' := by
    rw [decoderName, String.toList_append]
    rfl
  have first := congrArg (fun s : String => s.toList.head?) h
  cases i <;> cases j <;> simp only [ItemKind.itemName, encoder, decoder] at first h
  case constant.constant =>
    have shouty := (String.append_left_inj "_SIZE").1 h
    exact ⟨rfl, snakeCase_eq_of_shoutySnakeCase_eq ha hb shouty⟩
  case encoder.encoder => exact ⟨rfl, (String.append_right_inj "encode_").1 h⟩
  case decoder.decoder => exact ⟨rfl, (String.append_right_inj "decode_").1 h⟩
  case encoder.decoder | decoder.encoder => cases first
  case constant.encoder | constant.decoder =>
    have capital := isCapital_constantName ha
    rw [isCapital, first] at capital
    cases capital
  case encoder.constant | decoder.constant =>
    have capital := isCapital_constantName hb
    rw [isCapital, ← first] at capital
    cases capital

/-- Fields that differ in snake case have items that differ, whatever they are. -/
theorem nodup_items {fields : List Field} (named : Field.WellNamed [] fields) :
    (fields.flatMap fun f => (itemKinds f).map (·.itemName f.name)).Nodup := by
  rw [List.nodup_flatMap]
  constructor
  · intro f member
    have identifier := named.isIdentifier_of_mem member
    refine List.Nodup.map_on ?_ (nodup_itemKinds f)
    intro i _ j _ same
    exact (itemName_injective identifier identifier same).1
  · have distinct := List.pairwise_map.1 named.nodup.1
    refine distinct.imp_of_mem fun {f g} memberF memberG differ => ?_
    intro name inF inG
    obtain ⟨i, -, rfl⟩ := List.mem_map.1 inF
    obtain ⟨j, -, same⟩ := List.mem_map.1 inG
    have first := named.isIdentifier_of_mem memberF
    have second := named.isIdentifier_of_mem memberG
    exact differ (itemName_injective second first same).2.symm

end HostFile

/-! ## The file -/

namespace Run

open HostFile

namespace PrintsFile

variable {tables : Tables} {row : String} {pairs : List (String × String)} {fields : List Field}
  {file : HostFile}

/-- The members of a printed file, told by its fields. -/
theorem memberNames_eq (prints : PrintsFile tables row pairs fields file) :
    file.memberNames = (fields.map (snakeCase ·.name)).map escapeKeyword := by
  simp only [prints.file_eq, HostFile.memberNames, List.map_map, Function.comp_def,
    HostFile.Entry.member_ofField]

theorem itemNames_eq (prints : PrintsFile tables row pairs fields file) :
    file.itemNames = fields.flatMap fun f => (HostFile.itemKinds f).map (·.itemName f.name) := by
  simp only [prints.file_eq, HostFile.itemNames, List.flatMap_map, HostFile.itemNames_ofField]

end PrintsFile

/-- The text of a printed file declares what the file has. -/
theorem PrintsFile.exists_tokens {tables : Tables} {row : String} {pairs : List (String × String)}
    {fields : List Field} {file : HostFile} (prints : PrintsFile tables row pairs fields file) :
    ∃ tokens, readTokens (ofGenerate tables .rust row pairs).output = some tokens ∧
      UpToCommas tokens (fileTokens row fields) ∧ file.DeclaredBy tokens := by
  obtain ⟨tokens, read, commas⟩ := exists_readTokens prints.succeeds prints.resolved
  refine ⟨tokens, read, commas, ?_⟩
  rw [prints.file_eq]
  exact declaredBy_of_upToCommas prints.isIdentifier prints.sound commas

/-- Each field has its member among those that the text declares. -/
theorem PrintsFile.mem_membersOf {tables : Tables} {row : String}
    {pairs : List (String × String)} {fields : List Field} {file : HostFile} {tokens : List Token}
    {f : Field} (prints : PrintsFile tables row pairs fields file)
    (declared : file.DeclaredBy tokens) (member : f ∈ fields) :
    (escapeKeyword (snakeCase f.name), f.type.hostType) ∈ membersOf tokens := by
  rw [declared.members, ← Entry.member_ofField]
  exact List.mem_map.2 ⟨.ofField f, prints.ofField_mem member, rfl⟩

/-- The text of a printed file declares one struct, the members of the file and its items, and no
two members and no two items with the same name. Members are named by identifiers or raw keywords,
and all else by identifiers, none of which is a keyword. -/
theorem names_of_rust (tables : Tables) (row : String) (pairs : List (String × String))
    (succeeds : (ofGenerate tables .rust row pairs).result = .ok ()) :
    ∃ fields file tokens, PrintsFile tables row pairs fields file ∧
      readTokens (ofGenerate tables .rust row pairs).output = some tokens ∧
      file.DeclaredBy tokens ∧
      ((membersOf tokens).map Prod.fst).Nodup ∧
      (∀ name ∈ (membersOf tokens).map Prod.fst, IsMemberName name) ∧
      (itemsOf tokens).Nodup ∧ (∀ name ∈ itemsOf tokens, isIdentifier name = true) ∧
      ∀ name ∈ structsOf tokens, isIdentifier name = true := by
  obtain ⟨fields, file, prints⟩ := exists_printsFile succeeds
  obtain ⟨tokens, read, -, declared⟩ := prints.exists_tokens
  have named := prints.wellNamed
  have members : (membersOf tokens).map Prod.fst =
      (fields.map (snakeCase ·.name)).map escapeKeyword := by
    rw [← prints.memberNames_eq, declared.members, List.map_map]
    rfl
  refine ⟨fields, file, tokens, prints, read, declared, ?_⟩
  rw [members, declared.items, declared.structs, prints.itemNames_eq, prints.row_eq]
  -- Both lists are known from the fields, whose names differ in snake case.
  refine ⟨HostFile.nodup_members named, ?_, HostFile.nodup_items named, ?_, ?_⟩
  · intro name member
    obtain ⟨snake, inNames, rfl⟩ := List.mem_map.1 member
    obtain ⟨f, inFields, rfl⟩ := List.mem_map.1 inNames
    exact isMemberName_escapeKeyword (identifierLike_snakeCase (named.isIdentifier_of_mem inFields))
  · intro name member
    obtain ⟨f, inFields, inItems⟩ := List.mem_flatMap.1 member
    obtain ⟨kind, -, rfl⟩ := List.mem_map.1 inItems
    exact HostFile.isIdentifier_itemName kind (named.isIdentifier_of_mem inFields)
  · intro name member
    obtain rfl := List.mem_singleton.1 member
    exact isIdentifier_escapeKeyword_typeName prints.isIdentifier

/-- Two fields and a row whose names become keywords; one of them ends in an underscore before and
after it is escaped. -/
theorem names_of_rust_keywords :
    let pairs := [("Type", "bytes4"), ("self_", "table user")]
    let run := ofGenerate (.ofList ["user"]) .rust "self_" pairs
    run.result = .ok () ∧
      ∃ fields file tokens, PrintsFile (.ofList ["user"]) "self_" pairs fields file ∧
        readTokens run.output = some tokens ∧ file.DeclaredBy tokens ∧
        ((membersOf tokens).map Prod.fst).Nodup ∧
        (∀ name ∈ (membersOf tokens).map Prod.fst, IsMemberName name) ∧
        (itemsOf tokens).Nodup ∧ (∀ name ∈ itemsOf tokens, isIdentifier name = true) ∧
        ∀ name ∈ structsOf tokens, isIdentifier name = true := by
  have accepted : resolveFields (Tables.ofList ["user"]).accepts
      [("Type", "bytes4"), ("self_", "table user")] =
        .ok [⟨"Type", .fixedBytes ⟨4, by decide, by decide⟩⟩, ⟨"self_", .table "user"⟩] := rfl
  have identifier : isIdentifier "self_" = true := by decide
  have succeeds := result_of_accepted .rust identifier accepted (by decide)
  exact ⟨succeeds, names_of_rust _ _ _ succeeds⟩

end Run

end RowBindings
