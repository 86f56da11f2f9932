import RowBindings.Proofs.Bindings.Reading
import RowBindings.Proofs.Bindings.TypeNames
import RowBindings.Proofs.Descriptor.Canonical

/-!
# The schema in its bindings

Bindings leave nothing of a schema out: whoever has the text knows the type of the row, the names of
the fields, and their types as far as the language can tell them apart. `schema_of_output` says so
for two runs that print the same text. A file of host bindings is read by its tokens, since lines
may be broken anywhere, and a contract struct by its characters.
-/

namespace RowBindings

open Text

/-- Fields that are the same to a language: to Rust by the canonical names and kinds of their types,
and to Solidity by the types that values have there. -/
def Field.Agree (language : Language) (f g : Field) : Prop :=
  f.name = g.name ∧
    match language with
    | .rust => f.type.name = g.type.name ∧ f.type.kind = g.type.kind
    | .solidity => f.type.solidityType = g.type.solidityType

/-- Fields that agree have the same names. -/
theorem Field.map_name_of_agree {language : Language} {fields fields' : List Field}
    (agree : List.Forall₂ (Field.Agree language) fields fields') :
    fields.map name = fields'.map name := by
  induction agree with
  | nil => rfl
  | cons agrees _ ih => rw [List.map_cons, List.map_cons, agrees.1, ih]

/-! ## Host code -/

namespace HostFile

open Token (mark word)

variable {row row' : String} {fields fields' : List Field}

/-- The tokens above the name of the struct. -/
def headerTokens : List Token :=
  docTokens true (" " ++ generatedBy)
    ++ spaced "# ! [ allow ( dead_code , unused_imports ) ]"
    ++ spaced "use dt_builtins :: \x7b codec , Address , Hash , U256 \x7d ;"
    ++ spaced "# [ derive ( Debug ) ] pub struct"

/-- A file begins in the same way up to the name of its struct. -/
theorem fileTokens_eq (row : String) (fields : List Field) :
    fileTokens row fields =
      headerTokens ++ word (escapeKeyword (typeName row)) :: mark "\x7b" ::
        ([mark ","].intercalate (fields.map memberTokens) ++ mark "\x7d" :: word "impl" ::
          word (escapeKeyword (typeName row)) :: mark "\x7b" ::
            (fields.flatMap itemTokens ++ [mark "\x7d"])) := by
  simp only [fileTokens, headerTokens, List.append_assoc, List.cons_append, List.nil_append]

/-- The name of the struct comes after the same tokens in every file. -/
theorem structName_of_tokens
    (same : withoutCommas (fileTokens row fields) = withoutCommas (fileTokens row' fields')) :
    escapeKeyword (typeName row) = escapeKeyword (typeName row') := by
  rw [fileTokens_eq, fileTokens_eq, withoutCommas_append, withoutCommas_append] at same
  have rest := List.append_cancel_left same
  rw [withoutCommas, withoutCommas, List.filter_cons_of_pos (by simp),
    List.filter_cons_of_pos (by simp)] at rest
  exact Token.word.inj (List.cons.inj rest).1

/-- Whether a token is kept in the outline of a file: documentation is, and so are the arrows that
stand before what a method returns. -/
def inOutline : Token → Bool
  | .text _ => true
  | .mark s => s == "->"
  | .word _ => false

/-- The outline of a field: what documents its constant, and an arrow for each of its methods. -/
def outline (f : Field) : List Token :=
  .text (sizeDoc f) :: if f.type.kind = .table then [] else [mark "->", mark "->"]

theorem filter_words (names : List String) :
    (names.map word).filter inOutline = [] := by
  rw [List.filter_eq_nil_iff]
  intro t member
  obtain ⟨name, -, rfl⟩ := List.mem_map.1 member
  simp [inOutline]

/-- Types leave nothing in the outline, since the angle brackets are no arrows. -/
theorem filter_typeTokens (host : HostType) : (typeTokens host).filter inOutline = [] := by
  cases host with
  | named name => rfl
  | vec element =>
    have open_ : (spaced "Vec <").filter inOutline = [] := by decide
    rw [typeTokens, List.filter_append, open_]
    rfl

theorem filter_memberTokens (f : Field) : (memberTokens f).filter inOutline = [] :=
  filter_typeTokens f.type.hostType

theorem filter_widthTokens (f : Field) : (widthTokens f).filter inOutline = [] := by
  have path : (spaced ", Self ::").filter inOutline = [] := by decide
  rw [widthTokens]
  split
  · rw [List.filter_append, path]
    rfl
  · rfl

/-- A comment leaves its text in the outline. -/
theorem filter_docTokens (inner : Bool) (doc : String) :
    (docTokens inner doc).filter inOutline = [.text doc] := by
  cases inner <;> rfl

/-- A method that writes leaves its arrow in the outline. -/
theorem filter_encoderTokens (f : Field) : (encoderTokens f).filter inOutline = [mark "->"] := by
  have head : (spaced "pub fn").filter inOutline = [] := by decide
  have signature :
      (spaced "( & self ) -> Result < Vec < u8 > , codec :: Error > \x7b codec ::").filter
        inOutline = [mark "->"] := by decide +kernel
  have receiver : (spaced "( & self .").filter inOutline = [] := by decide
  have close : (spaced ") \x7d").filter inOutline = [] := by decide
  simp only [encoderTokens, List.filter_append, head, signature, receiver, close, filter_words,
    filter_widthTokens]
  rfl

theorem filter_decoderTokens (f : Field) : (decoderTokens f).filter inOutline = [mark "->"] := by
  have head : (spaced "pub fn").filter inOutline = [] := by decide
  have signature : (spaced "( data : & [ u8 ] ) -> Result <").filter inOutline = [mark "->"] := by
    decide +kernel
  have error : (spaced ", codec :: Error > \x7b codec ::").filter inOutline = [] := by
    decide +kernel
  have argument : (spaced "( data").filter inOutline = [] := by decide
  have close : (spaced ") \x7d").filter inOutline = [] := by decide
  simp only [decoderTokens, List.filter_append, head, signature, error, argument, close,
    filter_words, filter_typeTokens, filter_widthTokens]
  rfl

theorem filter_itemTokens (f : Field) : (itemTokens f).filter inOutline = outline f := by
  have head : (spaced "pub const").filter inOutline = [] := by decide
  have type : (spaced ": usize =").filter inOutline = [] := by decide
  have value : [word (decimal f.type.size), mark ";"].filter inOutline = [] := rfl
  have methods :
      (if f.type.kind = .table then [] else encoderTokens f ++ decoderTokens f).filter inOutline =
        if f.type.kind = .table then [] else [mark "->", mark "->"] := by
    split
    · rfl
    · rw [List.filter_append, filter_encoderTokens, filter_decoderTokens]
      rfl
  simp only [itemTokens, List.filter_append, filter_docTokens, head, type, value, methods]
  rfl

/-- The outline of a file is that of its fields, in order. -/
theorem filter_fileTokens (row : String) (fields : List Field) :
    (fileTokens row fields).filter inOutline =
      .text (" " ++ generatedBy) :: fields.flatMap outline := by
  have header : headerTokens.filter inOutline = [.text (" " ++ generatedBy)] := by decide +kernel
  have members : ([mark ","].intercalate (fields.map memberTokens)).filter inOutline = [] := by
    rw [List.filter_eq_nil_iff]
    intro t joined
    rcases mem_of_mem_intercalate joined with rfl | ⟨part, inParts, inPart⟩
    · decide
    obtain ⟨f, -, rfl⟩ := List.mem_map.1 inParts
    exact List.filter_eq_nil_iff.1 (filter_memberTokens f) t inPart
  have items : (fields.flatMap itemTokens).filter inOutline = fields.flatMap outline := by
    rw [List.filter_flatMap]
    simp only [filter_itemTokens]
  rw [fileTokens_eq, List.filter_append, header]
  simp [List.filter_append, members, items, inOutline]

/-- Documentation names the field and its type. -/
theorem sizeDoc_inj {f g : Field} (soundF : f.Sound) (soundG : g.Sound)
    (same : sizeDoc f = sizeDoc g) : f.name = g.name ∧ f.type.name = g.type.name := by
  have unquoted {h : Field} (sound : h.Sound) : '\x60' ∉ h.name.toList :=
    not_mem_of_isName (isIdentifier_iff.1 sound.name).1.isName (by decide) (by decide)
  have quoted : ∀ t, ("\x60 (\x60" ++ t).toList.head? = some '\x60' := head?_toList_append rfl
  rw [sizeDoc_eq, sizeDoc_eq] at same
  obtain ⟨name, rest⟩ := append_inj_of_mark (unquoted soundF) (unquoted soundG) (quoted _)
    (quoted _) ((String.append_right_inj _).1 same)
  exact ⟨name, (String.append_left_inj _).1 ((String.append_right_inj _).1 rest)⟩

/-- No outline of fields begins with an arrow. -/
theorem flatMap_outline_ne (fields : List Field) (rest : List Token) :
    fields.flatMap outline ≠ mark "->" :: rest := by
  cases fields with
  | nil => exact (List.cons_ne_nil _ _).symm
  | cons f fields => simp [outline]

/-- The outline of fields tells them apart. -/
theorem agree_of_outline (sound : ∀ f ∈ fields, f.Sound) (sound' : ∀ f ∈ fields', f.Sound)
    (same : fields.flatMap outline = fields'.flatMap outline) :
    List.Forall₂ (Field.Agree .rust) fields fields' := by
  induction fields generalizing fields' with
  | nil =>
    cases fields' with
    | nil => exact .nil
    | cons g fields' => simp [outline] at same
  | cons f fields ih =>
    cases fields' with
    | nil => simp [outline] at same
    | cons g fields' =>
      rw [List.flatMap_cons, List.flatMap_cons, outline, outline, List.cons_append,
        List.cons_append] at same
      obtain ⟨doc, rest⟩ := List.cons.inj same
      obtain ⟨name, type⟩ := sizeDoc_inj (sound f List.mem_cons_self) (sound' g List.mem_cons_self)
        (Token.text.inj doc)
      -- Arrows follow exactly if the field is no table.
      have kinds : (f.type.kind = .table ↔ g.type.kind = .table) ∧
          fields.flatMap outline = fields'.flatMap outline := by
        by_cases tableF : f.type.kind = .table <;> by_cases tableG : g.type.kind = .table <;>
          simp only [tableF, tableG, if_true, if_false, List.nil_append, List.cons_append] at rest
        · exact ⟨by simp [tableF, tableG], rest⟩
        · exact absurd rest (flatMap_outline_ne _ _)
        · exact absurd rest.symm (flatMap_outline_ne _ _)
        · exact ⟨by simp [tableF, tableG], (List.cons.inj (List.cons.inj rest).2).2⟩
      refine .cons ⟨name, type, FieldType.kind_eq_of_name_eq type kinds.1⟩ ?_
      exact ih (fun h later => sound h (List.mem_cons_of_mem f later))
        (fun h later => sound' h (List.mem_cons_of_mem g later)) kinds.2

/-- Two files with the same tokens, up to commas, have the same row and fields. -/
theorem agree_of_tokens {tokens : List Token} (sound : ∀ f ∈ fields, f.Sound)
    (sound' : ∀ f ∈ fields', f.Sound) (h : UpToCommas tokens (fileTokens row fields))
    (h' : UpToCommas tokens (fileTokens row' fields')) :
    escapeKeyword (typeName row) = escapeKeyword (typeName row') ∧
      List.Forall₂ (Field.Agree .rust) fields fields' := by
  have same := h.withoutCommas_eq.symm.trans h'.withoutCommas_eq
  refine ⟨structName_of_tokens same, agree_of_outline sound sound' ?_⟩
  have comma (t : Token) : (decide (t ≠ mark ",") && inOutline t) = inOutline t := by
    by_cases h : t = mark ","
    · subst h
      decide
    · simp [h]
  have outlines := congrArg (List.filter inOutline) same
  simp only [withoutCommas, List.filter_filter, Bool.and_comm (inOutline _), comma] at outlines
  rw [filter_fileTokens, filter_fileTokens] at outlines
  exact (List.cons.inj outlines).2

end HostFile

/-! ## Contract code -/

namespace FieldType

/-- Only tables are called otherwise in contract code than in the schema. -/
theorem solidityName_eq_name {t : FieldType} (stored : t.kind ≠ .table) :
    t.solidityName = t.name := by
  cases t with
  | table => exact absurd rfl stored
  | _ => rfl

end FieldType

/-- The type of a sound field can be written in contract code. -/
theorem Field.isName_solidityName {f : Field} (sound : f.Sound) :
    isName f.type.solidityName = true := by
  by_cases table : f.type.kind = .table
  · cases type : f.type with
    | table name => exact isName_typeName (sound.table name type).1
    | _ =>
      rw [type] at table
      cases table
  · rw [FieldType.solidityName_eq_name table]
    exact HostFile.isName_name sound

/-- Only the types of tables begin with a capital letter, in contract code as well. -/
theorem Field.isCapital_solidityName {f : Field} (sound : f.Sound) :
    isCapital f.type.solidityName = true ↔ f.type.kind = .table := by
  by_cases table : f.type.kind = .table
  · rw [iff_true_right table]
    cases type : f.type with
    | table name => exact (typeName_spelling (sound.table name type).1).2
    | _ =>
      rw [type] at table
      cases table
  · simp [FieldType.solidityName_eq_name table, FieldType.isCapital_name table, table]

/-- Members of the same written type have the same type, with its data location. -/
theorem Field.solidityType_eq {f g : Field} (soundF : f.Sound) (soundG : g.Sound)
    (same : f.type.solidityName = g.type.solidityName) :
    f.type.solidityType = g.type.solidityType := by
  have tables : f.type.kind = .table ↔ g.type.kind = .table := by
    rw [← f.isCapital_solidityName soundF, ← g.isCapital_solidityName soundG, same]
  by_cases table : f.type.kind = .table
  · have located {t : FieldType} (h : t.kind = .table) :
        t.solidityType = "memory " ++ t.solidityName := by
      cases t with
      | table => rfl
      | _ => cases h
    rw [located table, located (tables.1 table), same]
  · rw [FieldType.solidityName_eq_name table,
      FieldType.solidityName_eq_name (mt tables.2 table)] at same
    rw [FieldType.name_injective table (mt tables.2 table) same]

namespace ContractStruct

variable {fields fields' : List Field}

theorem text_eq (name : String) (lines : List String) :
    text name lines =
      "// " ++ generatedBy ++ "\n\nstruct " ++
        (name ++ (" \x7b\n" ++ (String.join lines ++ "\x7d\n"))) := by
  rw [text]
  simp only [String.append_assoc]

/-- The line of a member, with the type and the name of the field set apart. -/
theorem memberLine_append (f : Field) (rest : String) :
    memberLine f ++ rest =
      "    " ++ (f.type.solidityName ++ (" " ++ (f.name ++ (";\n" ++ rest)))) := by
  rw [memberLine]
  simp only [String.append_assoc]

/-- What follows the members is no member. -/
theorem memberLine_append_ne (f : Field) (rest : String) : "\x7d\n" ≠ memberLine f ++ rest := by
  intro same
  have first := congrArg (·.toList.head?) same
  rw [memberLine_append] at first
  have spaces := head?_toList_append (by rfl : "    ".toList.head? = some ' ')
    (f.type.solidityName ++ (" " ++ (f.name ++ (";\n" ++ rest))))
  cases first.trans spaces

/-- The members up to the closing brace tell the fields apart. -/
theorem agree_of_members (sound : ∀ f ∈ fields, f.Sound) (sound' : ∀ f ∈ fields', f.Sound)
    (same : String.join (fields.map memberLine) ++ "\x7d\n" =
      String.join (fields'.map memberLine) ++ "\x7d\n") :
    List.Forall₂ (Field.Agree .solidity) fields fields' := by
  induction fields generalizing fields' with
  | nil =>
    cases fields' with
    | nil => exact .nil
    | cons g fields' =>
      rw [List.map_cons, String.join_cons, String.append_assoc] at same
      exact absurd same (memberLine_append_ne g _)
  | cons f fields ih =>
    cases fields' with
    | nil =>
      rw [List.map_cons, String.join_cons, String.append_assoc] at same
      exact absurd same.symm (memberLine_append_ne f _)
    | cons g fields' =>
      have soundF := sound f List.mem_cons_self
      have soundG := sound' g List.mem_cons_self
      have unspaced {h : Field} (sound : h.Sound) : ' ' ∉ h.type.solidityName.toList :=
        not_mem_of_isName (Field.isName_solidityName sound) (by decide) (by decide)
      have unended {h : Field} (sound : h.Sound) : ';' ∉ h.name.toList :=
        not_mem_of_isName (isIdentifier_iff.1 sound.name).1.isName (by decide) (by decide)
      have space : ∀ t, (" " ++ t).toList.head? = some ' ' := head?_toList_append rfl
      have semicolon : ∀ t, (";\n" ++ t).toList.head? = some ';' := head?_toList_append rfl
      rw [List.map_cons, List.map_cons, String.join_cons, String.join_cons, String.append_assoc,
        String.append_assoc, memberLine_append, memberLine_append] at same
      -- The type ends at the first space behind it, and the name at the first semicolon.
      obtain ⟨type, afterType⟩ := append_inj_of_mark (unspaced soundF) (unspaced soundG) (space _)
        (space _) ((String.append_right_inj _).1 same)
      obtain ⟨name, afterName⟩ := append_inj_of_mark (unended soundF) (unended soundG)
        (semicolon _) (semicolon _) ((String.append_right_inj _).1 afterType)
      refine .cons ⟨name, Field.solidityType_eq soundF soundG type⟩ ?_
      exact ih (fun h later => sound h (List.mem_cons_of_mem f later))
        (fun h later => sound' h (List.mem_cons_of_mem g later))
        ((String.append_right_inj _).1 afterName)

/-- The text of a struct tells its name and the fields. -/
theorem agree_of_text {name name' : String} (isName : isName name = true)
    (isName' : Text.isName name' = true) (sound : ∀ f ∈ fields, f.Sound)
    (sound' : ∀ f ∈ fields', f.Sound)
    (same : text name (fields.map memberLine) = text name' (fields'.map memberLine)) :
    name = name' ∧ List.Forall₂ (Field.Agree .solidity) fields fields' := by
  have space : ∀ t, (" \x7b\n" ++ t).toList.head? = some ' ' := head?_toList_append rfl
  rw [text_eq, text_eq] at same
  obtain ⟨names, members⟩ := append_inj_of_mark
    (not_mem_of_isName isName (c := ' ') (by decide) (by decide))
    (not_mem_of_isName isName' (by decide) (by decide)) (space _) (space _)
    ((String.append_right_inj _).1 same)
  exact ⟨names, agree_of_members sound sound' ((String.append_right_inj _).1 members)⟩

end ContractStruct

/-! ## Both languages -/

namespace Run

variable {tables tables' : Tables} {row row' : String} {pairs pairs' : List (String × String)}
  {fields fields' : List Field} {file file' : HostFile} {struct struct' : String}

/-- Two runs that print the same file agree on the row and the fields. -/
theorem PrintsFile.agree (prints : PrintsFile tables row pairs fields file)
    (prints' : PrintsFile tables' row' pairs' fields' file')
    (same : (ofGenerate tables .rust row pairs).output =
      (ofGenerate tables' .rust row' pairs').output) :
    typeName row = typeName row' ∧ List.Forall₂ (Field.Agree .rust) fields fields' := by
  obtain ⟨tokens, read, spelled⟩ := exists_readTokens prints.succeeds prints.resolved
  obtain ⟨tokens', read', spelled'⟩ := exists_readTokens prints'.succeeds prints'.resolved
  rw [same, read'] at read
  obtain rfl := Option.some.inj read
  obtain ⟨struct, fields⟩ := HostFile.agree_of_tokens prints.sound prints'.sound spelled spelled'
  exact ⟨typeName_eq_of_escapeKeyword_eq prints.isIdentifier prints'.isIdentifier struct, fields⟩

/-- Two runs that print the same struct agree on the row and the fields. -/
theorem PrintsStruct.agree (prints : PrintsStruct tables row pairs fields struct)
    (prints' : PrintsStruct tables' row' pairs' fields' struct')
    (same : (ofGenerate tables .solidity row pairs).output =
      (ofGenerate tables' .solidity row' pairs').output) :
    typeName row = typeName row' ∧ List.Forall₂ (Field.Agree .solidity) fields fields' := by
  have name := isName_typeName (exists_resolved prints.succeeds).1
  have name' := isName_typeName (exists_resolved prints'.succeeds).1
  rw [← prints.struct_eq] at name ⊢
  rw [← prints'.struct_eq] at name' ⊢
  rw [prints.output, prints'.output] at same
  exact ContractStruct.agree_of_text name name' (Field.sound_of_resolveFields prints.resolved)
    (Field.sound_of_resolveFields prints'.resolved) same

/-- Two runs that print the same bindings are of the same schema, as far as the language tells
schemas apart: the rows have the same type, and the fields have the same names and types, in the
same order. -/
theorem schema_of_output (tables tables' : Tables) (language : Language) (row row' : String)
    (pairs pairs' : List (String × String))
    (succeeds : (ofGenerate tables language row pairs).result = .ok ())
    (succeeds' : (ofGenerate tables' language row' pairs').result = .ok ())
    (same : (ofGenerate tables language row pairs).output =
      (ofGenerate tables' language row' pairs').output) :
    typeName row = typeName row' ∧ pairs.length = pairs'.length ∧
      pairs.map Prod.fst = pairs'.map Prod.fst ∧
      ∃ fields fields', resolveFields tables.accepts pairs = .ok fields ∧
        resolveFields tables'.accepts pairs' = .ok fields' ∧
        List.Forall₂ (Field.Declares tables.accepts) pairs fields ∧
        List.Forall₂ (Field.Declares tables'.accepts) pairs' fields' ∧
        List.Forall₂ (Field.Agree language) fields fields' := by
  have schema : ∃ fields fields', resolveFields tables.accepts pairs = .ok fields ∧
      resolveFields tables'.accepts pairs' = .ok fields' ∧ typeName row = typeName row' ∧
      List.Forall₂ (Field.Agree language) fields fields' := by
    cases language with
    | rust =>
      obtain ⟨fields, file, prints⟩ := exists_printsFile succeeds
      obtain ⟨fields', file', prints'⟩ := exists_printsFile succeeds'
      exact ⟨fields, fields', prints.resolved, prints'.resolved, prints.agree prints' same⟩
    | solidity =>
      obtain ⟨fields, prints⟩ := exists_printsStruct succeeds
      obtain ⟨fields', prints'⟩ := exists_printsStruct succeeds'
      exact ⟨fields, fields', prints.resolved, prints'.resolved, prints.agree prints' same⟩
  obtain ⟨fields, fields', resolved, resolved', type, agree⟩ := schema
  have declared := (resolveFields_eq_ok_iff.1 resolved).1
  have declared' := (resolveFields_eq_ok_iff.1 resolved').1
  -- The pairs have the names of the fields that they declare.
  have names : pairs.map Prod.fst = pairs'.map Prod.fst := by
    rw [← Field.map_name_of_declares declared, ← Field.map_name_of_declares declared']
    exact Field.map_name_of_agree agree
  have length : pairs.length = pairs'.length := by simpa using congrArg List.length names
  exact ⟨type, length, names, fields, fields', resolved, resolved', declared, declared', agree⟩

/-- Two ways to declare the same row, which print the same file. -/
theorem schema_of_output_order_item :
    let run := ofGenerate .empty .rust "order_item" [("id", "uint")]
    let run' := ofGenerate (.ofList ["user"]) .rust "OrderItem" [("id", "uint0256")]
    run.result = .ok () ∧ run'.result = .ok () ∧ run.output = run'.output ∧
      typeName "order_item" = typeName "OrderItem" ∧
      ∃ fields fields', resolveFields Tables.empty.accepts [("id", "uint")] = .ok fields ∧
        resolveFields (Tables.ofList ["user"]).accepts [("id", "uint0256")] = .ok fields' ∧
        List.Forall₂ (Field.Agree .rust) fields fields' := by
  have accepted : resolveFields Tables.empty.accepts [("id", "uint")] =
      .ok [⟨"id", .uint256⟩] := rfl
  have accepted' : resolveFields (Tables.ofList ["user"]).accepts [("id", "uint0256")] =
      .ok [⟨"id", .uint256⟩] := rfl
  have succeeds := result_of_accepted .rust (by decide : isIdentifier "order_item" = true)
    accepted (by decide)
  have succeeds' := result_of_accepted .rust (by decide : isIdentifier "OrderItem" = true)
    accepted' (by decide)
  obtain ⟨fields, file, prints⟩ := exists_printsFile succeeds
  obtain ⟨fields', file', prints'⟩ := exists_printsFile succeeds'
  have struct : typeName "order_item" = typeName "OrderItem" := by decide
  -- The files are built from the same name and the same fields.
  have same : (ofGenerate .empty .rust "order_item" [("id", "uint")]).output =
      (ofGenerate (.ofList ["user"]) .rust "OrderItem" [("id", "uint0256")]).output := by
    obtain rfl := Except.ok.inj (accepted.symm.trans prints.resolved)
    obtain rfl := Except.ok.inj (accepted'.symm.trans prints'.resolved)
    rw [prints.output, prints'.output, prints.file_eq, prints'.file_eq, struct]
  obtain ⟨type, -, -, fields, fields', resolved, resolved', -, -, agree⟩ :=
    schema_of_output _ _ _ _ _ _ _ succeeds succeeds' same
  exact ⟨succeeds, succeeds', same, type, fields, fields', resolved, resolved', agree⟩

end Run

end RowBindings
