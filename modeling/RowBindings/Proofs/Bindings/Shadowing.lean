import RowBindings.Proofs.Bindings.TypeNames

/-!
# Builtin types in host bindings

A file of host bindings declares the struct of its row and refers to those of other tables, and
beside them it uses builtin types by their own names. `capital_of_mem_fileTokens` lists all words of
a file that could be mistaken for a type: there are six builtin types among them, of which five are
reserved. So `shadowing_of_rust` can say exactly when a struct or a table hides a builtin type: when
it is called `Result`, which is the type of what the methods return.
-/

namespace RowBindings

open Text

namespace HostFile

/-! ## The words of a file -/

/-- The builtin types that host bindings use by their own names, apart from the primitive ones,
whose names begin with a small letter. -/
def builtinTypes : List String := ["Address", "Hash", "U256", "String", "Vec", "Result"]

/-- What the words of a row's bindings may be that begin with a capital letter. -/
inductive Capital (row : String) (fields : List Field) : String → Prop
  | builtin {word : String} : word ∈ builtinTypes → Capital row fields word
  /-- The name of the struct. -/
  | row : Capital row fields (escapeKeyword (typeName row))
  | table {f : Field} {name : String} : f ∈ fields → f.type = .table name →
    Capital row fields (typeName name)
  | constant {f : Field} : f ∈ fields → Capital row fields (constantName f.name)
  /-- The trait that is derived for the struct. -/
  | derived : Capital row fields "Debug"
  /-- The struct inside its impl. -/
  | receiver : Capital row fields "Self"
  /-- The error of the codecs, which is always written with the name of its module. -/
  | error : Capital row fields "Error"

/-- A token is no word, or one without a capital letter, or one that is listed in `Capital`. -/
def Listed (row : String) (fields : List Field) (t : Token) : Prop :=
  ∀ word, t = .word word → isCapital word = true → Capital row fields word

variable {row : String} {fields : List Field}

theorem listed_mark (s : String) : Listed row fields (.mark s) := nofun

theorem listed_of_capital {word : String} (h : Capital row fields word) :
    Listed row fields (.word word) := by
  rintro _ ⟨⟩ -
  exact h

/-- A word with a small first letter need not be listed. -/
theorem listed_of_small {word : String} (h : isCapital word = false) :
    Listed row fields (.word word) := by
  rintro _ ⟨⟩ capital
  rw [h] at capital
  cases capital

/-- Whether a token is listed in the bindings of every row. -/
def isFixed : Token → Bool
  | .word word => !isCapital word || (["Debug", "Self", "Error"] ++ builtinTypes).contains word
  | _ => true

/-- The words that are in every file are all listed. -/
theorem listed_of_isFixed {t : Token} (h : isFixed t = true) : Listed row fields t := by
  rintro word rfl capital
  rw [isFixed, capital, Bool.not_true, Bool.false_or, List.contains_iff_mem] at h
  rcases List.mem_append.1 h with other | builtin
  · simp only [List.mem_cons, List.not_mem_nil, or_false] at other
    rcases other with rfl | rfl | rfl
    · exact .derived
    · exact .receiver
    · exact .error
  · exact .builtin builtin

/-- This is decided by evaluation for the tokens between names. -/
theorem listed_of_all {ts : List Token} (h : ts.all isFixed = true) :
    ∀ t ∈ ts, Listed row fields t :=
  fun t member => listed_of_isFixed (List.all_eq_true.1 h t member)

/-! ## Fields -/

/-- A number begins with a digit. -/
theorem isCapital_decimal (n : Nat) : isCapital (decimal n) = false := by
  rw [isCapital, decimal, String.toList_ofList]
  cases digits : Nat.toDigits 10 n with
  | nil => rfl
  | cons d rest =>
    have digit : d.isDigit = true :=
      Nat.isDigit_of_mem_toDigits (by decide) (by decide) (digits ▸ List.mem_cons_self)
    have ascii : d.toNat < 128 := ascii_of_isAlphanum (by rw [Char.isAlphanum, digit, Bool.or_true])
    revert digit
    apply forall_ascii (p := fun d => d.isDigit = true → d.isUpper = false) _ ascii
    decide +kernel

/-- The type of a field is listed as a builtin type or as one of a table. -/
theorem listed_typeTokens {f : Field} (member : f ∈ fields) :
    ∀ t ∈ typeTokens f.type.hostType, Listed row fields t := by
  cases type : f.type with
  | table name =>
    intro t inType
    obtain rfl := List.mem_singleton.1 inType
    exact listed_of_capital (.table member type)
  | integer sign width =>
    intro t inType
    obtain rfl := List.mem_singleton.1 inType
    apply listed_of_small
    cases sign <;> exact isCapital_append (by decide)
  | bytes | fixedBytes =>
    have fixed : (typeTokens (.vec "u8")).all isFixed = true := by decide
    exact listed_of_all fixed
  | _ => exact listed_of_all (by decide +kernel)

/-- Routines are called by a name with a verb in front. -/
theorem listed_routine {name? : Option String} {verb : String} (nonempty : verb.toList ≠ [])
    (small : isCapital verb = false) :
    ∀ t ∈ (name?.map (verb ++ ·)).toList.map .word, Listed row fields t := by
  cases name? with
  | none => exact List.forall_mem_nil _
  | some suffix =>
    intro t member
    obtain rfl := List.mem_singleton.1 member
    apply listed_of_small
    rw [isCapital_append nonempty, small]

/-- The member of a field begins with a small letter, and its type is listed. -/
theorem listed_memberTokens {f : Field} (sound : f.Sound) (member : f ∈ fields) :
    ∀ t ∈ memberTokens f, Listed row fields t := by
  obtain ⟨like, small⟩ := snakeCase_spelling sound.name
  simp only [memberTokens, List.forall_mem_cons]
  exact ⟨listed_of_isFixed (by decide), listed_of_small (isCapital_escapeKeyword like small),
    listed_mark _, listed_typeTokens member⟩

theorem listed_widthTokens {f : Field} (member : f ∈ fields) :
    ∀ t ∈ widthTokens f, Listed row fields t := by
  rw [widthTokens]
  split
  · rw [List.forall_mem_append, List.forall_mem_singleton]
    exact ⟨listed_of_all (by decide +kernel), listed_of_capital (.constant member)⟩
  · exact List.forall_mem_nil _

/-- The method that writes a field has `Vec`, `Result` and `Error` in its signature. -/
theorem listed_encoderTokens {f : Field} (sound : f.Sound) (member : f ∈ fields) :
    ∀ t ∈ encoderTokens f, Listed row fields t := by
  obtain ⟨like, small⟩ := snakeCase_spelling sound.name
  have name : isCapital ("encode_" ++ snakeCase f.name) = false := isCapital_append (by decide)
  simp only [encoderTokens, FieldType.encoderName?, List.forall_mem_append,
    List.forall_mem_singleton, and_assoc]
  exact ⟨listed_of_all (by decide +kernel), listed_of_small name,
    listed_of_all (by decide +kernel), listed_routine (by decide) (by decide),
    listed_of_all (by decide +kernel), listed_of_small (isCapital_escapeKeyword like small),
    listed_widthTokens member, listed_of_all (by decide +kernel)⟩

/-- The method that reads a field has its type in the signature besides. -/
theorem listed_decoderTokens {f : Field} (member : f ∈ fields) :
    ∀ t ∈ decoderTokens f, Listed row fields t := by
  have name : isCapital ("decode_" ++ snakeCase f.name) = false := isCapital_append (by decide)
  simp only [decoderTokens, FieldType.decoderName?, List.forall_mem_append,
    List.forall_mem_singleton, and_assoc]
  exact ⟨listed_of_all (by decide +kernel), listed_of_small name,
    listed_of_all (by decide +kernel), listed_typeTokens member,
    listed_of_all (by decide +kernel), listed_routine (by decide) (by decide),
    listed_of_all (by decide +kernel), listed_widthTokens member,
    listed_of_all (by decide +kernel)⟩

theorem listed_docTokens (inner : Bool) (doc : String) :
    ∀ t ∈ docTokens inner doc, Listed row fields t := by
  apply listed_of_all
  cases inner <;> rfl

/-- The items of a field bring in its constant and nothing else that is capital. -/
theorem listed_itemTokens {f : Field} (sound : f.Sound) (member : f ∈ fields) :
    ∀ t ∈ itemTokens f, Listed row fields t := by
  have methods : ∀ t ∈ if f.type.kind = .table then [] else encoderTokens f ++ decoderTokens f,
      Listed row fields t := by
    split
    · exact List.forall_mem_nil _
    · rw [List.forall_mem_append]
      exact ⟨listed_encoderTokens sound member, listed_decoderTokens member⟩
  simp only [itemTokens, List.forall_mem_append, List.forall_mem_cons, List.not_mem_nil,
    false_implies, implies_true, and_true, and_assoc]
  exact ⟨listed_docTokens _ _, listed_of_all (by decide +kernel),
    listed_of_capital (.constant member), listed_of_all (by decide +kernel),
    listed_of_small (isCapital_decimal _), listed_mark _, methods⟩

/-! ## Files -/

/-- Every capital word of a file is listed. -/
theorem capital_of_mem_fileTokens (sound : ∀ f ∈ fields, f.Sound) {word : String}
    (member : .word word ∈ fileTokens row fields) (capital : isCapital word = true) :
    Capital row fields word := by
  have members : ∀ t ∈ [Token.mark ","].intercalate (fields.map memberTokens),
      Listed row fields t := by
    intro t joined
    rcases mem_of_mem_intercalate joined with rfl | ⟨part, inParts, inPart⟩
    · exact listed_mark _
    obtain ⟨f, inFields, rfl⟩ := List.mem_map.1 inParts
    exact listed_memberTokens (sound f inFields) inFields t inPart
  have items : ∀ t ∈ fields.flatMap itemTokens, Listed row fields t := by
    intro t inItems
    obtain ⟨f, inFields, inItem⟩ := List.mem_flatMap.1 inItems
    exact listed_itemTokens (sound f inFields) inFields t inItem
  have struct : Listed row fields (.word (escapeKeyword (typeName row))) := listed_of_capital .row
  have listed : ∀ t ∈ fileTokens row fields, Listed row fields t := by
    simp only [fileTokens, List.forall_mem_append, List.forall_mem_cons, List.not_mem_nil,
      false_implies, implies_true, and_true, and_assoc]
    exact ⟨listed_docTokens _ _, listed_of_all (by decide +kernel),
      listed_of_all (by decide +kernel), listed_of_all (by decide +kernel), struct, listed_mark _,
      members, listed_mark _, listed_of_isFixed (by decide), struct, listed_mark _, items,
      listed_mark _⟩
  exact listed _ member word rfl capital

end HostFile

/-! ## Hidden types -/

namespace Run

open HostFile

/-- A type that is not reserved has the name of a builtin type only if it is called `Result`. -/
theorem mem_builtinTypes_iff {name : String} (own : isReservedTypeName name = false) :
    typeName name ∈ builtinTypes ↔ typeName name = "Result" := by
  have others : typeName name ∉ reservedTypeNames := by
    rw [isReservedTypeName, ← Bool.not_eq_true, List.contains_iff_mem] at own
    exact own
  have types : builtinTypes = reservedTypeNames ++ ["Result"] := rfl
  rw [types, List.mem_append, List.mem_singleton]
  exact or_iff_right others

/-- The tokens of a printed file are those of its fields, up to commas, so their words are. -/
theorem capital_of_mem_tokens {row : String} {fields : List Field} {tokens : List Token}
    (sound : ∀ f ∈ fields, f.Sound) (commas : UpToCommas tokens (fileTokens row fields))
    {word : String} (member : .word word ∈ tokens) (capital : isCapital word = true) :
    Capital row fields word := by
  have kept : Token.word word ∈ withoutCommas tokens := by simp [withoutCommas, member]
  rw [commas.withoutCommas_eq] at kept
  exact capital_of_mem_fileTokens sound (List.mem_filter.1 kept).1 capital

/-- The text of a printed file declares a struct or a member with the name of a builtin type exactly
where the type of the row or of the table is called `Result`. There are no other builtin types that
it could hide, since every word of the text with a capital letter is listed. -/
theorem shadowing_of_rust (tables : Tables) (row : String) (pairs : List (String × String))
    (succeeds : (ofGenerate tables .rust row pairs).result = .ok ()) :
    ∃ fields file tokens, PrintsFile tables row pairs fields file ∧
      readTokens (ofGenerate tables .rust row pairs).output = some tokens ∧
      file.DeclaredBy tokens ∧
      (∀ struct ∈ structsOf tokens, struct ∈ builtinTypes ↔ typeName row = "Result") ∧
      (∀ f ∈ fields, ∀ name, f.type = .table name →
        (∃ type, (escapeKeyword (snakeCase f.name), type) ∈ membersOf tokens) ∧
        ∀ type, (escapeKeyword (snakeCase f.name), type) ∈ membersOf tokens →
          (type.text ∈ builtinTypes ↔ typeName name = "Result")) ∧
      ∀ word, .word word ∈ tokens → isCapital word = true → Capital row fields word := by
  obtain ⟨fields, file, prints⟩ := exists_printsFile succeeds
  obtain ⟨tokens, read, commas, declared⟩ := prints.exists_tokens
  refine ⟨fields, file, tokens, prints, read, declared, ?_, ?_, ?_⟩
  · intro struct member
    rw [declared.structs, List.mem_singleton] at member
    rw [member, prints.row_eq, escapeKeyword_typeName prints.isIdentifier]
    split
    -- The struct of `Self` is called `Self_`, which is no builtin type either.
    · rename_i self
      rw [self]
      decide
    · exact mem_builtinTypes_iff prints.unreserved
  · intro f member name table
    have own := ((prints.sound f member).table name table).2
    refine ⟨⟨_, prints.mem_membersOf declared member⟩, ?_⟩
    intro type inMembers
    rw [declared.members] at inMembers
    obtain ⟨e, entry, same⟩ := List.mem_map.1 inMembers
    obtain ⟨named, rfl⟩ := Prod.mk.inj same
    rw [prints.eq_ofField member entry named, HostFile.Entry.host_ofField_table table]
    exact mem_builtinTypes_iff own
  · intro word
    exact capital_of_mem_tokens prints.sound commas

/-- A row and a table that hide none. -/
theorem shadowing_of_rust_order :
    let pairs := [("id", "uint64"), ("item", "table order_item")]
    let run := ofGenerate (.ofList ["order_item"]) .rust "order" pairs
    run.result = .ok () ∧
      ∃ fields file tokens, PrintsFile (.ofList ["order_item"]) "order" pairs fields file ∧
        readTokens run.output = some tokens ∧ file.DeclaredBy tokens ∧
        (∀ struct ∈ structsOf tokens, struct ∈ builtinTypes ↔ typeName "order" = "Result") ∧
        (∀ f ∈ fields, ∀ name, f.type = .table name →
          (∃ type, (escapeKeyword (snakeCase f.name), type) ∈ membersOf tokens) ∧
          ∀ type, (escapeKeyword (snakeCase f.name), type) ∈ membersOf tokens →
            (type.text ∈ builtinTypes ↔ typeName name = "Result")) ∧
        ∀ word, .word word ∈ tokens → isCapital word = true → Capital "order" fields word := by
  have accepted : resolveFields (Tables.ofList ["order_item"]).accepts
      [("id", "uint64"), ("item", "table order_item")] =
        .ok [⟨"id", .integer .unsigned ⟨8, by decide, by decide⟩⟩,
          ⟨"item", .table "order_item"⟩] := rfl
  have identifier : isIdentifier "order" = true := by decide
  have succeeds := result_of_accepted .rust identifier accepted (by decide)
  exact ⟨succeeds, shadowing_of_rust _ _ _ succeeds⟩

/-- The struct of the row `result` hides the type of what its own methods return. -/
theorem shadowing_result :
    ∃ tokens,
      readTokens (ofGenerate .empty .rust "result" [("id", "uint64")]).output = some tokens ∧
      structsOf tokens = ["Result"] ∧ "Result" ∈ builtinTypes ∧
      [Token.mark "->", .word "Result", .mark "<"] <:+: withoutCommas tokens := by
  have accepted : resolveFields Tables.empty.accepts [("id", "uint64")] =
      .ok [⟨"id", .integer .unsigned ⟨8, by decide, by decide⟩⟩] := rfl
  have identifier : isIdentifier "result" = true := by decide
  have succeeds := result_of_accepted .rust identifier accepted (by decide)
  obtain ⟨fields, file, prints⟩ := exists_printsFile succeeds
  obtain rfl := Except.ok.inj (accepted.symm.trans prints.resolved)
  obtain ⟨tokens, read, commas, declared⟩ := prints.exists_tokens
  refine ⟨tokens, read, ?_, by decide, ?_⟩
  -- The struct is the row's type, and the arrow stands in the signature of the encoder.
  · rw [declared.structs, prints.row_eq]
    decide
  · rw [commas.withoutCommas_eq]
    decide +kernel

end Run

end RowBindings
