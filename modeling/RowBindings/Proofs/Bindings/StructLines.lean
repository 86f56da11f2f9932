import RowBindings.Proofs.Bindings.Schema

/-!
# The lines of contract bindings

Contract bindings are a comment, a blank line and a struct with a line for each field. The type of a
parameter would say where its values live, which a member must not say. `ofGenerate_solidity` reads
the lines of a run that succeeds, and the words of each member's line: they are the member's type
and its name, so no location is among them.
-/

namespace RowBindings

open Text

/-! ## Cutting at marks -/

namespace Text

/-- The parts of a text between the marks in it. -/
def partsOf (mark : Char) (s : String) : List String :=
  (s.toList.splitOn mark).map String.ofList

/-- The lines of a text. What follows the last newline is a line too. -/
def linesOf (s : String) : List String := partsOf '\n' s

/-- The words of a line, which are empty where a space follows another. -/
def wordsOf (line : String) : List String := partsOf ' ' line

/-- Parts that hold no mark are found again. -/
theorem partsOf_intercalate {mark : Char} {parts : List String}
    (free : ∀ part ∈ parts, mark ∉ part.toList) (nonempty : parts ≠ []) :
    partsOf mark ((String.singleton mark).intercalate parts) = parts := by
  have found : (([mark] : List Char).intercalate (parts.map String.toList)).splitOn mark =
      parts.map String.toList :=
    List.splitOn_intercalate mark (by simpa using free) (by simpa using nonempty)
  rw [partsOf, String.toList_intercalate, String.toList_singleton, found, List.map_map]
  simp

end Text

/-! ## Types of members -/

namespace FieldType

/-- The type of a member: the canonical name of the field's type, and for a table the name of its
struct. -/
def memberType (t : FieldType) : String :=
  match t.kind with
  | .value | .bytes => t.name
  | .table => typeName t.name

/-- A type without the data location that it begins with, if any. -/
def withoutLocation (type : String) : String :=
  ((Descriptor.after? "memory ".toList type.toList).map String.ofList).getD type

/-- The type of a member is the type of its values without the data location. -/
theorem memberType_eq (t : FieldType) : t.memberType = t.solidityName := by
  cases t <;> rfl

/-- No type of a value begins like a location. -/
theorem head?_name_ne {t : FieldType} (stored : t.kind ≠ .table) :
    t.name.toList.head? ≠ some 'm' := by
  cases t with
  | table => exact absurd rfl stored
  | fixedBytes w => simp [name]
  | integer sign w => cases sign <;> simp [name, Signedness.keyword]
  | _ => decide

/-- A type that does not begin with an `m` has no location. -/
theorem withoutLocation_of_head? {type : String} (h : type.toList.head? ≠ some 'm') :
    withoutLocation type = type := by
  have other : Descriptor.after? "memory ".toList type.toList = none := by
    rw [Option.eq_none_iff_forall_ne_some]
    intro rest found
    rw [Descriptor.after?_eq_some_iff.1 found] at h
    exact h rfl
  rw [withoutLocation, other]
  rfl

/-- Without its location a type is that of the member. A table keeps whatever name it has, since one
location is taken away and no more. -/
theorem withoutLocation_solidityType (t : FieldType) :
    withoutLocation t.solidityType = t.memberType := by
  rw [memberType_eq, solidityType]
  split
  · rw [withoutLocation, Descriptor.after?_self]
    exact String.ofList_toList
  · rename_i inline
    -- Tables always have a location, so this type is stored and has a name of its own.
    have stored : t.kind ≠ .table := by
      intro table
      cases t with
      | table => exact inline rfl
      | _ => cases table
    rw [solidityName_eq_name stored]
    exact withoutLocation_of_head? (head?_name_ne stored)

end FieldType

/-- The type of a sound field's member is not a location. -/
theorem Field.memberType_ne_memory {f : Field} (sound : f.Sound) :
    f.type.memberType ≠ "memory" := by
  intro location
  rw [FieldType.memberType_eq] at location
  by_cases table : f.type.kind = .table
  · have capital := (f.isCapital_solidityName sound).2 table
    rw [location] at capital
    cases capital
  · rw [FieldType.solidityName_eq_name table] at location
    apply FieldType.head?_name_ne table
    rw [location]
    rfl

namespace ContractStruct

/-! ## Lines -/

/-- The line of a member, without its end. -/
def memberText (f : Field) : String :=
  "    " ++ f.type.memberType ++ " " ++ f.name ++ ";"

theorem memberLine_eq (f : Field) : memberLine f = memberText f ++ "\n" := by
  have last : ";\n" = ";" ++ "\n" := rfl
  rw [memberLine, memberText, FieldType.memberType_eq, last, ← String.append_assoc]

/-- The words of a member's line, of which the four spaces before it make four empty ones. -/
theorem wordsOf_memberText {f : Field} (sound : f.Sound) :
    wordsOf (memberText f) = ["", "", "", "", f.type.memberType, f.name ++ ";"] := by
  have type : ' ' ∉ f.type.memberType.toList := by
    rw [FieldType.memberType_eq]
    exact not_mem_of_isName (f.isName_solidityName sound) (by decide) (by decide)
  have name : ' ' ∉ f.name.toList :=
    not_mem_of_isName (isIdentifier_iff.1 sound.name).1.isName (by decide) (by decide)
  -- The four spaces in front count as empty words.
  have words : memberText f = (String.singleton ' ').intercalate
      ["", "", "", "", f.type.memberType, f.name ++ ";"] := by
    rw [← String.toList_inj]
    simp [memberText]
  rw [wordsOf, words, partsOf_intercalate]
  · simp [type, name]
  · simp

/-- No word of a member's line is a data location. -/
theorem memory_not_mem_wordsOf {f : Field} (sound : f.Sound) :
    "memory" ∉ wordsOf (memberText f) := by
  have name : "memory" ≠ f.name ++ ";" := by
    intro same
    have last := congrArg (fun s : String => s.toList.getLast?) same
    simp at last
  rw [wordsOf_memberText sound]
  simp [name, (f.memberType_ne_memory sound).symm]

/-- The line of a member of a sound field has no other line break. -/
theorem newline_not_mem_memberText {f : Field} (sound : f.Sound) :
    '\n' ∉ (memberText f).toList := by
  have type : '\n' ∉ f.type.memberType.toList := by
    rw [FieldType.memberType_eq]
    exact newline_not_mem_of_isName (f.isName_solidityName sound)
  have name : '\n' ∉ f.name.toList :=
    newline_not_mem_of_isName (isIdentifier_iff.1 sound.name).1.isName
  simp [memberText, type, name]

/-- Members that end their lines are lines before those that follow. -/
theorem join_members (fields : List Field) :
    String.join (fields.map memberLine) ++ "\x7d\n" =
      "\n".intercalate (fields.map memberText ++ ["\x7d", ""]) := by
  induction fields with
  | nil => rfl
  | cons f fields ih =>
    have rest : fields.map memberText ++ ["\x7d", ""] ≠ [] := by simp
    rw [List.map_cons, List.map_cons, List.cons_append, String.intercalate_cons_of_ne_nil rest,
      ← ih, memberLine_eq, String.join_cons, String.append_assoc]

/-- The lines of a struct named like a type. -/
theorem linesOf_text {name : String} {fields : List Field} (named : isName name = true)
    (sound : ∀ f ∈ fields, f.Sound) :
    linesOf (text name (fields.map memberLine)) =
      ["// " ++ generatedBy, "", "struct " ++ name ++ " \x7b"] ++ fields.map memberText
        ++ ["\x7d", ""] := by
  -- The text is an intercalation of lines, each of which has no line break.
  have lines : text name (fields.map memberLine) = (String.singleton '\n').intercalate
      (["// " ++ generatedBy, "", "struct " ++ name ++ " \x7b"] ++ fields.map memberText
        ++ ["\x7d", ""]) := by
    have members : fields.map memberText ++ ["\x7d", ""] ≠ [] := by simp
    rw [text_eq, join_members, List.append_assoc]
    generalize fields.map memberText ++ ["\x7d", ""] = rest at members
    rw [← String.toList_inj]
    simp [String.intercalate_cons_of_ne_nil members]
  rw [linesOf, lines, partsOf_intercalate]
  · rw [List.forall_mem_append, List.forall_mem_append, List.forall_mem_map]
    refine ⟨⟨?head, fun f member => newline_not_mem_memberText (sound f member)⟩, by decide⟩
    case head =>
      have header : '\n' ∉ generatedBy.toList := by decide
      simp [header, newline_not_mem_of_isName named]
  · simp

end ContractStruct

namespace Run

/-- What contract bindings say, line by line: a comment, a blank line, the head of a struct named
after the row, the members, and the end. Each field has one line, with the canonical name of its
type or, for a table, the name of the table's struct. Both are what is left of the field's type
without its data location, and no word of the line is a location. No two members have the same
name. -/
theorem ofGenerate_solidity (tables : Tables) (row : String) (pairs : List (String × String))
    (succeeds : (ofGenerate tables .solidity row pairs).result = .ok ()) :
    ∃ fields, resolveFields tables.accepts pairs = .ok fields ∧
      List.Forall₂ (Field.Declares tables.accepts) pairs fields ∧
      linesOf (ofGenerate tables .solidity row pairs).output =
        ["// " ++ generatedBy, "", "struct " ++ typeName row ++ " \x7b"]
          ++ fields.map ContractStruct.memberText ++ ["\x7d", ""] ∧
      (fields.map (·.name)).Nodup ∧
      ∀ f ∈ fields, FieldType.withoutLocation f.type.solidityType = f.type.memberType ∧
        wordsOf (ContractStruct.memberText f) =
          ["", "", "", "", f.type.memberType, f.name ++ ";"] ∧
        "memory" ∉ wordsOf (ContractStruct.memberText f) := by
  obtain ⟨fields, prints⟩ := exists_printsStruct succeeds
  obtain ⟨declared, named⟩ := resolveFields_eq_ok_iff.1 prints.resolved
  have sound := Field.sound_of_resolveFields prints.resolved
  have struct := isName_typeName (exists_resolved succeeds).1
  refine ⟨fields, prints.resolved, declared, ?lines, ?distinct, fun f member =>
    ⟨f.type.withoutLocation_solidityType, ContractStruct.wordsOf_memberText (sound f member),
      ContractStruct.memory_not_mem_wordsOf (sound f member)⟩⟩
  case lines =>
    rw [prints.output]
    exact ContractStruct.linesOf_text struct sound
  case distinct =>
    -- Names that differ in snake case differ.
    have snake := named.nodup.1
    rw [← Function.comp_def, ← List.map_map] at snake
    exact snake.of_map

/-- Four kinds of members, of which the last two would have a location elsewhere. -/
theorem ofGenerate_solidity_order :
    let pairs := [("id", "uint"), ("tag", "bytes4"), ("memo", "string"), ("item", "table order_item")]
    let run := ofGenerate (.ofList ["order_item"]) .solidity "order" pairs
    run.result = .ok () ∧
      linesOf run.output = ["// " ++ generatedBy, "", "struct Order \x7b", "    uint256 id;",
        "    bytes4 tag;", "    string memo;", "    OrderItem item;", "\x7d", ""] := by
  have accepted : resolveFields (Tables.ofList ["order_item"]).accepts
      [("id", "uint"), ("tag", "bytes4"), ("memo", "string"), ("item", "table order_item")] =
        .ok [⟨"id", .uint256⟩, ⟨"tag", .fixedBytes ⟨4, by decide, by decide⟩⟩, ⟨"memo", .string⟩,
          ⟨"item", .table "order_item"⟩] := rfl
  have succeeds := result_of_accepted .solidity (by decide : isIdentifier "order" = true) accepted
    (by decide)
  obtain ⟨fields, resolved, -, lines, -⟩ := ofGenerate_solidity _ _ _ succeeds
  obtain rfl := Except.ok.inj (accepted.symm.trans resolved)
  exact ⟨succeeds, lines.trans (by decide)⟩

end Run

end RowBindings
