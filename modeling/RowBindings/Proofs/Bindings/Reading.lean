import RowBindings.Proofs.Bindings.Outcome
import RowBindings.Proofs.Bindings.Pieces
import RowBindings.Proofs.Text.Printable

/-!
# What a file of host bindings says

`fileTokens` lists what a row and its fields should say in host code, token by token and without any
layout. `ofGenerate_rust` says that a generated file has these tokens and no others. On the way
there is one lemma for every line of the file, each about any sound field.
-/

namespace RowBindings

open Layout Text

namespace HostFile

open Token (mark word)

/-! ## What a file should say -/

/-- A member of the struct: the name in snake case, escaped, and the host type. -/
def memberTokens (f : Field) : List Token :=
  .word "pub" :: .word (escapeKeyword (snakeCase f.name)) :: .mark ":" :: typeTokens f.type.hostType

/-- The second argument of the routines: the constant of the same field, if a width is passed. -/
def widthTokens (f : Field) : List Token :=
  if f.type.codecWidth?.isSome then spaced ", Self ::" ++ [word (constantName f.name)] else []

/-- The method that writes a field. -/
def encoderTokens (f : Field) : List Token :=
  spaced "pub fn" ++ [word ("encode_" ++ snakeCase f.name)]
    ++ spaced "( & self ) -> Result < Vec < u8 > , codec :: Error > \x7b codec ::"
    ++ f.type.encoderName?.toList.map .word
    ++ spaced "( & self ." ++ [word (escapeKeyword (snakeCase f.name))] ++ widthTokens f
    ++ spaced ") \x7d"

/-- The method that reads a field. -/
def decoderTokens (f : Field) : List Token :=
  spaced "pub fn" ++ [word ("decode_" ++ snakeCase f.name)]
    ++ spaced "( data : & [ u8 ] ) -> Result <" ++ typeTokens f.type.hostType
    ++ spaced ", codec :: Error > \x7b codec ::"
    ++ f.type.decoderName?.toList.map .word
    ++ spaced "( data" ++ widthTokens f
    ++ spaced ") \x7d"

/-- The items of the impl for a field: the documented constant and, unless the field is a table, the
two methods. -/
def itemTokens (f : Field) : List Token :=
  docTokens false (sizeDoc f)
    ++ spaced "pub const" ++ [word (shoutySnakeCase f.name ++ "_SIZE")] ++ spaced ": usize ="
    ++ [word (decimal f.type.size), .mark ";"]
    ++ if f.type.kind = .table then [] else encoderTokens f ++ decoderTokens f

/-- A file: its attributes, the `use` item, the struct and the impl. -/
def fileTokens (row : String) (fields : List Field) : List Token :=
  let name := escapeKeyword (typeName row)
  docTokens true (" " ++ generatedBy)
    ++ spaced "# ! [ allow ( dead_code , unused_imports ) ]"
    ++ spaced "use dt_builtins :: \x7b codec , Address , Hash , U256 \x7d ;"
    ++ spaced "# [ derive ( Debug ) ] pub struct" ++ [word name, .mark "\x7b"]
    ++ [mark ","].intercalate (fields.map memberTokens) ++ [mark "\x7d"]
    ++ [word "impl", .word name, .mark "\x7b"] ++ fields.flatMap itemTokens ++ [mark "\x7d"]

/-! ## Fields -/

/-- The canonical name of a sound field's type can be written. -/
theorem isName_name {f : Field} (sound : f.Sound) : isName f.type.name = true := by
  have digits (n : Nat) : (decimal n).toList.all isNameContinue = true := by
    rw [List.all_eq_true]
    intro d member
    rw [decimal, String.toList_ofList] at member
    have digit := Nat.isDigit_of_mem_toDigits (by decide) (by decide) member
    exact Pending.isNameContinue_of_isDigit digit
  have table := sound.table
  -- Types with a size end in digits, which may continue a name but not begin it.
  cases type : f.type with
  | table name => exact (isIdentifier_iff.1 (table name type).1).1.isName
  | fixedBytes w => exact isName_append (by decide) (digits _)
  | integer sign w => exact isName_append (by cases sign <;> decide) (digits _)
  | _ => decide

/-- The documentation of a constant, with the field's name and the name of its type set apart. -/
theorem sizeDoc_eq (f : Field) :
    sizeDoc f =
      " Storage width of \x60" ++ (f.name ++ ("\x60 (\x60" ++ (f.type.name ++ "\x60)"))) := by
  show " Storage width of \x60" ++ f.name ++ "\x60 (\x60" ++ f.type.name ++ "\x60)" = _
  simp only [String.append_assoc]

/-- The documentation of a sound field's constant is one line. -/
theorem newline_not_mem_sizeDoc {f : Field} (sound : f.Sound) : '\n' ∉ (sizeDoc f).toList := by
  have name := newline_not_mem_of_isName (isIdentifier_iff.1 sound.name).1.isName
  have type := newline_not_mem_of_isName (isName_name sound)
  have before : '\n' ∉ " Storage width of \x60".toList := by decide
  have between : '\n' ∉ "\x60 (\x60".toList := by decide
  have after : '\n' ∉ "\x60)".toList := by decide
  exact newline_not_mem_append (newline_not_mem_append (newline_not_mem_append
    (newline_not_mem_append before name) between) type) after

/-- A documentation comment on one line is read as its attribute. -/
theorem line_comment {f : Field} (sound : f.Sound) :
    Line [.text (docComment (sizeDoc f))] (docTokens false (sizeDoc f)) := by
  have line := newline_not_mem_sizeDoc sound
  have written : docComment (sizeDoc f) = "///" ++ sizeDoc f := by
    have single : (sizeDoc f).toList.contains '\n' = false := by simpa using line
    rw [docComment, single]
    rfl
  have scanned : Pending.none.scan (docComment (sizeDoc f)).toList =
      some ([] ++ [], .comment (['/'] ++ (sizeDoc f).toList)) := by
    have begun : Pending.none.scan "///".toList = some ([], .comment ['/']) := by decide
    rw [written, String.toList_append]
    exact Pending.scan_append_of begun (Pending.scan_comment line)
  have closes : (Pending.comment (['/'] ++ (sizeDoc f).toList)).close? =
      some (docTokens false (sizeDoc f)) := by
    have blank : " Storage width of \x60".toList = ' ' :: "Storage width of \x60".toList := by
      decide
    -- The text begins with a space, so no fourth slash makes the comment a plain one.
    obtain ⟨rest, text⟩ : ∃ rest, (sizeDoc f).toList = ' ' :: rest := by
      rw [sizeDoc_eq, String.toList_append, blank]
      exact ⟨_, List.cons_append⟩
    rw [text]
    show some (docTokens false (String.ofList (' ' :: rest))) = _
    rw [← text, String.ofList_toList]
  have whole := Reads.text scanned closes
  exact ⟨_, whole⟩

theorem line_memberLine {f : Field} (sound : f.Sound) :
    Line (Entry.ofField f).memberLine (memberTokens f ++ [mark ","]) := by
  have member := Pending.isWord_escapeKeyword (identifierLike_snakeCase sound.name).isName
  obtain ⟨q, host⟩ := item_hostPieces (isWritable_hostType sound)
  have scanned : Pending.none.scan
      ("pub " ++ escapeKeyword (snakeCase f.name) ++ ": ").toList =
        some (([word "pub"] ++ []) ++ [word (escapeKeyword (snakeCase f.name)), .mark ":"],
          .none) := by
    have visible : Pending.none.scan "pub ".toList = some ([.word "pub"], .none) := by decide
    have colon : Pending.none.scan ": ".toList = some ([.mark ":"], .none) := by decide
    rw [String.toList_append, String.toList_append]
    apply Pending.scan_append_of (Pending.scan_append_of visible member.scan)
    exact Pending.scan_word_text member (by decide) colon
  have comma : Pending.none.scan ",".toList = some ([], .mark [',']) := by decide
  -- The type follows directly on the space, and the comma directly on the type.
  have typed := (Reads.text scanned rfl).append host.reads
  have whole := typed.append_text rfl host.endsComma comma rfl
  refine ⟨.mark [','], ?_⟩
  simpa [Entry.memberLine, Entry.ofField, memberTokens] using whole

theorem line_constant {f : Field} (sound : f.Sound) :
    Line [.text ("pub const " ++ constantName f.name ++ ": usize = " ++ decimal f.type.size ++ ";")]
      (spaced "pub const" ++ [word (constantName f.name)] ++ spaced ": usize ="
        ++ [word (decimal f.type.size), .mark ";"]) := by
  have constant := Pending.isWord_of_isName (identifierLike_constantName sound.name).isName
  have number := Pending.isWord_decimal f.type.size
  have head : Pending.none.scan "pub const ".toList = some (spaced "pub const", .none) := by decide
  have type : Pending.none.scan ": usize = ".toList = some (spaced ": usize =", .none) := by decide
  have last : Pending.none.scan ";".toList = some ([], .mark [';']) := by decide
  -- One word after the other, each ended by the space or mark behind it.
  have scanned : Pending.none.scan ("pub const " ++ constantName f.name ++ ": usize = " ++
      decimal f.type.size ++ ";").toList =
        some ((((spaced "pub const" ++ []) ++ word (constantName f.name) :: spaced ": usize =")
          ++ []) ++ [word (decimal f.type.size)], .mark [';']) := by
    simp only [String.toList_append]
    have named := Pending.scan_append_of (Pending.scan_append_of head constant.scan)
      (Pending.scan_word_text constant (by decide) type)
    exact Pending.scan_append_of (Pending.scan_append_of named number.scan)
      (Pending.scan_word_text number (by decide) last)
  have whole := Reads.text scanned rfl
  refine ⟨.mark [';'], ?_⟩
  simpa using whole

/-! ## Methods -/

/-- The arguments of a routine: the first, and the size constant if a width is passed. -/
theorem items_withWidth {f : Field} {m : Methods} {first : List Piece} {ts : List Token}
    {q : Pending} (sound : f.Sound) (passes : m.passesWidth = f.type.codecWidth?.isSome)
    (item : Item first ts q) (ends : q.ends ')' = true) :
    ∃ tss, Items ')' (first :: (Entry.ofField f).widthArgument m) tss ∧
      [mark ","].intercalate tss = ts ++ widthTokens f := by
  rw [Entry.widthArgument, passes, widthTokens]
  by_cases width : f.type.codecWidth?.isSome = true
  · rw [if_pos width, if_pos width]
    have constant := Pending.isWord_of_isName (identifierLike_constantName sound.name).isName
    have path : Pending.none.scan "Self::".toList = some ([.word "Self"], .mark [':', ':']) := by
      decide
    have scanned : Pending.none.scan ("Self::" ++ constantName f.name).toList =
        some ([word "Self"] ++ [mark "::"], .word (constantName f.name).toList) := by
      rw [String.toList_append]
      exact Pending.scan_append_of path (Pending.scan_mark_word constant)
    have begins : ("Self::" ++ constantName f.name).toList.head? = some 'S' := by
      rw [String.toList_append]
      rfl
    -- The constant is one item, although it is read as three tokens.
    have second := item_text scanned (Pending.close?_of_isWord constant) begins (by decide)
      (takesComma_word _) (Pending.ends_word (by decide) _) (Pending.ends_word (by decide) _)
    have comma : spaced ", Self ::" = [.mark ",", .word "Self", .mark "::"] := by decide
    refine ⟨_, .cons item (.last second (Pending.ends_word (by decide) _)), ?_⟩
    rw [List.intercalate_cons_cons, List.intercalate_singleton, comma]
    simp
  · rw [if_neg width, if_neg width]
    refine ⟨_, .last item ends, ?_⟩
    rw [List.intercalate_singleton, List.append_nil]

/-- The methods of a field whose type names the given routines. -/
def storedMethods (f : Field) (encode decode : String) : Methods :=
  ⟨encoderName f.name, decoderName f.name, encode, decode, f.type.codecWidth?.isSome⟩

/-- The method that writes a field, which may take several lines. -/
theorem line_encoder {f : Field} {encode : String} (decode : String) (sound : f.Sound)
    (named : f.type.encoderName? = some encode) :
    Line (methodPieces (encoderName f.name) "&self" (.vec "u8") (callPieces encode
      (memberPieces (escapeKeyword (snakeCase f.name)) ::
        (Entry.ofField f).widthArgument (storedMethods f encode decode))))
      (encoderTokens f) := by
  have routine : Pending.IsWord encode := by
    apply Pending.isWord_of_isName
    apply FieldType.isName_routine (t := f.type)
    rw [named]
    exact List.mem_cons_self
  have parameter : Item [Piece.text "&self"] ([mark "&"] ++ [word "self"]) (.word "self".toList) :=
    item_text (c := '&') (by decide) (by decide) rfl rfl rfl rfl rfl
  have snake := (identifierLike_snakeCase sound.name).isName
  have member := item_memberPieces (Pending.isWord_escapeKeyword snake)
  obtain ⟨tss, items, joined⟩ := items_withWidth (m := storedMethods f encode decode) sound rfl
    member (Pending.ends_word (by decide) _)
  have call := reads_callPieces routine items
  rw [joined] at call
  -- The signature and the call make a method; what remains is to cut its tokens at their seams.
  have bytes : isWritable (.vec "u8") = true := by decide
  have name := (identifierLike_encoderName sound.name).isName
  have whole := reads_methodPieces (Pending.isWord_of_isName name)
    (.last parameter (by decide)) bytes ⟨_, call⟩
  have signature : spaced "( & self ) -> Result < Vec < u8 > , codec :: Error > \x7b codec ::" =
      mark "(" :: ([mark "&"] ++ [word "self"]) ++ spaced ") -> Result <" ++
        typeTokens (.vec "u8") ++ spaced ", codec :: Error > \x7b" ++ spaced "codec ::" := by
    decide +kernel
  have argument : spaced "( & self ." = .mark "(" :: spaced "& self ." := by decide
  have close : spaced ") \x7d" = [.mark ")", .mark "\x7d"] := by decide
  rw [encoderTokens, named, signature, argument, close]
  simpa [encoderName] using whole

theorem line_decoder {f : Field} {decode : String} (encode : String) (sound : f.Sound)
    (named : f.type.decoderName? = some decode) :
    Line (methodPieces (decoderName f.name) "data: &[u8]" f.type.hostType (callPieces decode
      ([.text "data"] :: (Entry.ofField f).widthArgument (storedMethods f encode decode))))
      (decoderTokens f) := by
  have routine : Pending.IsWord decode := by
    apply Pending.isWord_of_isName
    apply FieldType.isName_routine (t := f.type)
    rw [named]
    exact List.mem_append_right _ List.mem_cons_self
  have parameter : Item [Piece.text "data: &[u8]"] (spaced "data : & [ u8" ++ [mark "]"])
      (.mark [']']) :=
    item_text (c := 'd') (by decide) (by decide) rfl rfl rfl rfl rfl
  have data : Item [.text "data"] [.word "data"] (.word "data".toList) := item_name (by decide)
  obtain ⟨tss, items, joined⟩ := items_withWidth (m := storedMethods f encode decode) sound rfl
    data (by decide)
  have call := reads_callPieces routine items
  rw [joined] at call
  have name := (identifierLike_decoderName sound.name).isName
  have whole := reads_methodPieces (Pending.isWord_of_isName name)
    (.last parameter (by decide)) (isWritable_hostType sound) ⟨_, call⟩
  -- The signature is cut where its parts were joined.
  have signature : spaced "( data : & [ u8 ] ) -> Result <" =
      mark "(" :: (spaced "data : & [ u8" ++ [mark "]"]) ++ spaced ") -> Result <" := by
    decide +kernel
  have body : spaced ", codec :: Error > \x7b codec ::" =
      spaced ", codec :: Error > \x7b" ++ spaced "codec ::" := by decide +kernel
  have argument : spaced "( data" = [.mark "(", .word "data"] := by decide
  have close : spaced ") \x7d" = [.mark ")", .mark "\x7d"] := by decide
  rw [decoderTokens, named, signature, body, argument, close]
  simpa [decoderName] using whole

/-- A field that is no table has the two methods. -/
theorem exists_methods {f : Field} (stored : f.type.kind ≠ .table) :
    ∃ encode decode, f.type.encoderName? = some encode ∧ f.type.decoderName? = some decode ∧
      Methods.ofField? f = some (storedMethods f encode decode) := by
  obtain ⟨c, storage⟩ := FieldType.exists_storage stored
  have encode := FieldType.encoderName?_eq storage
  have decode := FieldType.decoderName?_eq storage
  refine ⟨_, _, encode, decode, ?_⟩
  rw [Methods.ofField?, encode, decode]
  cases kind : f.type.kind with
  | table => exact absurd kind stored
  | value => rfl
  | bytes => rfl

/-- The comment and the constant of a field stand before its methods, if it has any. -/
theorem implLines_ofField (f : Field) :
    (Entry.ofField f).implLines =
      [Piece.text (docComment (sizeDoc f))] ::
        [Piece.text
          ("pub const " ++ constantName f.name ++ ": usize = " ++ decimal f.type.size ++ ";")] ::
        ((Methods.ofField? f).map (Entry.ofField f).methodLines).getD [] := rfl

/-- The lines of a field in the impl. -/
theorem lines_implLines {f : Field} (sound : f.Sound) :
    ∃ tss, List.Forall₂ Line (Entry.ofField f).implLines tss ∧ tss.flatten = itemTokens f := by
  have comment := line_comment sound
  have constant := line_constant sound
  -- A table has the comment and the constant only.
  by_cases table : f.type.kind = .table
  · have own : Methods.ofField? f = none := by
      rw [Methods.ofField?, table]
    rw [implLines_ofField, own, Option.map_none, Option.getD_none]
    refine ⟨_, .cons comment (.cons constant .nil), ?_⟩
    rw [itemTokens, if_pos table]
    simp [constantName]
  · obtain ⟨encode, decode, encodes, decodes, own⟩ := exists_methods table
    have encoder := line_encoder decode sound encodes
    have decoder := line_decoder encode sound decodes
    have methods : (Entry.ofField f).methodLines (storedMethods f encode decode) =
        [methodPieces (encoderName f.name) "&self" (.vec "u8") (callPieces encode
          (memberPieces (escapeKeyword (snakeCase f.name)) ::
            (Entry.ofField f).widthArgument (storedMethods f encode decode))),
         methodPieces (decoderName f.name) "data: &[u8]" f.type.hostType (callPieces decode
          ([.text "data"] ::
            (Entry.ofField f).widthArgument (storedMethods f encode decode)))] := by
      rw [Entry.methodLines, storedMethods, Entry.ofField]
    rw [implLines_ofField, own, Option.map_some, Option.getD_some, methods]
    refine ⟨_, .cons comment (.cons constant (.cons encoder (.cons decoder .nil))), ?_⟩
    rw [itemTokens, if_neg table]
    simp [constantName]

/-! ## The file -/

/-- What a file says, with a comma after every member. -/
def rawTokens (row : String) (fields : List Field) : List Token :=
  let name := escapeKeyword (typeName row)
  docTokens true (" " ++ generatedBy)
    ++ spaced "# ! [ allow ( dead_code , unused_imports ) ]"
    ++ spaced "use dt_builtins :: \x7b codec , Address , Hash , U256 \x7d ;"
    ++ spaced "# [ derive ( Debug ) ] pub struct" ++ [word name, .mark "\x7b"]
    ++ fields.flatMap (memberTokens · ++ [mark ","]) ++ [mark "\x7d"]
    ++ [word "impl", .word name, .mark "\x7b"] ++ fields.flatMap itemTokens ++ [mark "\x7d"]

/-- Members end in a token that a comma may follow. -/
theorem memberTokens_eq (f : Field) :
    ∃ (ts : List Token) (t : Token), memberTokens f = ts ++ [t] ∧ t ≠ mark "," := by
  -- A member ends in its type, that is in a name or in a closing angle bracket.
  cases host : f.type.hostType with
  | named name =>
    refine ⟨[.word "pub", .word (escapeKeyword (snakeCase f.name)), .mark ":"], .word name, ?_, ?_⟩
    · rw [memberTokens, host]
      rfl
    · simp
  | vec element =>
    refine ⟨[word "pub", .word (escapeKeyword (snakeCase f.name)), .mark ":"] ++
      (spaced "Vec <" ++ [word element]), .mark ">", ?_, by decide⟩
    rw [memberTokens, host, typeTokens]
    simp

/-- Of the commas after the members, only the last may be left out: it stands before the brace. -/
theorem upToCommas_members (fields : List Field) (rest : List Token) :
    UpToCommas (fields.flatMap (memberTokens · ++ [mark ","]) ++ mark "\x7d" :: rest)
      ([mark ","].intercalate (fields.map memberTokens) ++ mark "\x7d" :: rest) := by
  induction fields with
  | nil => exact .refl _
  | cons f fields ih =>
    cases fields with
    | nil =>
      obtain ⟨ts, t, member, other⟩ := memberTokens_eq f
      have last : UpToCommas (t :: .mark "," :: .mark "\x7d" :: rest) (t :: .mark "\x7d" :: rest) :=
        .comma other rfl (.refl _)
      have whole := last.append_left ts
      simpa [member] using whole
    | cons g fields =>
      -- The comma after `f` stands before another member and stays.
      have whole := ih.append_left (memberTokens f ++ [mark ","])
      rw [List.map_cons, List.map_cons, List.intercalate_cons_cons]
      simpa using whole

/-- So a file says the same with a comma after its last member and without. -/
theorem upToCommas_rawTokens (row : String) (fields : List Field) :
    UpToCommas (rawTokens row fields) (fileTokens row fields) := by
  -- The two differ among the members only, so what stands around them is put back.
  have members := upToCommas_members fields
    ([word "impl", .word (escapeKeyword (typeName row)), .mark "\x7b"] ++
      fields.flatMap itemTokens ++ [mark "\x7d"])
  have whole := members.append_left
    (docTokens true (" " ++ generatedBy)
      ++ spaced "# ! [ allow ( dead_code , unused_imports ) ]"
      ++ spaced "use dt_builtins :: \x7b codec , Address , Hash , U256 \x7d ;"
      ++ spaced "# [ derive ( Debug ) ] pub struct"
      ++ [word (escapeKeyword (typeName row)), .mark "\x7b"])
  simpa only [rawTokens, fileTokens, List.append_assoc, List.cons_append, List.nil_append]
    using whole

/-- The lines of a file are read one by one. -/
theorem tokensFrom_file {lines : List (List Piece)} {tss : List (List Token)}
    (h : List.Forall₂ Line lines tss) :
    tokensFrom .none (lines.flatMap (· ++ [Piece.hard 0])) = some tss.flatten := by
  induction h with
  | nil => rfl
  | @cons line ts lines tss reads _ ih =>
    obtain ⟨q, closed, closes, read⟩ := reads
    rw [List.flatMap_cons, List.flatten_cons, List.append_assoc]
    exact read _ _ (tokensFrom_hard closes ih)

/-- A line of its own, given what it is read as from its first character to its last. -/
theorem line_text {s : String} {ts : List Token} (read : readTokens s = some ts) :
    Line [.text s] ts := by
  rw [readTokens, Pending.read?] at read
  obtain ⟨⟨before, q⟩, scanned, read⟩ := Option.bind_eq_some_iff.1 read
  obtain ⟨closed, closes, rfl⟩ := Option.map_eq_some_iff.1 read
  exact ⟨q, .text scanned closes⟩

/-- The lines above the struct, and those that follow them. -/
theorem lines_header {lines : List (List Piece)} {tss : List (List Token)}
    (h : List.Forall₂ Line lines tss) :
    List.Forall₂ Line
      ([.text ("//! " ++ generatedBy)] ::
       [.text "#![allow(dead_code, unused_imports)]"] ::
       [.text "use dt_builtins::\x7bcodec, Address, Hash, U256\x7d;"] ::
       [.text "#[derive(Debug)]"] :: lines)
      (docTokens true (" " ++ generatedBy) ::
       spaced "# ! [ allow ( dead_code , unused_imports ) ]" ::
       spaced "use dt_builtins :: \x7b codec , Address , Hash , U256 \x7d ;" ::
       spaced "# [ derive ( Debug ) ]" :: tss) := by
  -- These lines are the same in every file, so reading them is a computation.
  have made : readTokens ("//! " ++ generatedBy) = some (docTokens true (" " ++ generatedBy)) := by
    decide +kernel
  have allow : readTokens "#![allow(dead_code, unused_imports)]" =
      some (spaced "# ! [ allow ( dead_code , unused_imports ) ]") := by
    decide +kernel
  have imports : readTokens "use dt_builtins::\x7bcodec, Address, Hash, U256\x7d;" =
      some (spaced "use dt_builtins :: \x7b codec , Address , Hash , U256 \x7d ;") := by
    decide +kernel
  have derive : readTokens "#[derive(Debug)]" = some (spaced "# [ derive ( Debug ) ]") := by
    decide +kernel
  exact .cons (line_text made) (.cons (line_text allow) (.cons (line_text imports)
    (.cons (line_text derive) h)))

/-- A block whose head is a word after a keyword and a space. -/
theorem line_block {name : String} {lines : List (List Piece)} {tss : List (List Token)}
    (keyword : String) {ts : List Token} (h : Pending.IsWord name)
    (scanned : Pending.none.scan keyword.toList = some (ts, .none))
    (inside : List.Forall₂ Line lines tss) :
    Line (block [.text (keyword ++ name)] lines)
      (ts ++ [word name, .mark "\x7b"] ++ tss.flatten ++ [mark "\x7d"]) := by
  have head : Pending.none.scan (keyword ++ name).toList = some (ts ++ [], .word name.toList) := by
    rw [String.toList_append]
    exact Pending.scan_append_of scanned h.scan
  have whole := reads_block (.text head (Pending.close?_of_isWord h))
    (Pending.ends_word (by decide) _) inside
  refine ⟨.mark ['\x7d'], ?_⟩
  simpa using whole

/-- The lines of sound fields in the struct. -/
theorem lines_members {fields : List Field} (sound : ∀ f ∈ fields, f.Sound) :
    List.Forall₂ Line ((fields.map Entry.ofField).map Entry.memberLine)
      (fields.map (memberTokens · ++ [mark ","])) := by
  induction fields with
  | nil => exact .nil
  | cons f fields ih =>
    have others := ih fun g later => sound g (List.mem_cons_of_mem f later)
    exact .cons (line_memberLine (sound f List.mem_cons_self)) others

/-- The lines of sound fields in the impl. -/
theorem lines_items {fields : List Field} (sound : ∀ f ∈ fields, f.Sound) :
    ∃ tss, List.Forall₂ Line ((fields.map Entry.ofField).flatMap Entry.implLines) tss ∧
      tss.flatten = fields.flatMap itemTokens := by
  induction fields with
  | nil => exact ⟨[], .nil, rfl⟩
  | cons f fields ih =>
    obtain ⟨later, reads, others⟩ := ih fun g later => sound g (List.mem_cons_of_mem f later)
    obtain ⟨first, own, item⟩ := lines_implLines (sound f List.mem_cons_self)
    refine ⟨first ++ later, ?_, ?_⟩
    · rw [List.map_cons, List.flatMap_cons]
      exact List.rel_append own reads
    · rw [List.flatten_append, item, others, List.flatMap_cons]

/-- The file of sound fields is read as its tokens. -/
theorem lines_ofRow {row : String} {fields : List Field}
    (identifier : isIdentifier row = true) (sound : ∀ f ∈ fields, f.Sound) :
    ∃ tss, List.Forall₂ Line (HostFile.lines
      ⟨escapeKeyword (typeName row), fields.map Entry.ofField⟩) tss ∧
        tss.flatten = rawTokens row fields := by
  have name := Pending.isWord_escapeKeyword (isName_typeName identifier)
  obtain ⟨tss, items, same⟩ := lines_items sound
  have visible : Pending.none.scan "pub struct ".toList = some (spaced "pub struct", .none) := by
    decide
  have head : Pending.none.scan "impl ".toList = some ([.word "impl"], .none) := by decide
  have struct := line_block "pub struct " name visible (lines_members sound)
  have impl := line_block "impl " name head items
  have whole := lines_header (.cons struct (.cons impl .nil))
  dsimp only [HostFile.lines]
  refine ⟨_, whole, ?_⟩
  -- The attribute stands on a line of its own, but it is listed with the words behind it.
  have derive : spaced "# [ derive ( Debug ) ] pub struct" =
      spaced "# [ derive ( Debug ) ]" ++ spaced "pub struct" := by decide +kernel
  rw [same, rawTokens, derive]
  simp [← List.flatMap_def]

end HostFile

namespace Run

open HostFile Layout

/-- The text of a run that succeeds is read as the tokens of the fields that the row resolves to. -/
theorem exists_readTokens {tables : Tables} {row : String} {pairs : List (String × String)}
    {fields : List Field} (succeeds : (ofGenerate tables .rust row pairs).result = .ok ())
    (resolved : resolveFields tables.accepts pairs = .ok fields) :
    ∃ tokens, readTokens (ofGenerate tables .rust row pairs).output = some tokens ∧
      UpToCommas tokens (fileTokens row fields) := by
  obtain ⟨identifier, others, accepted, written⟩ := exists_resolved succeeds
  obtain rfl := Except.ok.inj (resolved.symm.trans accepted)
  have sound := Field.sound_of_resolveFields resolved
  obtain ⟨tss, reads, same⟩ := lines_ofRow identifier sound
  -- The pieces have the tokens of the fields, and every layout has the tokens of the pieces.
  have pieces := tokensFrom_file reads
  rw [same] at pieces
  obtain ⟨tokens, read, commas⟩ := read?_write pieces (.start page) (.inl rfl)
  refine ⟨tokens, ?_, commas.trans (upToCommas_rawTokens row fields)⟩
  unfold generate at written
  split at written
  · cases written
  rw [ofRow_eq_ok identifier sound (resolveFields_eq_ok_iff.1 resolved).2] at written
  obtain output := Except.ok.inj written
  rw [← output, readTokens, text, render, String.toList_ofList]
  exact read

/-- However long its names are and wherever lines are broken, a generated file of host bindings is
read as the tokens of the declared fields and no others, up to commas before closing delimiters. -/
theorem ofGenerate_rust (tables : Tables) (row : String) (pairs : List (String × String))
    (succeeds : (ofGenerate tables .rust row pairs).result = .ok ()) :
    ∃ fields tokens, resolveFields tables.accepts pairs = .ok fields ∧
      List.Forall₂ (Field.Declares tables.accepts) pairs fields ∧
      readTokens (ofGenerate tables .rust row pairs).output = some tokens ∧
      UpToCommas tokens (fileTokens row fields) := by
  obtain ⟨-, fields, resolved, -⟩ := exists_resolved succeeds
  obtain ⟨tokens, read, commas⟩ := exists_readTokens succeeds resolved
  exact ⟨fields, tokens, resolved, (resolveFields_eq_ok_iff.1 resolved).1, read, commas⟩

/-- A row and a field whose names become keywords, a table, and a type that passes its width. -/
theorem ofGenerate_rust_self :
    let pairs := [("Type", "bytes4"), ("owner", "table user")]
    let run := ofGenerate (.ofList ["user"]) .rust "self_" pairs
    run.result = .ok () ∧
      ∃ fields tokens, resolveFields (Tables.ofList ["user"]).accepts pairs = .ok fields ∧
        List.Forall₂ (Field.Declares (Tables.ofList ["user"]).accepts) pairs fields ∧
        readTokens run.output = some tokens ∧ UpToCommas tokens (fileTokens "self_" fields) := by
  have accepted : resolveFields (Tables.ofList ["user"]).accepts
      [("Type", "bytes4"), ("owner", "table user")] =
        .ok [⟨"Type", .fixedBytes ⟨4, by decide, by decide⟩⟩, ⟨"owner", .table "user"⟩] := rfl
  have identifier : isIdentifier "self_" = true := by decide
  have own : isReservedTypeName "self_" = false := by decide
  have succeeds : (ofGenerate (.ofList ["user"]) .rust "self_"
      [("Type", "bytes4"), ("owner", "table user")]).result = .ok () := by
    rw [result_ofGenerate, accepted, identifier, own]
    rfl
  exact ⟨succeeds, ofGenerate_rust _ _ _ succeeds⟩

end Run

end RowBindings
