import RowBindings.Proofs.Bindings.Reading
import RowBindings.Proofs.Identifier.Keyword

/-!
# What a file of host bindings declares

Host code brings in a name behind one of the words `struct`, `const` and `fn`, and the member of a
struct between `pub` and a colon. `declarationsOf` goes through the tokens of a text and lists the
names that are brought in so, wherever they stand. `declaredBy_of_upToCommas` says what a generated
file declares: one struct, a member for each field, and the items of the fields. Every other token
is silent, as none of the names that a row or a field gives is one of those words.
-/

namespace RowBindings.HostFile

open Text
open Token (mark word)

/-! ## Declarations -/

/-- A name that host code brings in. -/
inductive Declaration
  | struct (name : String)
  /-- The member of a struct. -/
  | member (name : String) (type : HostType)
  /-- A constant or a method. -/
  | item (name : String)
  deriving DecidableEq

/-- What a keyword makes of the name after it. -/
def Declaration.behind? : (keyword : String) → Option (String → Declaration)
  | "struct" => some .struct
  | "const" | "fn" => some .item
  | _ => none

def typeAt? : List Token → Option HostType
  | .word "Vec" :: .mark "<" :: .word element :: .mark ">" :: _ => some (.vec element)
  | .word name :: _ => some (.named name)
  | _ => none

def declarationAt? : List Token → Option Declaration
  | .word "pub" :: .word name :: .mark ":" :: rest => (typeAt? rest).map (.member name)
  | .word keyword :: .word name :: _ => (Declaration.behind? keyword).map (· name)
  | _ => none

/-- The declarations among tokens that have no commas. -/
def declarationsFrom : List Token → List Declaration
  | [] => []
  | t :: rest => (declarationAt? (t :: rest)).toList ++ declarationsFrom rest

/-- What the tokens of a text declare, in order. Commas may come and go with the layout of the text,
so they do not count. -/
def declarationsOf (tokens : List Token) : List Declaration :=
  declarationsFrom (withoutCommas tokens)

/-! ## Silent tokens -/

/-- The words that can begin a declaration. -/
def introducers : List String := ["struct", "const", "fn", "pub"]

/-- Whether a token begins no declaration, whatever follows it. -/
def isSilent : Token → Bool
  | .word w => !introducers.contains w
  | _ => true

/-- No declaration begins with a silent token. -/
theorem declarationAt?_of_silent {t : Token} (silent : isSilent t = true) (rest : List Token) :
    declarationAt? (t :: rest) = none := by
  cases t with
  | mark s => rfl
  | text s => rfl
  | word w =>
    have other : w ∉ introducers := by simpa [isSilent] using silent
    simp only [introducers, List.mem_cons, List.not_mem_nil, or_false, not_or] at other
    obtain ⟨struct, const, fn, pub⟩ := other
    unfold declarationAt?
    split
    · rename_i begins
      exact absurd (Token.word.inj (List.cons.inj begins).1) pub
    · rename_i begins
      obtain rfl := Token.word.inj (List.cons.inj begins).1
      have nothing : Declaration.behind? w = none := by
        unfold Declaration.behind?
        split <;> first | contradiction | rfl
      rw [nothing]
      rfl
    · rfl

/-- A silent token may be left out. -/
theorem declarationsOf_cons_of_silent {t : Token} (silent : isSilent t = true)
    (rest : List Token) : declarationsOf (t :: rest) = declarationsOf rest := by
  rw [declarationsOf, declarationsOf, withoutCommas, withoutCommas, List.filter_cons]
  split
  · rw [declarationsFrom, declarationAt?_of_silent silent]
    rfl
  · rfl

/-- So may several of them. -/
theorem declarationsOf_append_of_silent {ts : List Token} (silent : ts.all isSilent = true)
    (rest : List Token) : declarationsOf (ts ++ rest) = declarationsOf rest := by
  induction ts with
  | nil => rfl
  | cons t ts ih =>
    rw [List.all_cons, Bool.and_eq_true] at silent
    rw [List.cons_append, declarationsOf_cons_of_silent silent.1, ih silent.2]

/-- A keyword declares the name after it. -/
theorem declarationsOf_keyword {keyword : String} {make : String → Declaration}
    (makes : Declaration.behind? keyword = some make) (name : String) (rest : List Token) :
    declarationsOf (word "pub" :: word keyword :: word name :: rest) =
      make name :: declarationsOf (word name :: rest) := by
  have kept (tokens : List Token) : withoutCommas (word name :: tokens) =
      word name :: withoutCommas tokens := by simp [withoutCommas]
  have commas : withoutCommas (word "pub" :: word keyword :: word name :: rest) =
      word "pub" :: word keyword :: word name :: withoutCommas rest := by simp [withoutCommas]
  have declared : declarationAt? (word keyword :: word name :: withoutCommas rest) =
      some (make name) := by
    unfold declarationAt?
    split
    · rename_i begins
      obtain rfl := Token.word.inj (List.cons.inj begins).1
      cases makes
    · rename_i begins
      obtain ⟨first, later⟩ := List.cons.inj begins
      obtain rfl := Token.word.inj first
      obtain rfl := Token.word.inj (List.cons.inj later).1
      rw [makes]
      rfl
    · rename_i none
      exact absurd rfl (none _ _ _)
  rw [declarationsOf, declarationsOf, commas, kept, declarationsFrom, declarationsFrom, declared]
  rfl

/-! ## Silent words -/

/-- A word that differs from all introducers in some way is silent. -/
theorem isSilent_word (p : String → Bool) (none : ∀ k ∈ introducers, p k = false) {w : String}
    (differs : p w = true) : isSilent (.word w) = true := by
  have other : w ∉ introducers := by
    intro member
    rw [none w member] at differs
    cases differs
  simpa [isSilent] using other

/-- The introducers are written small. -/
theorem isSilent_of_isCapital {w : String} (capital : isCapital w = true) :
    isSilent (.word w) = true :=
  isSilent_word isCapital (by decide) capital

/-- A word with a character that no introducer has is silent. -/
theorem isSilent_of_contains {w : String} {c : Char} (member : c ∈ w.toList)
    (none : ∀ k ∈ introducers, k.toList.contains c = false) : isSilent (.word w) = true :=
  isSilent_word (·.toList.contains c) none (List.contains_iff_mem.2 member)

/-- A number is no introducer. -/
theorem isSilent_decimal (n : Nat) : isSilent (.word (decimal n)) = true := by
  refine isSilent_word (·.toList.all Char.isDigit) (by decide) (List.all_eq_true.2 ?_)
  intro d member
  rw [decimal, String.toList_ofList] at member
  exact Nat.isDigit_of_mem_toDigits (by decide) (by decide) member

/-- The introducers are keywords, so a member that has one for its name is written raw. -/
theorem isSilent_of_isMemberName {w : String} (legal : IsMemberName w) :
    isSilent (.word w) = true := by
  rcases legal with identifier | ⟨k, -, -, rfl⟩
  · refine isSilent_word (!isKeyword ·) (by decide) ?_
    rw [(isIdentifier_iff.1 identifier).2]
    rfl
  · have hash : '#' ∈ ("r#" ++ k).toList := by
      rw [String.toList_append]
      exact List.mem_append_left _ (by decide)
    exact isSilent_of_contains hash (by decide)

/-! ## Fields -/

variable {f : Field}

/-- The member of a field is silent even if the field is called `struct` or `fn`. -/
theorem isSilent_member (sound : f.Sound) :
    isSilent (.word (escapeKeyword (snakeCase f.name))) = true :=
  isSilent_of_isMemberName (isMemberName_escapeKeyword (identifierLike_snakeCase sound.name))

theorem isSilent_constantName (f : Field) : isSilent (.word (constantName f.name)) = true :=
  isSilent_of_contains (underscore_mem_append _ _ (by decide)) (by decide)

/-- The names of methods and routines begin with a verb and an underscore. -/
theorem isSilent_verb {verb : String} (ends : '_' ∈ verb.toList) (name : String) :
    isSilent (.word (verb ++ name)) = true := by
  refine isSilent_of_contains (c := '_') ?_ (by decide)
  rw [String.toList_append]
  exact List.mem_append_left _ ends

theorem silent_routine {verb : String} (ends : '_' ∈ verb.toList) (suffix? : Option String) :
    ((suffix?.map (verb ++ ·)).toList.map word).all isSilent = true := by
  cases suffix? with
  | none => rfl
  | some suffix =>
    show ([word (verb ++ suffix)]).all isSilent = true
    rw [List.all_cons, isSilent_verb ends]
    rfl

/-- The type of a field is silent. Of a table it begins with a capital letter; the types without one
are known. -/
theorem silent_typeTokens (sound : f.Sound) :
    (typeTokens f.type.hostType).all isSilent = true := by
  have fixed : (typeTokens (.vec "u8")).all isSilent = true := by decide +kernel
  cases type : f.type with
  | table name =>
    have capital := (typeName_spelling (sound.table name type).1).2
    show [word (typeName name)].all isSilent = true
    rw [List.all_cons, isSilent_of_isCapital capital]
    rfl
  | integer sign width =>
    -- The name of a machine word begins with the letter of its sign.
    have silent : isSilent (.word (sign.wordName width.bits)) = true := by
      refine isSilent_word (fun w => w.toList.head?.any "ui".toList.contains) (by decide) ?_
      rw [Signedness.wordName, String.toList_append]
      cases sign <;> rfl
    show [word (sign.wordName width.bits)].all isSilent = true
    rw [List.all_cons, silent]
    rfl
  | bytes => exact fixed
  | fixedBytes width => exact fixed
  | _ => decide +kernel

theorem silent_widthTokens (f : Field) : (widthTokens f).all isSilent = true := by
  have path : (spaced ", Self ::").all isSilent = true := by decide +kernel
  rw [widthTokens]
  split
  · rw [List.all_append, path, List.all_cons, isSilent_constantName]
    rfl
  · rfl

theorem silent_docTokens (inner : Bool) (doc : String) :
    (docTokens inner doc).all isSilent = true := by
  cases inner <;> rfl

/-! ## Members -/

theorem typeTokens_vec (element : String) :
    typeTokens (.vec element) = [word "Vec", mark "<", word element, mark ">"] := by
  have opening : spaced "Vec <" = [word "Vec", mark "<"] := by decide
  rw [typeTokens, opening]
  rfl

/-- A type is read back unless type arguments seem to follow it. -/
theorem typeAt?_typeTokens (host : HostType) {rest : List Token}
    (next : rest.head? ≠ some (mark "<")) : typeAt? (typeTokens host ++ rest) = some host := by
  cases host with
  | vec element =>
    rw [typeTokens_vec]
    rfl
  | named name =>
    show typeAt? (word name :: rest) = _
    unfold typeAt?
    split
    · rename_i begins
      rw [(List.cons.inj begins).2] at next
      exact absurd rfl next
    · rename_i begins
      rw [Token.word.inj (List.cons.inj begins).1]
    · rename_i none
      exact absurd rfl (none _ _)

theorem withoutCommas_typeTokens (host : HostType) (rest : List Token) :
    withoutCommas (typeTokens host ++ rest) = typeTokens host ++ withoutCommas rest := by
  cases host with
  | vec element => simp [typeTokens_vec, withoutCommas]
  | named name => simp [typeTokens, withoutCommas]

/-- A member declares its name and type, if no type arguments seem to follow it. -/
theorem declarationsOf_memberTokens (sound : f.Sound) {rest : List Token}
    (next : (withoutCommas rest).head? ≠ some (mark "<")) :
    declarationsOf (memberTokens f ++ rest) =
      .member (escapeKeyword (snakeCase f.name)) f.type.hostType :: declarationsOf rest := by
  have silent : declarationsOf (word (escapeKeyword (snakeCase f.name)) :: mark ":" ::
      (typeTokens f.type.hostType ++ rest)) = declarationsOf rest := by
    rw [declarationsOf_cons_of_silent (isSilent_member sound), declarationsOf_cons_of_silent rfl,
      declarationsOf_append_of_silent (silent_typeTokens sound)]
  have commas : withoutCommas (memberTokens f ++ rest) =
      word "pub" :: word (escapeKeyword (snakeCase f.name)) :: mark ":" ::
        (typeTokens f.type.hostType ++ withoutCommas rest) := by
    rw [← withoutCommas_typeTokens]
    simp [memberTokens, withoutCommas]
  have declared : declarationAt? (withoutCommas (memberTokens f ++ rest)) =
      some (.member (escapeKeyword (snakeCase f.name)) f.type.hostType) := by
    rw [commas, declarationAt?, typeAt?_typeTokens _ next]
    rfl
  rw [← silent, declarationsOf, declarationsOf]
  rw [commas] at declared ⊢
  rw [declarationsFrom, declared, ← withoutCommas_typeTokens]
  simp [withoutCommas]

/-- The members up to the closing brace. -/
theorem declarationsOf_members {fields : List Field} (sound : ∀ f ∈ fields, f.Sound)
    (rest : List Token) :
    declarationsOf (fields.flatMap (memberTokens · ++ [mark ","]) ++ mark "\x7d" :: rest) =
      fields.map (fun f => .member (escapeKeyword (snakeCase f.name)) f.type.hostType) ++
        declarationsOf rest := by
  induction fields with
  | nil => exact declarationsOf_cons_of_silent rfl rest
  | cons f fields ih =>
    have others := ih fun g later => sound g (List.mem_cons_of_mem f later)
    have next : (withoutCommas (mark "," ::
        (fields.flatMap (memberTokens · ++ [mark ","]) ++ mark "\x7d" :: rest))).head? ≠
          some (mark "<") := by
      cases fields <;> simp [withoutCommas, memberTokens]
    rw [List.flatMap_cons, List.append_assoc, List.append_assoc, List.singleton_append,
      declarationsOf_memberTokens (sound f List.mem_cons_self) next,
      declarationsOf_cons_of_silent rfl, others]
    rfl

/-! ## Items -/

/-- The names of the items that belong to an entry. -/
def Entry.itemNames (e : Entry) : List String :=
  e.constant :: (e.methods?.map fun m => [m.encoder, m.decoder]).getD []

/-- A field has a constant and, unless it is a table, the two methods. -/
theorem itemNames_ofField_eq (f : Field) :
    (Entry.ofField f).itemNames =
      constantName f.name ::
        if f.type.kind = .table then [] else [encoderName f.name, decoderName f.name] := by
  show constantName f.name :: ((Methods.ofField? f).map fun m => [m.encoder, m.decoder]).getD [] = _
  split
  · rename_i table
    rw [Methods.ofField?, table]
    rfl
  · rename_i stored
    obtain ⟨encode, decode, -, -, own⟩ := exists_methods stored
    rw [own]
    rfl

/-- A method declares its name, which has an underscore behind its verb and so is silent itself. -/
theorem declarationsOf_method {verb : String} (ends : '_' ∈ verb.toList) (name : String)
    (rest : List Token) :
    declarationsOf (spaced "pub fn" ++ word (verb ++ name) :: rest) =
      .item (verb ++ name) :: declarationsOf rest := by
  have visible : spaced "pub fn" = [word "pub", word "fn"] := by decide
  rw [visible, List.cons_append, List.singleton_append, declarationsOf_keyword rfl,
    declarationsOf_cons_of_silent (isSilent_verb ends name)]

/-- The method that writes a field declares its own name and nothing in its body. -/
theorem declarationsOf_encoderTokens (sound : f.Sound) (rest : List Token) :
    declarationsOf (encoderTokens f ++ rest) =
      .item (encoderName f.name) :: declarationsOf rest := by
  simp only [encoderTokens, FieldType.encoderName?, List.append_assoc, List.cons_append,
    List.nil_append]
  rw [declarationsOf_method (by decide), declarationsOf_append_of_silent (by decide +kernel),
    declarationsOf_append_of_silent (silent_routine (by decide) _),
    declarationsOf_append_of_silent (by decide +kernel),
    declarationsOf_cons_of_silent (isSilent_member sound),
    declarationsOf_append_of_silent (silent_widthTokens f),
    declarationsOf_append_of_silent (by decide +kernel)]
  rfl

/-- The method that reads a field declares its own name and nothing in its body. -/
theorem declarationsOf_decoderTokens (sound : f.Sound) (rest : List Token) :
    declarationsOf (decoderTokens f ++ rest) =
      .item (decoderName f.name) :: declarationsOf rest := by
  simp only [decoderTokens, FieldType.decoderName?, List.append_assoc, List.cons_append,
    List.nil_append]
  rw [declarationsOf_method (by decide), declarationsOf_append_of_silent (by decide +kernel),
    declarationsOf_append_of_silent (silent_typeTokens sound),
    declarationsOf_append_of_silent (by decide +kernel),
    declarationsOf_append_of_silent (silent_routine (by decide) _),
    declarationsOf_append_of_silent (by decide +kernel),
    declarationsOf_append_of_silent (silent_widthTokens f),
    declarationsOf_append_of_silent (by decide +kernel)]
  rfl

/-- The items of a field declare the names that its entry has. -/
theorem declarationsOf_itemTokens (sound : f.Sound) (rest : List Token) :
    declarationsOf (itemTokens f ++ rest) =
      (Entry.ofField f).itemNames.map .item ++ declarationsOf rest := by
  have visible : spaced "pub const" = [word "pub", word "const"] := by decide
  have name : isSilent (.word (shoutySnakeCase f.name ++ "_SIZE")) = true := isSilent_constantName f
  have methods : declarationsOf
      ((if f.type.kind = .table then [] else encoderTokens f ++ decoderTokens f) ++ rest) =
        (if f.type.kind = .table then []
          else [encoderName f.name, decoderName f.name]).map .item ++ declarationsOf rest := by
    split
    · rfl
    · rw [List.append_assoc, declarationsOf_encoderTokens sound, declarationsOf_decoderTokens sound]
      rfl
  rw [itemNames_ofField_eq, List.map_cons, List.cons_append, ← methods]
  simp only [itemTokens, visible, List.append_assoc, List.cons_append, List.nil_append]
  rw [declarationsOf_append_of_silent (silent_docTokens _ _), declarationsOf_keyword rfl,
    declarationsOf_cons_of_silent name, declarationsOf_append_of_silent (by decide +kernel),
    declarationsOf_cons_of_silent (isSilent_decimal _), declarationsOf_cons_of_silent rfl]
  rfl

/-- The items of all fields, in order. -/
theorem declarationsOf_items {fields : List Field} (sound : ∀ f ∈ fields, f.Sound)
    (rest : List Token) :
    declarationsOf (fields.flatMap itemTokens ++ rest) =
      (fields.flatMap fun f => (Entry.ofField f).itemNames).map .item ++ declarationsOf rest := by
  induction fields with
  | nil => rfl
  | cons f fields ih =>
    rw [List.flatMap_cons, List.flatMap_cons, List.append_assoc,
      declarationsOf_itemTokens (sound f List.mem_cons_self),
      ih fun g later => sound g (List.mem_cons_of_mem f later), List.map_append, List.append_assoc]

/-! ## Files -/

/-- A file declares the struct of its row, the members of the fields and then their items. -/
theorem declarationsOf_rawTokens {row : String} {fields : List Field}
    (identifier : isIdentifier row = true) (sound : ∀ f ∈ fields, f.Sound) :
    declarationsOf (rawTokens row fields) =
      .struct (escapeKeyword (typeName row)) ::
        (fields.map (fun f => .member (escapeKeyword (snakeCase f.name)) f.type.hostType) ++
          (fields.flatMap fun f => (Entry.ofField f).itemNames).map .item) := by
  have struct : isSilent (.word (escapeKeyword (typeName row))) = true :=
    isSilent_of_isMemberName (.inl (isIdentifier_escapeKeyword_typeName identifier))
  have visible : spaced "# [ derive ( Debug ) ] pub struct" =
      spaced "# [ derive ( Debug ) ]" ++ [word "pub", word "struct"] := by decide +kernel
  simp only [rawTokens, visible, List.append_assoc, List.cons_append, List.nil_append]
  rw [declarationsOf_append_of_silent (silent_docTokens _ _),
    declarationsOf_append_of_silent (by decide +kernel),
    declarationsOf_append_of_silent (by decide +kernel),
    declarationsOf_append_of_silent (by decide +kernel), declarationsOf_keyword rfl,
    declarationsOf_cons_of_silent struct, declarationsOf_cons_of_silent rfl,
    declarationsOf_members sound, declarationsOf_cons_of_silent rfl,
    declarationsOf_cons_of_silent struct, declarationsOf_cons_of_silent rfl,
    declarationsOf_items sound, declarationsOf_cons_of_silent rfl]
  simp [declarationsOf, withoutCommas, declarationsFrom]

/-- Texts that differ in commas before closing tokens declare the same. -/
theorem declarationsOf_eq {tokens tokens' : List Token} (h : UpToCommas tokens tokens') :
    declarationsOf tokens = declarationsOf tokens' := by
  rw [declarationsOf, declarationsOf, h.withoutCommas_eq]

/-- The names of the structs that tokens declare. -/
def structsOf (tokens : List Token) : List String :=
  (declarationsOf tokens).filterMap fun
    | .struct name => some name
    | _ => none

/-- The members that tokens declare, with their types. -/
def membersOf (tokens : List Token) : List (String × HostType) :=
  (declarationsOf tokens).filterMap fun
    | .member name type => some (name, type)
    | _ => none

/-- The names of the constants and methods that tokens declare. -/
def itemsOf (tokens : List Token) : List String :=
  (declarationsOf tokens).filterMap fun
    | .item name => some name
    | _ => none

/-- The names of the impl's items. -/
def itemNames (file : HostFile) : List String :=
  file.entries.flatMap Entry.itemNames

/-- The tokens declare what the file has and nothing else. -/
structure DeclaredBy (file : HostFile) (tokens : List Token) : Prop where
  structs : structsOf tokens = [file.row]
  members : membersOf tokens = file.entries.map fun e => (e.member, e.host)
  items : itemsOf tokens = file.itemNames

/-- The file of a row is declared by its tokens, with more or fewer commas. -/
theorem declaredBy_of_upToCommas {row : String} {fields : List Field} {tokens : List Token}
    (identifier : isIdentifier row = true) (sound : ∀ f ∈ fields, f.Sound)
    (h : UpToCommas tokens (fileTokens row fields)) :
    DeclaredBy ⟨escapeKeyword (typeName row), fields.map Entry.ofField⟩ tokens := by
  have declared := declarationsOf_rawTokens identifier sound
  rw [declarationsOf_eq (upToCommas_rawTokens row fields), ← declarationsOf_eq h] at declared
  constructor
  · rw [structsOf, declared]
    simp [List.filterMap_append, List.filterMap_map]
  · rw [membersOf, declared]
    simp [List.filterMap_append, List.filterMap_map, Function.comp_def, Entry.ofField]
  · rw [itemsOf, declared]
    simp [List.filterMap_append, List.filterMap_map, itemNames, List.flatMap_map]

end RowBindings.HostFile
