import RowBindings.Proofs.Identifier.Spelling

/-!
# Keywords among the written names

Changing the case of an identifier can make a keyword of it: `Type` has the snake-case form `type`
and `self_` the type name `Self`. `escapeKeyword` writes such a name otherwise. What it writes is
legal (`isMemberName_escapeKeyword`), and no two snake-case forms are written alike
(`escapeKeyword_injective`): they never end in an underscore and never hold a hash, so what was
added can be told from what was there. The other names that code is given have an underscore
inside, which no keyword has.
-/

namespace RowBindings

open Text

/-! ## Keywords -/

theorem isKeyword_iff {name : String} : isKeyword name = true ↔ name ∈ keywords := by
  rw [isKeyword, List.contains_iff_mem]

/-- The keywords that cannot be written raw are keywords. -/
theorem mem_keywords_of_mem_pathKeywords {name : String} (h : name ∈ pathKeywords) :
    name ∈ keywords := by
  have subset : ∀ k ∈ pathKeywords, k ∈ keywords := by decide
  exact subset name h

/-- No keyword has an underscore in it. -/
theorem isKeyword_of_underscore {name : String} (h : '_' ∈ name.toList) :
    isKeyword name = false := by
  have plain : ∀ k ∈ keywords, '_' ∉ k.toList := by decide
  rw [Bool.eq_false_iff]
  intro keyword
  exact plain name (isKeyword_iff.1 keyword) h

/-- The only keyword with a capital letter is `Self`. -/
theorem eq_of_isKeyword_of_isCapital {name : String} (h : isKeyword name = true)
    (capital : isCapital name = true) : name = "Self" := by
  have lower : ∀ k ∈ keywords, isCapital k = true → k = "Self" := by decide
  exact lower name (isKeyword_iff.1 h) capital

/-- A name spelt like an identifier is one if it has an underscore. -/
theorem IdentifierLike.isIdentifier {name : String} (h : IdentifierLike name)
    (mark : '_' ∈ name.toList) : isIdentifier name = true :=
  isIdentifier_iff.2 ⟨h, isKeyword_of_underscore mark⟩

/-! ## Escapes -/

/-- A name that code may give to the member of a struct: an identifier, or a keyword that is written
raw. -/
def IsMemberName (name : String) : Prop :=
  isIdentifier name = true ∨ ∃ k ∈ keywords, k ∉ pathKeywords ∧ name = "r#" ++ k

theorem underscore_mem_append (s t : String) (h : '_' ∈ t.toList) : '_' ∈ (s ++ t).toList := by
  rw [String.toList_append]
  exact List.mem_append_right _ h

/-- What is written for a name is legal for a member, whichever keyword the name is. -/
theorem isMemberName_escapeKeyword {name : String} (h : IdentifierLike name) :
    IsMemberName (escapeKeyword name) := by
  rw [escapeKeyword]
  split
  · have more : ∀ d ∈ "_".toList, isIdentifierChar d = true := List.all_eq_true.1 (by decide)
    exact .inl ((h.append more).isIdentifier (underscore_mem_append name "_" (by decide)))
  rename_i path
  split
  · rename_i keyword
    exact .inr ⟨name, isKeyword_iff.1 keyword, by simpa using path, rfl⟩
  · rename_i free
    exact .inl (isIdentifier_iff.2 ⟨h, by simpa using free⟩)

/-- What is written for a name begins with a capital letter only if the name does. -/
theorem isCapital_escapeKeyword {name : String} (h : IdentifierLike name)
    (small : isCapital name = false) : isCapital (escapeKeyword name) = false := by
  rw [escapeKeyword]
  split
  · rw [isCapital_append h.toList_ne_nil, small]
  · split
    · rw [isCapital_append (by decide)]
      decide
    · exact small

/-- The name that was escaped, given what was written for it. -/
def unescape (written : String) : List Char :=
  match written.toList with
  | 'r' :: '#' :: name => name
  | text => if text.getLast? = some '_' then text.dropLast else text

/-- Without a hash in it, a name was written as it is or with an underscore after it. -/
theorem unescape_of_not_mem {written : String} (h : '#' ∉ written.toList) :
    unescape written =
      if written.toList.getLast? = some '_' then written.toList.dropLast else written.toList := by
  rw [unescape]
  split
  · rename_i raw
    rw [raw] at h
    simp at h
  · rfl

/-- A name without a final underscore is recovered from what is written for it. -/
theorem unescape_escapeKeyword {name : String} (h : IdentifierLike name)
    (last : name.toList.getLast? ≠ some '_') : unescape (escapeKeyword name) = name.toList := by
  -- No name has the mark of a raw identifier in it.
  have hash : '#' ∉ name.toList := by
    intro member
    have inside := h.isIdentifierChar_of_mem member
    revert inside
    decide
  rw [escapeKeyword]
  split
  · have text : (name ++ "_").toList = name.toList ++ ['_'] := by rw [String.toList_append]; rfl
    rw [unescape_of_not_mem (by simpa [text] using hash), text, List.getLast?_concat, if_pos rfl,
      List.dropLast_concat]
  · split
    · rw [unescape, String.toList_append]
      rfl
    · rw [unescape_of_not_mem hash, if_neg last]

/-- A snake-case form does not end in an underscore. -/
theorem getLast?_snakeCase_ne {name : String} (h : isIdentifier name = true) :
    (snakeCase name).toList.getLast? ≠ some '_' := by
  rw [snakeCase_toList h]
  exact getLast?_joinWords_ne h fun d letter => (isAlphanum_cased letter).1

/-- Snake-case forms are written differently if they are different. -/
theorem escapeKeyword_injective {a b : String} (ha : isIdentifier a = true)
    (hb : isIdentifier b = true)
    (h : escapeKeyword (snakeCase a) = escapeKeyword (snakeCase b)) :
    snakeCase a = snakeCase b := by
  apply String.toList_inj.1
  rw [← unescape_escapeKeyword (identifierLike_snakeCase ha) (getLast?_snakeCase_ne ha), h,
    unescape_escapeKeyword (identifierLike_snakeCase hb) (getLast?_snakeCase_ne hb)]

/-! ## Names of types -/

/-- No type name but `Self` is a keyword. -/
theorem isKeyword_typeName {name : String} (h : isIdentifier name = true)
    (other : typeName name ≠ "Self") : isKeyword (typeName name) = false := by
  rw [Bool.eq_false_iff]
  intro keyword
  exact other (eq_of_isKeyword_of_isCapital keyword (typeName_spelling h).2)

/-- Of the type names only `Self` is escaped. -/
theorem escapeKeyword_typeName {name : String} (h : isIdentifier name = true) :
    escapeKeyword (typeName name) =
      if typeName name = "Self" then "Self_" else typeName name := by
  split
  · rename_i self
    rw [self]
    decide
  rename_i other
  have free := isKeyword_typeName h other
  -- The words that cannot be raw identifiers are keywords, and this is none.
  have path : ¬pathKeywords.contains (typeName name) = true := by
    intro member
    have keyword := mem_keywords_of_mem_pathKeywords (List.contains_iff_mem.1 member)
    rw [isKeyword_iff.2 keyword] at free
    cases free
  rw [escapeKeyword, if_neg path, free, if_neg (by decide)]

/-- Type names are written differently if they are different. -/
theorem typeName_eq_of_escapeKeyword_eq {a b : String} (ha : isIdentifier a = true)
    (hb : isIdentifier b = true) (h : escapeKeyword (typeName a) = escapeKeyword (typeName b)) :
    typeName a = typeName b := by
  have last {name : String} (identifier : isIdentifier name = true) :
      (typeName name).toList.getLast? ≠ some '_' := by
    intro same
    have letter := isAlphanum_of_mem_typeName identifier (List.mem_of_getLast? same)
    revert letter
    decide
  apply String.toList_inj.1
  rw [← unescape_escapeKeyword (typeName_spelling ha).1 (last ha), h,
    unescape_escapeKeyword (typeName_spelling hb).1 (last hb)]

/-- The struct of a row is named by an identifier. -/
theorem isIdentifier_escapeKeyword_typeName {name : String} (h : isIdentifier name = true) :
    isIdentifier (escapeKeyword (typeName name)) = true := by
  rw [escapeKeyword_typeName h]
  split
  · decide
  · rename_i other
    exact isIdentifier_iff.2 ⟨(typeName_spelling h).1, isKeyword_typeName h other⟩

end RowBindings
