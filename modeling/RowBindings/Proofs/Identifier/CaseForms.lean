import RowBindings.Proofs.Identifier.Spelling

/-!
# The forms of an identifier

An identifier is written in snake case, in shouty snake case and in Pascal case. All that a form
changes is where underscores stand and which letters are capitals (`skeleton`), and the words can be
found again in the snake-case form (`words_intercalate`). So that form is a normal form: it has the
other forms of the name itself, and `caseForms_of_isIdentifier` says what all of them look like.
-/

namespace RowBindings

open Text

namespace Text

/-! ## Small words -/

/-- Whether `c` is a lower-case Latin letter or a decimal digit. -/
def isSmall (c : Char) : Bool :=
  c.isLower || c.isDigit

theorem isAlphanum_of_isSmall {c : Char} (h : isSmall c = true) : c.isAlphanum = true := by
  rw [isSmall, Bool.or_eq_true] at h
  rcases h with lower | digit
  · exact isAlphanum_of_isAlpha (isAlpha_of_isLower lower)
  · rw [Char.isAlphanum, digit, Bool.or_true]

/-- A small character is kept in words, and it neither begins a word nor changes in lower case. -/
theorem small_spec {c : Char} (h : isSmall c = true) :
    isAlphanumeric c = true ∧ isUppercase c = false ∧ c.toLower = c := by
  have ascii := ascii_of_isAlphanum (isAlphanum_of_isSmall h)
  revert h
  apply forall_ascii (p := fun c => isSmall c = true →
    isAlphanumeric c = true ∧ isUppercase c = false ∧ c.toLower = c) _ ascii
  decide +kernel

/-- Letters and digits in lower case are small, and raising them forgets that they were lowered. -/
theorem toLower_spec {c : Char} (h : c.isAlphanum = true) :
    isSmall c.toLower = true ∧ c.toLower.toUpper = c.toUpper := by
  have ascii := ascii_of_isAlphanum h
  revert h
  apply forall_ascii (p := fun c => c.isAlphanum = true →
    isSmall c.toLower = true ∧ c.toLower.toUpper = c.toUpper) _ ascii
  decide +kernel

theorem ne_underscore_of_isAlphanum {c : Char} (h : c.isAlphanum = true) : c ≠ '_' := by
  rintro rfl
  exact Bool.false_ne_true h

/-- Neither an underscore nor the end of a text goes on with a word. -/
def EndsWord (rest : List Char) : Prop :=
  rest = [] ∨ ∃ more, rest = '_' :: more

/-- What ends a word does not begin with a capital letter. -/
theorem EndsWord.isUppercase_head? {rest : List Char} (h : EndsWord rest) :
    rest.head?.any isUppercase = false := by
  rcases h with rfl | ⟨more, rfl⟩
  · rfl
  · exact (by decide : isUppercase '_' = false)

/-- Before anything but a capital, a small character joins the word. -/
theorem wordsFrom_small {c : Char} (small : isSmall c = true) (mode : WordMode) (word : List Char)
    {rest : List Char} (next : rest.head?.any isUppercase = false) :
    wordsFrom mode word (c :: rest) = wordsFrom (mode.after c) (c :: word) rest := by
  obtain ⟨kept, notUpper, -⟩ := small_spec small
  rw [wordsFrom, if_pos kept, if_neg, if_neg]
  · rintro ⟨-, upper, -⟩
    rw [notUpper] at upper
    exact Bool.false_ne_true upper
  · rintro ⟨-, upper⟩
    rw [next] at upper
    exact Bool.false_ne_true upper

/-- Small characters are read into one word. The induction is on them; the case of the letters read
last may change with each, but no capital comes that would make a difference. -/
theorem exists_wordsFrom_append {part rest : List Char} (small : ∀ c ∈ part, isSmall c = true)
    (ends : EndsWord rest) (mode : WordMode) (word : List Char) :
    ∃ after, wordsFrom mode word (part ++ rest) = wordsFrom after (part.reverse ++ word) rest := by
  induction part generalizing mode word with
  | nil => exact ⟨mode, rfl⟩
  | cons c others ih =>
    have smallOthers := fun d later => small d (List.mem_cons_of_mem c later)
    have next : (others ++ rest).head?.any isUppercase = false := by
      rcases others with _ | ⟨d, others⟩
      · exact ends.isUppercase_head?
      · exact (small_spec (smallOthers d List.mem_cons_self)).2.1
    obtain ⟨after, read⟩ := ih smallOthers (mode.after c) (c :: word)
    refine ⟨after, ?_⟩
    rw [List.cons_append, wordsFrom_small (small c List.mem_cons_self) mode word next, read]
    simp

/-- A word that was gathered backwards is put in order. -/
theorem flush_reverse {word : List Char} (nonempty : word ≠ []) : flush word.reverse = [word] := by
  rcases reversed : word.reverse with _ | ⟨c, rest⟩
  · exact absurd (List.reverse_eq_nil_iff.1 reversed) nonempty
  · rw [flush, ← reversed, List.reverse_reverse]
    exact List.cons_ne_nil c rest

/-- Words of small characters are found again between the underscores that join them. -/
theorem words_intercalate {parts : List (List Char)}
    (small : ∀ part ∈ parts, part ≠ [] ∧ ∀ c ∈ part, isSmall c = true) :
    words (['_'].intercalate parts) = parts := by
  rcases parts with _ | ⟨part, parts⟩
  · rfl
  rw [intercalate_cons, words]
  -- One word is read to its underscore, where the rest begins anew.
  induction parts generalizing part with
  | nil =>
    obtain ⟨nonempty, letters⟩ := small part List.mem_cons_self
    obtain ⟨after, read⟩ := exists_wordsFrom_append letters (.inl rfl) .start []
    rw [List.flatMap_nil, read, List.append_nil, wordsFrom, flush_reverse nonempty]
  | cons next parts ih =>
    obtain ⟨nonempty, letters⟩ := small part List.mem_cons_self
    obtain ⟨after, read⟩ := exists_wordsFrom_append letters (.inr ⟨_, rfl⟩) .start []
    rw [List.flatMap_cons, List.cons_append, read, List.append_nil, wordsFrom,
      if_neg (by decide), flush_reverse nonempty, ih next, List.singleton_append]
    exact fun other later => small other (List.mem_cons_of_mem part later)

/-- A word of letters and digits in Pascal case. -/
theorem capitalWord_cons {c : Char} {rest : List Char}
    (letters : ∀ d ∈ c :: rest, d.isAlphanum = true) :
    capitalWord (c :: rest) = c.toUpper :: rest.map Char.toLower := by
  have others := fun d later => letters d (List.mem_cons_of_mem c later)
  rw [capitalWord, toUpper_of_isAlphanum (letters c List.mem_cons_self), lowerWord_eq_map others]
  rfl

theorem toLower_of_map_toLower {w : List Char} (letters : ∀ d ∈ w, d.isAlphanum = true) :
    (w.map Char.toLower).map Char.toLower = w.map Char.toLower := by
  rw [List.map_map]
  exact List.map_congr_left fun d member => (small_spec (toLower_spec (letters d member)).1).2.2

/-- Letters and digits in lower case are still letters and digits. -/
theorem isAlphanum_of_mem_map_toLower {w : List Char} (letters : ∀ d ∈ w, d.isAlphanum = true) :
    ∀ d ∈ w.map Char.toLower, d.isAlphanum = true := by
  intro d member
  obtain ⟨e, inWord, rfl⟩ := List.mem_map.1 member
  exact (isAlphanum_cased (letters e inWord)).1

/-- A word in lower case stays as it is when it is lowered. -/
theorem lowerWord_map_toLower {w : List Char} (letters : ∀ d ∈ w, d.isAlphanum = true) :
    lowerWord (w.map Char.toLower) = lowerWord w := by
  rw [lowerWord_eq_map letters, lowerWord_eq_map (isAlphanum_of_mem_map_toLower letters),
    toLower_of_map_toLower letters]

/-- A word is capitalised in the same way from its lower case. -/
theorem capitalWord_map_toLower {w : List Char} (letters : ∀ d ∈ w, d.isAlphanum = true) :
    capitalWord (w.map Char.toLower) = capitalWord w := by
  rcases w with _ | ⟨c, rest⟩
  · rfl
  have lowered := isAlphanum_of_mem_map_toLower letters
  have others := fun d later => letters d (List.mem_cons_of_mem c later)
  rw [List.map_cons] at lowered ⊢
  rw [capitalWord_cons lowered, capitalWord_cons letters, toLower_of_map_toLower others,
    (toLower_spec (letters c List.mem_cons_self)).2]

/-- Without the marks, joined parts are only put one after the other. -/
theorem filter_intercalate {mark : Char} {parts : List (List Char)}
    (free : ∀ part ∈ parts, mark ∉ part) :
    ([mark].intercalate parts).filter (· ≠ mark) = parts.flatten := by
  -- The parts have no mark in them, so only those between are dropped.
  have kept {part : List Char} (member : part ∈ parts) : part.filter (· ≠ mark) = part := by
    refine List.filter_eq_self.2 fun c inPart => decide_eq_true ?_
    rintro rfl
    exact free part member inPart
  rcases parts with _ | ⟨first, rest⟩
  · rfl
  have others : rest.map (fun part => (mark :: part).filter (· ≠ mark)) = rest := by
    refine (List.map_congr_left fun part later => ?_).trans (List.map_id rest)
    rw [List.filter_cons_of_neg (by simp), kept (List.mem_cons_of_mem first later), id]
  rw [intercalate_cons, List.filter_append, kept List.mem_cons_self, List.filter_flatMap,
    List.flatMap_def, others, List.flatten_cons]

end Text

/-! ## What the forms have in common -/

/-- The letters and digits of a name in order and in lower case, without its underscores. -/
def skeleton (name : String) : List Char :=
  (name.toList.filter (· ≠ '_')).map Char.toLower

section Forms

variable {name : String} (h : isIdentifier name = true)

include h

/-- The words of an identifier have only letters and digits. -/
theorem isAlphanum_of_mem_words {w : List Char} {d : Char} (word : w ∈ words name.toList)
    (member : d ∈ w) : d.isAlphanum = true := by
  obtain ⟨c, v, ws, cut, -, letters⟩ := words_of_isIdentifier h
  rw [cut] at word
  exact letters w word d member

/-- The skeleton of an identifier is made of its words. -/
theorem skeleton_eq : skeleton name = (words name.toList).flatten.map Char.toLower := by
  rw [skeleton, flatten_words]
  refine congrArg _ (List.filter_congr fun c member => ?_)
  have spelt := (isIdentifier_iff.1 h).1.isIdentifierChar_of_mem member
  rw [isIdentifierChar, Bool.or_eq_true, beq_iff_eq] at spelt
  rcases spelt with letter | rfl
  · rw [isAlphanumeric_of_ascii (ascii_of_isAlphanum letter), letter, decide_eq_true_eq]
    exact ne_underscore_of_isAlphanum letter
  · decide

/-- Altering the case of letters and joining words by underscores keeps the skeleton. -/
theorem skeleton_of_joinWords {form : String} {alter : Char → Char}
    (text : form.toList = joinWords alter name)
    (altered : ∀ d, d.isAlphanum = true →
      (alter d).isAlphanum = true ∧ (alter d).toLower = d.toLower) :
    skeleton form = skeleton name := by
  -- Words have letters and digits only, altered or not.
  have free : ∀ part ∈ (words name.toList).map (·.map alter), '_' ∉ part := by
    intro part member mark
    obtain ⟨w, word, rfl⟩ := List.mem_map.1 member
    obtain ⟨d, inWord, same⟩ := List.mem_map.1 mark
    have letter := (altered d (isAlphanum_of_mem_words h word inWord)).1
    exact ne_underscore_of_isAlphanum letter same
  rw [skeleton_eq h, skeleton, text, joinWords, filter_intercalate free, ← List.map_flatten,
    List.map_map]
  refine List.map_congr_left fun d member => ?_
  obtain ⟨w, word, inWord⟩ := List.mem_flatten.1 member
  exact (altered d (isAlphanum_of_mem_words h word inWord)).2

/-- Snake case changes nothing but case and underscores. -/
theorem skeleton_snakeCase : skeleton (snakeCase name) = skeleton name :=
  skeleton_of_joinWords h (snakeCase_toList h) fun _ letter =>
    ⟨(isAlphanum_cased letter).1, (small_spec (toLower_spec letter).1).2.2⟩

theorem skeleton_shoutySnakeCase : skeleton (shoutySnakeCase name) = skeleton name :=
  skeleton_of_joinWords h (shoutySnakeCase_toList h) fun _ letter =>
    ⟨(isAlphanum_cased letter).2, toLower_toUpper letter⟩

theorem skeleton_pascalCase : skeleton (pascalCase name) = skeleton name := by
  have kept : (pascalCase name).toList.filter (· ≠ '_') = (pascalCase name).toList := by
    refine List.filter_eq_self.2 fun c member => decide_eq_true ?_
    exact ne_underscore_of_isAlphanum (isAlphanum_of_mem_typeName h member)
  rw [skeleton_eq h, skeleton, kept, pascalCase, String.toList_ofList, List.map_flatMap,
    List.map_flatten, List.flatMap_def]
  refine congrArg _ (List.map_congr_left fun w word => ?_)
  rcases w with _ | ⟨c, rest⟩
  · rfl
  have letters : ∀ d ∈ c :: rest, d.isAlphanum = true := fun d => isAlphanum_of_mem_words h word
  -- Only the first letter is raised, and lowering it again forgets that.
  rw [capitalWord_cons letters, List.map_cons, List.map_cons,
    toLower_toUpper (letters c List.mem_cons_self),
    toLower_of_map_toLower fun d later => letters d (List.mem_cons_of_mem c later)]

/-! ## Words in lower case -/

/-- In lower case the words of an identifier are made of small characters. -/
theorem small_words : ∀ part ∈ (words name.toList).map (·.map Char.toLower),
    part ≠ [] ∧ ∀ c ∈ part, isSmall c = true := by
  intro part member
  obtain ⟨w, word, rfl⟩ := List.mem_map.1 member
  refine ⟨mt List.map_eq_nil_iff.1 (ne_nil_of_mem_words word), fun c inPart => ?_⟩
  obtain ⟨d, inWord, rfl⟩ := List.mem_map.1 inPart
  exact (toLower_spec (isAlphanum_of_mem_words h word inWord)).1

/-- The words of the snake-case form are those of the name in lower case. -/
theorem words_snakeCase :
    words (snakeCase name).toList = (words name.toList).map (·.map Char.toLower) := by
  rw [snakeCase_toList h, joinWords]
  exact words_intercalate (small_words h)

/-- A form that writes each word alike in lower case writes the words of the snake-case form like
those of the name. -/
theorem map_words_snakeCase {write : List Char → List Char}
    (same : ∀ w, (∀ d ∈ w, d.isAlphanum = true) → write (w.map Char.toLower) = write w) :
    (words (snakeCase name).toList).map write = (words name.toList).map write := by
  rw [words_snakeCase h, List.map_map]
  refine List.map_congr_left fun w word => ?_
  exact same w fun d => isAlphanum_of_mem_words h word

/-- A name in snake case is its own form. -/
theorem snakeCase_snakeCase : snakeCase (snakeCase name) = snakeCase name := by
  rw [snakeCase, map_words_snakeCase h fun w letters => lowerWord_map_toLower letters]
  rfl

/-- The type of a name is that of its form in snake case. -/
theorem pascalCase_snakeCase : pascalCase (snakeCase name) = pascalCase name := by
  rw [pascalCase, List.flatMap_def,
    map_words_snakeCase h fun w letters => capitalWord_map_toLower letters, ← List.flatMap_def]
  rfl

/-- The shouty form is the snake-case form in upper case. -/
theorem map_toUpper_snakeCase :
    (snakeCase name).toList.map Char.toUpper = (shoutySnakeCase name).toList := by
  rw [shoutySnakeCase_toList h, snakeCase_toList h]
  exact map_joinWords h rfl fun d letter => (toLower_spec letter).2

end Forms

/-! ## The shapes of the forms -/

/-- Lower-case letters and digits in parts with single underscores between them. The first part
begins with a letter. -/
def IsSnake (s : List Char) : Prop :=
  ∃ (c : Char) (first : List Char) (parts : List (List Char)),
    s = c :: first ++ parts.flatMap ('_' :: ·) ∧ c.isLower = true ∧
    (∀ d ∈ first, isSmall d = true) ∧ ∀ part ∈ parts, part ≠ [] ∧ ∀ d ∈ part, isSmall d = true

/-- A capital letter and then letters and digits. -/
def IsPascal (s : List Char) : Prop :=
  ∃ c rest, s = c :: rest ∧ c.isUpper = true ∧ ∀ d ∈ rest, d.isAlphanum = true

/-- What snake case looks like: words of small characters with single underscores between them. -/
theorem isSnake_snakeCase {name : String} (h : isIdentifier name = true) :
    IsSnake (snakeCase name).toList := by
  obtain ⟨c, w, ws, cut, letter, -⟩ := words_of_isIdentifier h
  have small := small_words h
  rw [cut, List.map_cons, List.map_cons] at small
  refine ⟨c.toLower, w.map Char.toLower, ws.map (·.map Char.toLower), ?_,
    (cased_of_isAlpha letter).1, ?_, ?_⟩
  · rw [snakeCase_toList h, joinWords, cut, List.map_cons, intercalate_cons, List.map_cons]
  · intro d inFirst
    exact (small _ List.mem_cons_self).2 d (List.mem_cons_of_mem _ inFirst)
  · intro part later
    exact small part (List.mem_cons_of_mem _ later)

/-- What Pascal case looks like: letters and digits without underscores, the first a capital
letter. -/
theorem isPascal_pascalCase {name : String} (h : isIdentifier name = true) :
    IsPascal (pascalCase name).toList := by
  obtain ⟨⟨c, rest, text, -, -⟩, capital⟩ := typeName_spelling h
  rw [isCapital, text] at capital
  refine ⟨c, rest, text, capital, fun d later => ?_⟩
  apply isAlphanum_of_mem_typeName h
  rw [text]
  exact List.mem_cons_of_mem c later

/-- Each form of an identifier has its shape and keeps the letters and digits of the name, whose
case alone may change. The other forms of the snake-case form are those of the name, so names with
the same snake-case form have the same type name. -/
theorem caseForms_of_isIdentifier {name : String} (h : isIdentifier name = true) :
    IsSnake (snakeCase name).toList ∧
    IsPascal (pascalCase name).toList ∧
    (shoutySnakeCase name).toList = (snakeCase name).toList.map Char.toUpper ∧
    (∀ form ∈ [snakeCase name, shoutySnakeCase name, pascalCase name],
      skeleton form = skeleton name) ∧
    snakeCase (snakeCase name) = snakeCase name ∧
    pascalCase (snakeCase name) = pascalCase name ∧
    ∀ other, isIdentifier other = true → snakeCase other = snakeCase name →
      typeName other = typeName name := by
  refine ⟨isSnake_snakeCase h, isPascal_pascalCase h, (map_toUpper_snakeCase h).symm, ?_,
    snakeCase_snakeCase h, pascalCase_snakeCase h, ?_⟩
  · simp only [List.forall_mem_cons]
    exact ⟨skeleton_snakeCase h, skeleton_shoutySnakeCase h, skeleton_pascalCase h,
      List.forall_mem_nil _⟩
  · intro other identifier same
    calc typeName other
        = pascalCase (snakeCase other) := (pascalCase_snakeCase identifier).symm
      _ = pascalCase (snakeCase name) := by rw [same]
      _ = typeName name := pascalCase_snakeCase h

/-- An acronym, a digit between cases, underscores in a row and one at the end. -/
theorem caseForms_of_isIdentifier_xml :
    isIdentifier "XMLHttp2__Request_" = true ∧
    IsSnake "xml_http2_request".toList ∧
    IsPascal "XmlHttp2Request".toList ∧
    skeleton "XmlHttp2Request" = skeleton "XMLHttp2__Request_" ∧
    typeName "xmlHttp2Request" = typeName "XMLHttp2__Request_" := by
  have identifier : isIdentifier "XMLHttp2__Request_" = true := by decide +kernel
  have snake : snakeCase "XMLHttp2__Request_" = "xml_http2_request" := by decide +kernel
  have pascal : pascalCase "XMLHttp2__Request_" = "XmlHttp2Request" := by decide +kernel
  obtain ⟨isSnake, isPascal, -, kept, -, -, types⟩ := caseForms_of_isIdentifier identifier
  rw [snake] at isSnake types
  rw [pascal] at isPascal kept
  exact ⟨identifier, isSnake, isPascal, kept _ (by simp),
    types "xmlHttp2Request" (by decide +kernel) (by decide +kernel)⟩

end RowBindings
