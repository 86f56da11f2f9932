import RowBindings.Bindings.HostFile
import RowBindings.Text.NameChar

/-!
# How identifiers are spelt in generated code

Generated code writes declared names in snake case, shouty snake case and Pascal case. Cutting a
name into words keeps its letters and digits in their order (`flatten_words`), so the words of an
identifier begin with its first letter and are made of Latin letters and decimal digits. Whatever
case they are written in, the result can stand as a name again.
-/

namespace RowBindings

open Text

namespace Text

/-! ## ASCII characters -/

/-- A property of the ASCII characters is decided by 128 cases. -/
theorem forall_ascii {p : Char → Prop} (h : ∀ n : Fin 128, p (Char.ofNat n)) {c : Char}
    (ascii : c.toNat < 128) : p c := by
  have case := h ⟨c.toNat, ascii⟩
  rwa [Char.ofNat_toNat] at case

/-- Latin letters and decimal digits are ASCII. -/
theorem ascii_of_isAlphanum {c : Char} (h : c.isAlphanum = true) : c.toNat < 128 := by
  change (decide (65 ≤ c.val ∧ c.val ≤ 90) || (decide (97 ≤ c.val) && decide (c.val ≤ 122)) ||
    (decide (48 ≤ c.val) && decide (c.val ≤ 57))) = true at h
  simp only [Bool.or_eq_true, Bool.and_eq_true, decide_eq_true_eq, UInt32.le_iff_toNat_le] at h
  change ((65 ≤ c.toNat ∧ c.toNat ≤ 90) ∨ (97 ≤ c.toNat ∧ c.toNat ≤ 122)) ∨
    (48 ≤ c.toNat ∧ c.toNat ≤ 57) at h
  omega

theorem isAlphanum_of_isAlpha {c : Char} (h : c.isAlpha = true) : c.isAlphanum = true := by
  rw [Char.isAlphanum, h, Bool.true_or]

/-- A letter in either case is a letter of that case. -/
theorem cased_of_isAlpha {c : Char} (h : c.isAlpha = true) :
    c.toLower.isLower = true ∧ c.toUpper.isUpper = true := by
  have ascii := ascii_of_isAlphanum (isAlphanum_of_isAlpha h)
  revert h
  apply forall_ascii (p := fun c => c.isAlpha = true →
    c.toLower.isLower = true ∧ c.toUpper.isUpper = true) _ ascii
  decide +kernel

theorem isAlpha_of_isLower {c : Char} (h : c.isLower = true) : c.isAlpha = true := by
  show (c.isUpper || c.isLower) = true
  rw [h, Bool.or_true]

theorem isAlpha_of_isUpper {c : Char} (h : c.isUpper = true) : c.isAlpha = true := by
  show (c.isUpper || c.isLower) = true
  rw [h, Bool.true_or]

/-- No character has both cases. -/
theorem isUpper_of_isLower {c : Char} (h : c.isLower = true) : c.isUpper = false := by
  have ascii := ascii_of_isAlphanum (isAlphanum_of_isAlpha (isAlpha_of_isLower h))
  revert h
  apply forall_ascii (p := fun c => c.isLower = true → c.isUpper = false) _ ascii
  decide +kernel

/-- A letter or digit in either case is a letter or digit. -/
theorem isAlphanum_cased {c : Char} (h : c.isAlphanum = true) :
    c.toLower.isAlphanum = true ∧ c.toUpper.isAlphanum = true := by
  have ascii := ascii_of_isAlphanum h
  revert h
  apply forall_ascii (p := fun c => c.isAlphanum = true →
    c.toLower.isAlphanum = true ∧ c.toUpper.isAlphanum = true) _ ascii
  decide +kernel

/-- Lowering forgets that a letter or digit was raised. -/
theorem toLower_toUpper {c : Char} (h : c.isAlphanum = true) : c.toUpper.toLower = c.toLower := by
  have ascii := ascii_of_isAlphanum h
  apply forall_ascii (p := fun c => c.toUpper.toLower = c.toLower) _ ascii
  decide +kernel

/-- Of letters and digits of ASCII, lower case is a single character. -/
theorem toLower_of_isAlphanum {c : Char} (h : c.isAlphanum = true) : toLower c = [c.toLower] := by
  rw [toLower, if_pos (ascii_of_isAlphanum h)]

theorem toUpper_of_isAlphanum {c : Char} (h : c.isAlphanum = true) : toUpper c = [c.toUpper] := by
  rw [toUpper, if_pos (ascii_of_isAlphanum h)]

/-! ## Words -/

theorem flatten_flush (word : List Char) : (flush word).flatten = word.reverse := by
  cases word with
  | nil => rfl
  | cons c rest => simp [flush]

/-- Cutting a text into words loses nothing but what separates them. -/
theorem flatten_wordsFrom (mode : WordMode) (word s : List Char) :
    (wordsFrom mode word s).flatten = word.reverse ++ s.filter isAlphanumeric := by
  induction s generalizing mode word with
  | nil => rw [wordsFrom, flatten_flush, List.filter_nil, List.append_nil]
  | cons c rest ih =>
    rw [wordsFrom]
    -- Each case ends the word before `c`, after it or not at all; `c` is kept in all of them.
    split
    · rename_i kept
      rw [List.filter_cons_of_pos kept]
      split
      · rw [List.flatten_append, ih, flatten_flush]
        simp
      · split
        · rw [List.flatten_append, ih, flatten_flush]
          simp
        · rw [ih]
          simp
    · rename_i dropped
      rw [List.filter_cons_of_neg dropped, List.flatten_append, ih, flatten_flush]
      simp

/-- Cutting a text into words keeps its letters and digits in order, and nothing else. -/
theorem flatten_words (s : List Char) : (words s).flatten = s.filter isAlphanumeric :=
  flatten_wordsFrom .start [] s

theorem ne_nil_of_mem_flush {word w : List Char} (h : w ∈ flush word) : w ≠ [] := by
  cases word with
  | nil => cases h
  | cons c rest =>
    obtain rfl := List.mem_singleton.1 h
    simp

/-- So no word is empty. -/
theorem ne_nil_of_mem_wordsFrom {mode : WordMode} {word s w : List Char}
    (h : w ∈ wordsFrom mode word s) : w ≠ [] := by
  induction s generalizing mode word with
  | nil => exact ne_nil_of_mem_flush h
  | cons c rest ih =>
    rw [wordsFrom] at h
    -- Wherever a word ends it is flushed, and an empty one is left out.
    split at h
    · split at h
      · rcases List.mem_append.1 h with ended | later
        · exact ne_nil_of_mem_flush ended
        · exact ih later
      · split at h
        · rcases List.mem_append.1 h with ended | later
          · exact ne_nil_of_mem_flush ended
          · exact ih later
        · exact ih h
    · rcases List.mem_append.1 h with ended | later
      · exact ne_nil_of_mem_flush ended
      · exact ih later

/-- No word is empty. -/
theorem ne_nil_of_mem_words {s w : List Char} (h : w ∈ words s) : w ≠ [] :=
  ne_nil_of_mem_wordsFrom h

/-- Words in lower case are their letters in lower case, if these are ASCII. -/
theorem lowerWord_eq_map {w : List Char} (h : ∀ c ∈ w, c.isAlphanum = true) :
    lowerWord w = w.map Char.toLower := by
  induction w with
  | nil => rfl
  | cons c rest ih =>
    have letter := h c List.mem_cons_self
    -- The one letter that is lowered by its place in the word is no ASCII letter.
    have other : ¬(c = 'Σ' ∧ rest = []) := by
      rintro ⟨rfl, -⟩
      revert letter
      decide
    rw [lowerWord, if_neg other, toLower_of_isAlphanum letter,
      ih fun d later => h d (List.mem_cons_of_mem c later)]
    rfl

theorem upperWord_eq_map {w : List Char} (h : ∀ c ∈ w, c.isAlphanum = true) :
    upperWord w = w.map Char.toUpper := by
  induction w with
  | nil => rfl
  | cons c rest ih =>
    rw [upperWord, List.flatMap_cons, toUpper_of_isAlphanum (h c List.mem_cons_self)]
    exact congrArg _ (ih fun d later => h d (List.mem_cons_of_mem c later))

/-- Joining puts the mark before every part but the first. -/
theorem intercalate_cons {α : Type} (mark : α) (part : List α) (parts : List (List α)) :
    [mark].intercalate (part :: parts) = part ++ parts.flatMap (mark :: ·) := by
  induction parts generalizing part with
  | nil => simp
  | cons next rest ih => rw [List.intercalate_cons_cons, ih, List.flatMap_cons]; simp

/-- What is in a joined text is the mark or comes from one of the parts. -/
theorem mem_of_mem_intercalate {α : Type} {mark d : α} {parts : List (List α)}
    (h : d ∈ [mark].intercalate parts) : d = mark ∨ ∃ part ∈ parts, d ∈ part := by
  cases parts with
  | nil => cases h
  | cons first rest =>
    rw [intercalate_cons, List.mem_append] at h
    rcases h with here | later
    · exact .inr ⟨first, List.mem_cons_self, here⟩
    obtain ⟨part, member, inPart⟩ := List.mem_flatMap.1 later
    rcases List.mem_cons.1 inPart with rfl | inPart
    · exact .inl rfl
    · exact .inr ⟨part, List.mem_cons_of_mem first member, inPart⟩

/-- Joined parts end as the last of them does, if none is empty. -/
theorem mem_of_getLast?_intercalate {mark d : Char} {parts : List (List Char)}
    (nonempty : ∀ part ∈ parts, part ≠ []) (h : ([mark].intercalate parts).getLast? = some d) :
    ∃ part ∈ parts, d ∈ part := by
  induction parts with
  | nil => cases h
  | cons first rest ih =>
    cases rest with
    | nil =>
      rw [List.intercalate_singleton] at h
      exact ⟨first, List.mem_cons_self, List.mem_of_getLast? h⟩
    | cons next rest =>
      have others := fun part later => nonempty part (List.mem_cons_of_mem first later)
      -- Something comes after the mark, so the last character is in the rest.
      have tail : [mark].intercalate (next :: rest) ≠ [] := by
        rw [intercalate_cons]
        exact List.append_ne_nil_of_left_ne_nil (others next List.mem_cons_self) _
      rw [List.intercalate_cons_cons, List.getLast?_append,
        Option.or_of_isSome (List.getLast?_isSome.2 tail)] at h
      obtain ⟨part, member, inPart⟩ := ih others h
      exact ⟨part, List.mem_cons_of_mem first member, inPart⟩

/-- A change that leaves the mark alone can be made before the parts are joined. -/
theorem map_intercalate {mark : Char} {f : Char → Char} (same : f mark = mark)
    (parts : List (List Char)) :
    ([mark].intercalate parts).map f = [mark].intercalate (parts.map (·.map f)) := by
  induction parts with
  | nil => rfl
  | cons first rest ih =>
    cases rest with
    | nil => simp
    | cons next rest =>
      rw [List.intercalate_cons_cons, List.map_append, List.map_append, List.map_singleton, same,
        ih]
      exact List.intercalate_cons_cons.symm

end Text

/-! ## Names -/

/-- A name, taken apart into its first character and the others. -/
theorem isName_iff {s : String} :
    isName s = true ↔ ∃ c rest, s.toList = c :: rest ∧ isNameStart c = true ∧
      ∀ d ∈ rest, isNameContinue d = true := by
  rw [isName]
  split
  · rename_i empty
    simp [empty]
  · rename_i c rest text
    simp only [text, Bool.and_eq_true, List.all_eq_true, List.cons.injEq]
    constructor
    · rintro ⟨start, continues⟩
      exact ⟨c, rest, ⟨rfl, rfl⟩, start, continues⟩
    · rintro ⟨_, _, ⟨rfl, rfl⟩, start, continues⟩
      exact ⟨start, continues⟩

/-- A name goes on with whatever may continue it. -/
theorem isName_append {a b : String} (name : isName a = true)
    (more : b.toList.all isNameContinue = true) : isName (a ++ b) = true := by
  obtain ⟨c, rest, text, start, continues⟩ := isName_iff.1 name
  rw [List.all_eq_true] at more
  refine isName_iff.2 ⟨c, rest ++ b.toList, by rw [String.toList_append, text]; rfl, start, ?_⟩
  intro d member
  rcases List.mem_append.1 member with before | after
  · exact continues d before
  · exact more d after

/-- What may stand neither first nor later in a name does not stand in one. -/
theorem not_mem_of_isName {name : String} {c : Char} (h : isName name = true)
    (start : isNameStart c = false) (continues : isNameContinue c = false) : c ∉ name.toList := by
  obtain ⟨first, rest, text, starts, continued⟩ := isName_iff.1 h
  rw [text, List.mem_cons, not_or]
  constructor
  · rintro rfl
    rw [start] at starts
    cases starts
  · intro member
    have later := continued c member
    rw [continues] at later
    cases later

/-- A name stands on one line. -/
theorem newline_not_mem_of_isName {name : String} (h : isName name = true) : '\n' ∉ name.toList :=
  not_mem_of_isName h (by decide) (by decide)

/-! ## Names spelt like identifiers -/

/-- A name with the characters of an identifier: a letter first, then letters, digits and
underscores. It may still be a keyword. -/
def IdentifierLike (name : String) : Prop :=
  ∃ c rest, name.toList = c :: rest ∧ c.isAlpha = true ∧ ∀ d ∈ rest, isIdentifierChar d = true

/-- An identifier is spelt like one and is no keyword. -/
theorem isIdentifier_iff {name : String} :
    isIdentifier name = true ↔ IdentifierLike name ∧ isKeyword name = false := by
  rw [isIdentifier]
  split
  · rename_i empty
    simp [IdentifierLike, empty]
  · rename_i c rest text
    simp only [Bool.and_eq_true, List.all_eq_true, Bool.not_eq_true', IdentifierLike, text,
      List.cons.injEq]
    constructor
    · rintro ⟨⟨letter, others⟩, free⟩
      exact ⟨⟨c, rest, ⟨rfl, rfl⟩, letter, others⟩, free⟩
    · rintro ⟨⟨_, _, ⟨rfl, rfl⟩, letter, others⟩, free⟩
      exact ⟨⟨letter, others⟩, free⟩

/-- Whether a name begins with a capital letter. -/
def isCapital (name : String) : Bool :=
  name.toList.head?.any Char.isUpper

/-- The first letter is that of the first part. -/
theorem isCapital_append {a b : String} (h : a.toList ≠ []) :
    isCapital (a ++ b) = isCapital a := by
  obtain ⟨c, rest, text⟩ := List.exists_cons_of_ne_nil h
  rw [isCapital, isCapital, String.toList_append, text]
  rfl

theorem IdentifierLike.toList_ne_nil {name : String} (h : IdentifierLike name) :
    name.toList ≠ [] := by
  obtain ⟨c, rest, text, -, -⟩ := h
  rw [text]
  exact List.cons_ne_nil c rest

theorem isIdentifierChar_of_isAlphanum {c : Char} (h : c.isAlphanum = true) :
    isIdentifierChar c = true := by
  rw [isIdentifierChar, h, Bool.true_or]

theorem isNameContinue_of_isIdentifierChar {c : Char} (h : isIdentifierChar c = true) :
    isNameContinue c = true := by
  rw [isIdentifierChar, Bool.or_eq_true, beq_iff_eq] at h
  rcases h with letter | rfl
  · rw [isNameContinue, if_pos (ascii_of_isAlphanum letter), letter, Bool.or_true]
  · decide

namespace IdentifierLike

/-- All characters of what is spelt like an identifier may stand in one. -/
theorem isIdentifierChar_of_mem {name : String} {d : Char} (h : IdentifierLike name)
    (member : d ∈ name.toList) : isIdentifierChar d = true := by
  obtain ⟨c, rest, text, letter, others⟩ := h
  rw [text] at member
  rcases List.mem_cons.1 member with rfl | later
  · exact isIdentifierChar_of_isAlphanum (isAlphanum_of_isAlpha letter)
  · exact others d later

/-- What is spelt like an identifier may go on with such characters. -/
theorem append {a b : String} (h : IdentifierLike a)
    (more : ∀ d ∈ b.toList, isIdentifierChar d = true) : IdentifierLike (a ++ b) := by
  obtain ⟨c, rest, text, letter, others⟩ := h
  refine ⟨c, rest ++ b.toList, by rw [String.toList_append, text]; rfl, letter, ?_⟩
  intro d member
  rcases List.mem_append.1 member with before | after
  · exact others d before
  · exact more d after

/-- Such a name can stand as a name. -/
theorem isName {name : String} (h : IdentifierLike name) : isName name = true := by
  obtain ⟨c, rest, text, letter, others⟩ := h
  refine isName_iff.2 ⟨c, rest, text, ?_, fun d member => ?_⟩
  · rw [isNameStart, if_pos (ascii_of_isAlphanum (isAlphanum_of_isAlpha letter)), letter,
      Bool.or_true]
  · exact isNameContinue_of_isIdentifierChar (others d member)

end IdentifierLike

/-! ## The words of an identifier -/

/-- Of the characters of an identifier, words are made of the letters and digits. -/
theorem isAlphanum_of_isIdentifierChar {c : Char} (h : isIdentifierChar c = true)
    (kept : isAlphanumeric c = true) : c.isAlphanum = true := by
  rw [isIdentifierChar, Bool.or_eq_true, beq_iff_eq] at h
  rcases h with letter | rfl
  · exact letter
  · revert kept
    decide

/-- The words of an identifier are made of letters and digits. The first begins with a letter. -/
theorem words_of_isIdentifier {name : String} (h : isIdentifier name = true) :
    ∃ c w ws, words name.toList = (c :: w) :: ws ∧ c.isAlpha = true ∧
      ∀ v ∈ (c :: w) :: ws, ∀ d ∈ v, d.isAlphanum = true := by
  obtain ⟨⟨c, rest, text, letter, others⟩, -⟩ := isIdentifier_iff.1 h
  have first : isAlphanumeric c = true := by
    rw [isAlphanumeric_of_ascii (ascii_of_isAlphanum (isAlphanum_of_isAlpha letter))]
    exact isAlphanum_of_isAlpha letter
  have whole := flatten_words name.toList
  rw [text, List.filter_cons_of_pos first] at whole
  rw [text]
  have nonempty (w : List Char) (member : w ∈ words (c :: rest)) : w ≠ [] :=
    ne_nil_of_mem_words member
  have letters (v : List Char) (member : v ∈ words (c :: rest)) (d : Char) (mem : d ∈ v) :
      d.isAlphanum = true := by
    have kept : d ∈ (words (c :: rest)).flatten := List.mem_flatten.2 ⟨v, member, mem⟩
    rw [whole] at kept
    rcases List.mem_cons.1 kept with rfl | later
    · exact isAlphanum_of_isAlpha letter
    · obtain ⟨inside, alphanumeric⟩ := List.mem_filter.1 later
      exact isAlphanum_of_isIdentifierChar (others d inside) alphanumeric
  -- The first word is not empty, so it begins as the name does.
  match hw : words (c :: rest) with
  | [] =>
    rw [hw] at whole
    cases whole
  | [] :: _ => exact absurd rfl (nonempty [] (by rw [hw]; exact List.mem_cons_self))
  | (d :: w) :: ws =>
    rw [hw] at whole
    obtain rfl : d = c := (List.cons.inj whole).1
    refine ⟨d, w, ws, rfl, letter, ?_⟩
    rw [← hw]
    exact letters

/-! ## Names made from an identifier -/

/-- The words of an identifier, altered letter by letter and joined by underscores. -/
def joinWords (alter : Char → Char) (name : String) : List Char :=
  ['_'].intercalate ((words name.toList).map (·.map alter))

/-- The snake-case form of an identifier has its words in lower case. -/
theorem snakeCase_toList {name : String} (h : isIdentifier name = true) :
    (snakeCase name).toList = joinWords Char.toLower name := by
  obtain ⟨c, w, ws, cut, -, letters⟩ := words_of_isIdentifier h
  rw [snakeCase, String.toList_ofList, joinWords, cut]
  exact congrArg _ (List.map_congr_left fun v member => lowerWord_eq_map (letters v member))

/-- The shouty form of an identifier has its words in upper case. -/
theorem shoutySnakeCase_toList {name : String} (h : isIdentifier name = true) :
    (shoutySnakeCase name).toList = joinWords Char.toUpper name := by
  obtain ⟨c, w, ws, cut, -, letters⟩ := words_of_isIdentifier h
  rw [shoutySnakeCase, String.toList_ofList, joinWords, cut]
  exact congrArg _ (List.map_congr_left fun v member => upperWord_eq_map (letters v member))

/-- Joined words begin with the first letter and go on with letters, digits and underscores. -/
theorem joinWords_eq {name : String} {alter : Char → Char} (h : isIdentifier name = true)
    (letters : ∀ d, d.isAlphanum = true → (alter d).isAlphanum = true) :
    ∃ c rest, joinWords alter name = alter c :: rest ∧ c.isAlpha = true ∧
      ∀ d ∈ rest, isIdentifierChar d = true := by
  obtain ⟨c, w, ws, cut, letter, inside⟩ := words_of_isIdentifier h
  refine ⟨c, w.map alter ++ (ws.map (·.map alter)).flatMap ('_' :: ·), ?_, letter, ?_⟩
  · rw [joinWords, cut, List.map_cons, intercalate_cons]
    rfl
  intro d member
  -- All but the first character are those of the joined words.
  have joined : d ∈ joinWords alter name := by
    rw [joinWords, cut, List.map_cons, intercalate_cons]
    exact List.mem_cons_of_mem _ member
  rcases mem_of_mem_intercalate joined with rfl | ⟨part, inParts, inPart⟩
  · decide
  obtain ⟨v, word, rfl⟩ := List.mem_map.1 inParts
  obtain ⟨e, inWord, rfl⟩ := List.mem_map.1 inPart
  rw [cut] at word
  exact isIdentifierChar_of_isAlphanum (letters e (inside v word e inWord))

/-- Joined words do not end in an underscore, since no word is empty. -/
theorem getLast?_joinWords_ne {name : String} {alter : Char → Char} (h : isIdentifier name = true)
    (letters : ∀ d, d.isAlphanum = true → (alter d).isAlphanum = true) :
    (joinWords alter name).getLast? ≠ some '_' := by
  obtain ⟨c, w, ws, cut, -, inside⟩ := words_of_isIdentifier h
  intro last
  have nonempty : ∀ part ∈ (words name.toList).map (·.map alter), part ≠ [] := by
    intro part member
    obtain ⟨v, word, rfl⟩ := List.mem_map.1 member
    simpa using ne_nil_of_mem_words word
  obtain ⟨part, inParts, inPart⟩ := mem_of_getLast?_intercalate nonempty last
  obtain ⟨v, word, rfl⟩ := List.mem_map.1 inParts
  obtain ⟨e, inWord, same⟩ := List.mem_map.1 inPart
  rw [cut] at word
  -- The last character is a letter or digit of some word.
  have letter := letters e (inside v word e inWord)
  rw [same] at letter
  revert letter
  decide

/-- Altering the letters of joined words once more gives words that are altered otherwise. -/
theorem map_joinWords {name : String} {first next both : Char → Char}
    (h : isIdentifier name = true) (mark : next '_' = '_')
    (same : ∀ d, d.isAlphanum = true → next (first d) = both d) :
    (joinWords first name).map next = joinWords both name := by
  obtain ⟨c, w, ws, cut, -, inside⟩ := words_of_isIdentifier h
  rw [joinWords, joinWords, map_intercalate mark, List.map_map, cut]
  refine congrArg _ (List.map_congr_left fun v member => ?_)
  rw [Function.comp_apply, List.map_map]
  exact List.map_congr_left fun d inWord => same d (inside v member d inWord)

/-- The shouty form in lower case is the snake-case form. -/
theorem map_toLower_shoutySnakeCase {name : String} (h : isIdentifier name = true) :
    (shoutySnakeCase name).toList.map Char.toLower = (snakeCase name).toList := by
  rw [shoutySnakeCase_toList h, snakeCase_toList h]
  exact map_joinWords h rfl fun d => toLower_toUpper

/-- Names with the same shouty form have the same snake-case form. -/
theorem snakeCase_eq_of_shoutySnakeCase_eq {a b : String} (ha : isIdentifier a = true)
    (hb : isIdentifier b = true) (h : shoutySnakeCase a = shoutySnakeCase b) :
    snakeCase a = snakeCase b := by
  apply String.toList_inj.1
  rw [← map_toLower_shoutySnakeCase ha, ← map_toLower_shoutySnakeCase hb, h]

/-- The snake-case form of an identifier is spelt like one and does not begin with a capital
letter. -/
theorem snakeCase_spelling {name : String} (h : isIdentifier name = true) :
    IdentifierLike (snakeCase name) ∧ isCapital (snakeCase name) = false := by
  obtain ⟨c, rest, text, letter, others⟩ := joinWords_eq h fun d => And.left ∘ isAlphanum_cased
  have spelt := (snakeCase_toList h).trans text
  have small := (cased_of_isAlpha letter).1
  refine ⟨⟨_, rest, spelt, isAlpha_of_isLower small, others⟩, ?_⟩
  rw [isCapital, spelt]
  exact isUpper_of_isLower small

/-- The snake case of an identifier is spelt like one, but it may be a keyword. -/
theorem identifierLike_snakeCase {name : String} (h : isIdentifier name = true) :
    IdentifierLike (snakeCase name) :=
  (snakeCase_spelling h).1

/-- The shouty form of an identifier is spelt like one and begins with a capital letter. -/
theorem shoutySnakeCase_spelling {name : String} (h : isIdentifier name = true) :
    IdentifierLike (shoutySnakeCase name) ∧ isCapital (shoutySnakeCase name) = true := by
  obtain ⟨c, rest, text, letter, others⟩ := joinWords_eq h fun d => And.right ∘ isAlphanum_cased
  have spelt := (shoutySnakeCase_toList h).trans text
  have capital := (cased_of_isAlpha letter).2
  refine ⟨⟨_, rest, spelt, isAlpha_of_isUpper capital, others⟩, ?_⟩
  rw [isCapital, spelt]
  exact capital

/-- A word in Pascal case is made of letters and digits. -/
theorem isAlphanum_of_mem_capitalWord {w : List Char} {d : Char}
    (letters : ∀ e ∈ w, e.isAlphanum = true) (member : d ∈ capitalWord w) :
    d.isAlphanum = true := by
  cases w with
  | nil => cases member
  | cons c rest =>
    have tail : ∀ e ∈ rest, e.isAlphanum = true :=
      fun e later => letters e (List.mem_cons_of_mem c later)
    have first := letters c List.mem_cons_self
    -- In ASCII raising a letter and lowering the others is done one by one.
    rw [capitalWord, toUpper_of_isAlphanum first, lowerWord_eq_map tail] at member
    rcases List.mem_cons.1 member with rfl | later
    · exact (isAlphanum_cased first).2
    · obtain ⟨e, inWord, rfl⟩ := List.mem_map.1 later
      exact (isAlphanum_cased (tail e inWord)).1

/-- The type of an identifier has a name of letters and digits only. -/
theorem isAlphanum_of_mem_typeName {name : String} {d : Char} (h : isIdentifier name = true)
    (member : d ∈ (typeName name).toList) : d.isAlphanum = true := by
  obtain ⟨c, w, ws, cut, -, letters⟩ := words_of_isIdentifier h
  rw [typeName, pascalCase, cut, String.toList_ofList] at member
  obtain ⟨v, word, inWord⟩ := List.mem_flatMap.1 member
  exact isAlphanum_of_mem_capitalWord (letters v word) inWord

/-- The type of an identifier has a name that is spelt like one and begins with a capital letter. -/
theorem typeName_spelling {name : String} (h : isIdentifier name = true) :
    IdentifierLike (typeName name) ∧ isCapital (typeName name) = true := by
  obtain ⟨c, w, ws, cut, letter, letters⟩ := words_of_isIdentifier h
  have raised := toUpper_of_isAlphanum (isAlphanum_of_isAlpha letter)
  have text : (typeName name).toList =
      c.toUpper :: (lowerWord w ++ ws.flatMap capitalWord) := by
    rw [typeName, pascalCase, cut, String.toList_ofList, List.flatMap_cons, capitalWord, raised]
    rfl
  -- Identifiers begin with a letter, so there is something to raise.
  have capital := (cased_of_isAlpha letter).2
  refine ⟨⟨_, _, text, isAlpha_of_isUpper capital, ?_⟩, ?_⟩
  case refine_2 =>
    rw [isCapital, text]
    exact capital
  intro d member
  apply isIdentifierChar_of_isAlphanum
  apply isAlphanum_of_mem_typeName h
  rw [text]
  exact List.mem_cons_of_mem _ member

/-- The type of an identifier has a name that can be written. -/
theorem isName_typeName {name : String} (h : isIdentifier name = true) :
    isName (typeName name) = true :=
  (typeName_spelling h).1.isName

namespace HostFile

/-- The constant of a field is spelt like an identifier. -/
theorem identifierLike_constantName {field : String} (h : isIdentifier field = true) :
    IdentifierLike (constantName field) := by
  rw [constantName]
  exact (shoutySnakeCase_spelling h).1.append (List.all_eq_true.1 (by decide))

/-- Constants begin with a capital letter. -/
theorem isCapital_constantName {field : String} (h : isIdentifier field = true) :
    isCapital (constantName field) = true := by
  obtain ⟨like, capital⟩ := shoutySnakeCase_spelling h
  rw [constantName, isCapital_append like.toList_ne_nil, capital]

theorem identifierLike_encoderName {field : String} (h : isIdentifier field = true) :
    IdentifierLike (encoderName field) := by
  have verb : IdentifierLike "encode_" := ⟨'e', _, rfl, by decide, List.all_eq_true.1 (by decide)⟩
  exact verb.append fun d => (identifierLike_snakeCase h).isIdentifierChar_of_mem

theorem identifierLike_decoderName {field : String} (h : isIdentifier field = true) :
    IdentifierLike (decoderName field) := by
  have verb : IdentifierLike "decode_" := ⟨'d', _, rfl, by decide, List.all_eq_true.1 (by decide)⟩
  exact verb.append fun d => (identifierLike_snakeCase h).isIdentifierChar_of_mem

end HostFile

end RowBindings
