import RowBindings.Bindings.HostFile.Print
import RowBindings.Proofs.Identifier.Spelling

/-!
# Reading tokens of host code

`readTokens` cuts host code into tokens as the Rust language has them: names and numbers, marks,
where the longest mark wins, and documentation comments, which are attributes. It goes through the
text character by character. Of what it is in the middle of it knows what was read so far, the
`Pending` token. What no generated file contains is not read at all: string literals, lifetimes,
block comments and numbers with a fraction.
-/

namespace RowBindings.HostFile

open Text

inductive Token
  /-- A name, a keyword or a number. -/
  | word (s : String)
  | mark (s : String)
  /-- A string literal, which stands only in attributes that were written as comments. -/
  | text (s : String)
  deriving DecidableEq, Repr

def longMarks : List (List Char) :=
  [['<', '<', '='], ['>', '>', '='], ['.', '.', '.'], ['.', '.', '='], [':', ':'], ['-', '>'],
   ['<', '-'], ['=', '>'], ['=', '='], ['!', '='], ['<', '='], ['>', '='], ['&', '&'], ['|', '|'],
   ['+', '='], ['-', '='], ['*', '='], ['/', '='], ['%', '='], ['^', '='], ['&', '='], ['|', '='],
   ['<', '<'], ['>', '>'], ['.', '.']]

def shortMarks : List Char :=
  ['+', '-', '*', '/', '%', '^', '!', '&', '|', '=', '<', '>', '@', '.', ',', ';', ':', '#', '$',
   '?', '~', '(', ')', '[', ']', '\x7b', '\x7d']

/-- The tokens of a documentation attribute. One that documents the enclosing item has an
exclamation mark. -/
def docTokens (inner : Bool) (doc : String) : List Token :=
  Token.mark "#" :: (if inner then [Token.mark "!"] else []) ++
    [.mark "[", .word "doc", .mark "=", .text doc, .mark "]"]

/-- The tokens of a comment, given without the two slashes that begin it. A third slash or an
exclamation mark makes it documentation, a fourth slash does not. -/
def commentTokens : List Char → List Token
  | '/' :: '/' :: _ => []
  | '/' :: doc => docTokens false (String.ofList doc)
  | '!' :: doc => docTokens true (String.ofList doc)
  | _ => []

/-- What has been read of the token that is being read. -/
inductive Pending
  /-- Nothing: the text is between two tokens. -/
  | none
  | word (read : List Char)
  | mark (read : List Char)
  /-- A comment up to the end of the line, without the two slashes that begin it. -/
  | comment (read : List Char)
  deriving DecidableEq

namespace Pending

/-- The token that begins with `c`, if one may. White space begins none. -/
def start? (c : Char) : Option Pending :=
  if c = ' ' ∨ c = '\n' ∨ c = '\t' ∨ c = '\r' then some .none
  else if isNameStart c || c.isDigit then some (.word [c])
  else if shortMarks.contains c then some (.mark [c])
  else Option.none

/-- The token that goes on with `c`, if it does. The letter `r` and a hash begin a raw name. -/
def more? : Pending → Char → Option Pending
  | .none, _ => Option.none
  | .word read, c =>
    if (read = ['r'] ∧ c = '#') ∨ (read = ['r', '#'] ∧ isNameStart c) ∨
        (read ≠ ['r', '#'] ∧ isNameContinue c) then some (.word (read ++ [c]))
    else Option.none
  | .mark read, c =>
    if read = ['/'] ∧ c = '/' then some (.comment [])
    else if longMarks.contains (read ++ [c]) then some (.mark (read ++ [c]))
    else Option.none
  | .comment read, c => if c = '\n' then Option.none else some (.comment (read ++ [c]))

/-- Whether `c` would make something of the token that is not read: a prefixed literal, a number
with a fraction, a block comment. -/
def refuses : Pending → Char → Bool
  | .none, _ => false
  | .word read, c => (c == '#' && read != ['r']) || (c == '.' && read.head?.any Char.isDigit)
  | .mark read, c => read == ['/'] && c == '*'
  | .comment _, _ => false

/-- Whether the token ends before `c`. -/
def ends (p : Pending) (c : Char) : Bool :=
  (p.more? c).isNone && !p.refuses c

/-- The tokens read once nothing more belongs to them. -/
def close? : Pending → Option (List Token)
  | .none => some []
  | .word read => if read = ['r', '#'] then Option.none else some [.word (String.ofList read)]
  | .mark read => some [.mark (String.ofList read)]
  | .comment read => some (commentTokens read)

/-- Read one character: the tokens that it ends and the one that it belongs to. -/
def step (p : Pending) (c : Char) : Option (List Token × Pending) :=
  if p.refuses c then Option.none
  else
    match p.more? c with
    | some q => some ([], q)
    | Option.none => p.close?.bind fun ts => (start? c).map (ts, ·)

def scan (p : Pending) : List Char → Option (List Token × Pending)
  | [] => some ([], p)
  | c :: rest =>
    (p.step c).bind fun (ts, q) => (q.scan rest).map fun (us, r) => (ts ++ us, r)

/-- Read a whole text, given what is pending before it. -/
def read? (p : Pending) (s : List Char) : Option (List Token) :=
  (p.scan s).bind fun (ts, q) => q.close?.map (ts ++ ·)

end Pending

def readTokens (s : String) : Option (List Token) :=
  Pending.none.read? s.toList

namespace Pending

/-! ## Reading on -/

@[simp] theorem scan_nil (p : Pending) : p.scan [] = some ([], p) := rfl

theorem scan_cons (p : Pending) (c : Char) (rest : List Char) :
    p.scan (c :: rest) =
      (p.step c).bind fun (ts, q) => (q.scan rest).map fun (us, r) => (ts ++ us, r) := rfl

/-- Reading goes on where it stopped. -/
theorem scan_append (p : Pending) (a b : List Char) :
    p.scan (a ++ b) =
      (p.scan a).bind fun (ts, q) => (q.scan b).map fun (us, r) => (ts ++ us, r) := by
  -- The induction is on the first text; what is pending changes with every character.
  induction a generalizing p with
  | nil =>
    show p.scan b = (p.scan b).map fun (us, r) => ([] ++ us, r)
    cases p.scan b with
    | none => rfl
    | some result => rfl
  | cons c a ih =>
    rw [List.cons_append, scan_cons, scan_cons]
    cases p.step c with
    | none => rfl
    | some first =>
      obtain ⟨ts, q⟩ := first
      simp only [Option.bind_some, ih]
      cases q.scan a with
      | none => rfl
      | some second =>
        obtain ⟨us, r⟩ := second
        simp only [Option.bind_some, Option.map_some]
        cases r.scan b with
        | none => rfl
        | some third => simp

theorem scan_cons_of {p q r : Pending} {c : Char} {rest : List Char} {ts us : List Token}
    (first : p.step c = some (ts, q)) (later : q.scan rest = some (us, r)) :
    p.scan (c :: rest) = some (ts ++ us, r) := by
  rw [scan_cons, first]
  show (q.scan rest).map _ = _
  rw [later]
  rfl

theorem scan_append_of {p q r : Pending} {a b : List Char} {ts us : List Token}
    (first : p.scan a = some (ts, q)) (later : q.scan b = some (us, r)) :
    p.scan (a ++ b) = some (ts ++ us, r) := by
  rw [scan_append, first]
  show (q.scan b).map _ = _
  rw [later]
  rfl

theorem read?_nil (p : Pending) : p.read? [] = p.close? := by
  show p.close?.map ([] ++ ·) = p.close?
  cases p.close? with
  | none => rfl
  | some ts => rfl

/-- A whole text is read after the part before it. -/
theorem read?_append (p : Pending) (a b : List Char) :
    p.read? (a ++ b) = (p.scan a).bind fun (ts, q) => (q.read? b).map (ts ++ ·) := by
  rw [read?, scan_append]
  cases p.scan a with
  | none => rfl
  | some first =>
    obtain ⟨ts, q⟩ := first
    simp only [Option.bind_some, read?]
    cases q.scan b with
    | none => rfl
    | some second =>
      obtain ⟨us, r⟩ := second
      simp only [Option.map_some, Option.bind_some]
      cases r.close? with
      | none => rfl
      | some vs => simp

theorem read?_cons (p : Pending) (c : Char) (rest : List Char) :
    p.read? (c :: rest) = (p.step c).bind fun (ts, q) => (q.read? rest).map (ts ++ ·) := by
  have single := read?_append p [c] rest
  rw [List.singleton_append, scan_cons] at single
  rw [single]
  cases p.step c with
  | none => rfl
  | some first => simp

/-! ## Where tokens end -/

/-- A character that ends a token begins the next one. -/
theorem step_of_ends {p : Pending} {c : Char} (h : p.ends c = true) :
    p.step c = p.close?.bind fun ts => (start? c).map (ts, ·) := by
  rw [ends, Bool.and_eq_true, Option.isNone_iff_eq_none, Bool.not_eq_true'] at h
  rw [step, h.1, h.2]
  rfl

/-- So what is pending may be closed before it. -/
theorem read?_of_ends {p : Pending} {c : Char} (h : p.ends c = true) (rest : List Char) :
    p.read? (c :: rest) =
      p.close?.bind fun ts => (Pending.none.read? (c :: rest)).map (ts ++ ·) := by
  have begins : Pending.none.ends c = true := rfl
  rw [read?_cons, read?_cons, step_of_ends h, step_of_ends begins]
  cases p.close? with
  | none => rfl
  | some ts =>
    simp only [Option.bind_some, close?]
    cases start? c with
    | none => rfl
    | some q => simp

/-- Also while reading goes on, what is pending may be closed there. -/
theorem scan_of_ends {p : Pending} {c : Char} (h : p.ends c = true) (rest : List Char) :
    p.scan (c :: rest) =
      p.close?.bind fun ts => (Pending.none.scan (c :: rest)).map fun (us, q) => (ts ++ us, q) := by
  have begins : Pending.none.ends c = true := rfl
  rw [scan_cons, scan_cons, step_of_ends h, step_of_ends begins]
  cases p.close? with
  | none => rfl
  | some ts =>
    simp only [Option.bind_some, close?]
    cases start? c with
    | none => rfl
    | some q => simp

/-- Whether `c` ends every name and number before it. -/
def endsWords (c : Char) : Bool :=
  !isNameStart c && !isNameContinue c && c != '#' && c != '.'

/-- This does not depend on what was read of the name or number. -/
theorem ends_word {c : Char} (h : endsWords c = true) (read : List Char) :
    (word read).ends c = true := by
  simp only [endsWords, Bool.and_eq_true, Bool.not_eq_true', bne_iff_ne] at h
  obtain ⟨⟨⟨start, continues⟩, hash⟩, dot⟩ := h
  simp [ends, more?, refuses, start, continues, hash, dot]

/-- Whether `c` ends every mark before it: it is the last character of no longer one. -/
def endsMarks (c : Char) : Bool :=
  longMarks.all (·.getLast? != some c) && c != '/' && c != '*'

/-- This does not depend on what was read of the mark. -/
theorem ends_mark {c : Char} (h : endsMarks c = true) (read : List Char) :
    (mark read).ends c = true := by
  simp only [endsMarks, Bool.and_eq_true, List.all_eq_true, bne_iff_ne] at h
  obtain ⟨⟨last, slash⟩, star⟩ := h
  have short : read ++ [c] ∉ longMarks := by
    intro member
    apply last _ member
    rw [List.getLast?_append]
    rfl
  simp [ends, more?, refuses, slash, star, short]

/-- No mark goes on with the first character of a name or a number. -/
theorem endsMarks_of_word {c : Char} (h : (isNameStart c || c.isDigit) = true) :
    endsMarks c = true := by
  -- This is decided for the list of marks: none ends in a letter, an underscore or a digit.
  have last : ∀ m ∈ longMarks, m.getLast?.all (fun d => !(isNameStart d || d.isDigit)) = true := by
    decide
  have other (d : Char) (no : (isNameStart d || d.isDigit) = false) : c ≠ d := by
    rintro rfl
    rw [h] at no
    cases no
  simp only [endsMarks, Bool.and_eq_true, List.all_eq_true, bne_iff_ne]
  refine ⟨⟨?_, other '/' (by decide)⟩, other '*' (by decide)⟩
  intro m member same
  have no := last m member
  rw [same] at no
  exact other c (by simpa using no) rfl

/-- The end of a line ends everything, also a comment. -/
theorem ends_newline (p : Pending) : p.ends '\n' = true := by
  cases p with
  | none => rfl
  | word read => exact ends_word (by decide) read
  | mark read => exact ends_mark (by decide) read
  | comment read => rfl

/-- The end of a line closes what is pending. -/
theorem read?_newline (p : Pending) (rest : List Char) :
    p.read? ('\n' :: rest) = p.close?.bind fun ts => (Pending.none.read? rest).map (ts ++ ·) := by
  have blank : Pending.none.read? ('\n' :: rest) = Pending.none.read? rest := by
    rw [read?_cons]
    show (Pending.none.read? rest).map ([] ++ ·) = _
    cases Pending.none.read? rest with
    | none => rfl
    | some ts => rfl
  rw [read?_of_ends p.ends_newline, blank]

/-- Spaces between tokens are nothing. -/
theorem read?_spaces (count : Nat) (rest : List Char) :
    Pending.none.read? (List.replicate count ' ' ++ rest) = Pending.none.read? rest := by
  induction count with
  | zero => rfl
  | succ count ih =>
    rw [List.replicate_succ, List.cons_append, read?_cons]
    show (Pending.none.read? (List.replicate count ' ' ++ rest)).map ([] ++ ·) = _
    rw [ih]
    cases Pending.none.read? rest with
    | none => rfl
    | some ts => rfl

/-! ## Names -/

/-- A text that is read as one word, also directly after a mark. -/
structure IsWord (s : String) : Prop where
  scan : Pending.none.scan s.toList = some ([], .word s.toList)
  complete : s.toList ≠ ['r', '#']
  begins : ∃ c rest, s.toList = c :: rest ∧ endsMarks c = true

/-- Once nothing more belongs to it, a word is one token. -/
theorem close?_of_isWord {s : String} (h : IsWord s) :
    (word s.toList).close? = some [.word s] := by
  rw [close?, if_neg h.complete, String.ofList_toList]

/-- A word and the text directly after it, which begins another token. -/
theorem scan_word_text {s t : String} {ts : List Token} {q : Pending} (h : IsWord s)
    (begins : t.toList.head?.any endsWords = true)
    (scanned : Pending.none.scan t.toList = some (ts, q)) :
    (word s.toList).scan t.toList = some (.word s :: ts, q) := by
  cases text : t.toList with
  | nil =>
    rw [text] at begins
    cases begins
  | cons c rest =>
    rw [text] at begins scanned
    rw [scan_of_ends (ends_word begins _), close?_of_isWord h, Option.bind_some, scanned]
    rfl

/-- A mark and the word directly after it. -/
theorem scan_mark_word {s : String} {read : List Char} (h : IsWord s) :
    (mark read).scan s.toList = some ([.mark (String.ofList read)], .word s.toList) := by
  have scanned := h.scan
  obtain ⟨c, rest, text, ends⟩ := h.begins
  rw [text] at scanned ⊢
  rw [scan_of_ends (ends_mark ends read), scanned]
  rfl

/-- A word that is not the beginning of a raw name goes on. -/
theorem step_word {read : List Char} {c : Char} (raw : read ≠ ['r', '#'])
    (continues : isNameContinue c = true) :
    (word read).step c = some ([], .word (read ++ [c])) := by
  have hash : c ≠ '#' := by
    rintro rfl
    revert continues
    decide
  have dot : c ≠ '.' := by
    rintro rfl
    revert continues
    decide
  simp [step, more?, refuses, raw, continues, hash, dot]

/-- A word goes on with all characters that may continue a name. -/
theorem scan_word {read rest : List Char} (raw : read ≠ ['r', '#'])
    (continues : ∀ c ∈ rest, isNameContinue c = true) :
    (word read).scan rest = some ([], .word (read ++ rest)) := by
  induction rest generalizing read with
  | nil => rw [scan_nil, List.append_nil]
  | cons c rest ih =>
    have first := continues c List.mem_cons_self
    -- No hash was read, so the word is not the beginning of a raw name.
    have raw' : read ++ [c] ≠ ['r', '#'] := by
      intro same
      have last := (List.append_inj' (show read ++ [c] = ['r'] ++ ['#'] from same) rfl).2
      obtain rfl := List.singleton_inj.1 last
      revert first
      decide
    have later := ih raw' fun d member => continues d (List.mem_cons_of_mem c member)
    rw [scan_cons_of (step_word raw first) later, List.append_assoc]
    rfl

/-- A letter, an underscore or a digit begins a word. -/
theorem start?_of_word {c : Char} (h : (isNameStart c || c.isDigit) = true) :
    start? c = some (.word [c]) := by
  have blank : ¬(c = ' ' ∨ c = '\n' ∨ c = '\t' ∨ c = '\r') := by
    rintro (rfl | rfl | rfl | rfl) <;> revert h <;> decide
  rw [start?, if_neg blank, if_pos h]

/-- Without a hash, no text is the beginning of a raw name. -/
theorem not_raw_of_continues {c : Char} {rest : List Char}
    (continues : ∀ d ∈ rest, isNameContinue d = true) : c :: rest ≠ ['r', '#'] := by
  intro same
  obtain ⟨-, rfl⟩ := List.cons.inj same
  have hash := continues '#' List.mem_cons_self
  revert hash
  decide

/-- A letter, an underscore or a digit and what may continue a name are one word. -/
theorem isWord_of_start {s : String} {c : Char} {rest : List Char} (text : s.toList = c :: rest)
    (start : (isNameStart c || c.isDigit) = true)
    (continues : ∀ d ∈ rest, isNameContinue d = true) : IsWord s where
  scan := by
    have first : Pending.none.step c = some ([], .word [c]) := by
      rw [step_of_ends (by rfl), start?_of_word start]
      rfl
    rw [text]
    exact scan_cons_of first (scan_word (by simp) continues)
  complete := by
    rw [text]
    exact not_raw_of_continues continues
  begins := ⟨c, rest, text, endsMarks_of_word start⟩

theorem isWord_of_isName {s : String} (h : isName s = true) : IsWord s := by
  obtain ⟨c, rest, text, start, continues⟩ := isName_iff.1 h
  exact isWord_of_start text (by rw [start, Bool.true_or]) continues

/-- A name that had to be escaped is still one word. -/
theorem isWord_escapeKeyword {s : String} (h : isName s = true) : IsWord (escapeKeyword s) := by
  rw [escapeKeyword]
  split
  · exact isWord_of_isName (isName_append h (by decide))
  split
  · -- A raw name: the hash belongs to the word because a single `r` stands before it.
    obtain ⟨c, rest, text, start, continues⟩ := isName_iff.1 h
    have raw : ("r#" ++ s).toList = 'r' :: '#' :: c :: rest := by
      rw [String.toList_append, text]
      rfl
    have begun : Pending.none.scan ['r', '#'] = some ([], .word ['r', '#']) := by decide
    have first : (word ['r', '#']).step c = some ([], .word ['r', '#', c]) := by
      have hash : c ≠ '#' := by
        rintro rfl
        revert start
        decide
      simp [step, more?, refuses, start, hash]
    refine ⟨?_, by rw [raw]; simp, 'r', '#' :: c :: rest, raw, by decide⟩
    rw [raw]
    exact scan_append_of begun (scan_cons_of first (scan_word (by simp) continues))
  · exact isWord_of_isName h

/-- A digit may continue a name. -/
theorem isNameContinue_of_isDigit {c : Char} (h : c.isDigit = true) : isNameContinue c = true := by
  have letter : c.isAlphanum = true := by rw [Char.isAlphanum, h, Bool.or_true]
  exact isNameContinue_of_isIdentifierChar (isIdentifierChar_of_isAlphanum letter)

/-- A number is one word. -/
theorem isWord_decimal (n : Nat) : IsWord (decimal n) := by
  have digits (c : Char) (member : c ∈ Nat.toDigits 10 n) : c.isDigit = true :=
    Nat.isDigit_of_mem_toDigits (by decide) (by decide) member
  cases spelled : Nat.toDigits 10 n with
  | nil => exact absurd spelled Nat.toDigits_ne_nil
  | cons c rest =>
    rw [spelled] at digits
    have text : (decimal n).toList = c :: rest := by
      rw [decimal, spelled, String.toList_ofList]
    refine isWord_of_start text (by rw [digits c List.mem_cons_self, Bool.or_true]) ?_
    intro d later
    exact isNameContinue_of_isDigit (digits d (List.mem_cons_of_mem c later))

/-! ## Comments -/

/-- A comment goes on up to the end of the line. -/
theorem scan_comment {read rest : List Char} (line : '\n' ∉ rest) :
    (comment read).scan rest = some ([], .comment (read ++ rest)) := by
  induction rest generalizing read with
  | nil => rw [scan_nil, List.append_nil]
  | cons c rest ih =>
    rw [List.mem_cons, not_or] at line
    have first : (comment read).step c = some ([], .comment (read ++ [c])) := by
      simp [step, more?, refuses, Ne.symm line.1]
    rw [scan_cons_of first (ih line.2), List.append_assoc]
    rfl

end Pending

end RowBindings.HostFile
