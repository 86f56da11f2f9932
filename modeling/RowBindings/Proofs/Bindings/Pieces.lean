import Mathlib.Data.List.Forall2
import RowBindings.Proofs.Bindings.Layout
import RowBindings.Text.Split

/-!
# Pieces of host code and their tokens

Types, arguments, calls and blocks of host code are put together from smaller pieces. `Reads` says
what pieces are read as and what is left pending after them. It has one lemma for every way of
putting pieces together, so what a whole file is read as follows from its parts.
-/

namespace RowBindings

open Layout Text

namespace HostFile

open Token (mark word)

/-! ## Pieces that are read as tokens -/

/-- Tokens that are written with spaces between them. -/
def spaced (s : String) : List Token :=
  (splitAll ' ' s.toList).map fun part =>
    if part.head?.any isNameContinue then .word (String.ofList part)
    else .mark (String.ofList part)

def typeTokens : HostType → List Token
  | .named name => [.word name]
  | .vec element => spaced "Vec <" ++ [word element, .mark ">"]

/-- The pieces are read as `ts`. What is pending after them, which is part of `ts`, is `q`. -/
def Reads (pieces : List Piece) (ts : List Token) (q : Pending) : Prop :=
  ∃ closed, q.close? = some closed ∧ ∀ rest us, tokensFrom q rest = some (closed ++ us) →
    tokensFrom .none (pieces ++ rest) = some (ts ++ us)

namespace Reads

variable {pieces more : List Piece} {ts us : List Token} {p q : Pending}

/-- A single word, given what it is read as from its first character to its last. -/
theorem text {s : String} {closed : List Token}
    (scanned : Pending.none.scan s.toList = some (ts, q)) (closes : q.close? = some closed) :
    Reads [.text s] (ts ++ closed) q := by
  refine ⟨closed, closes, ?_⟩
  intro rest us later
  rw [List.append_assoc]
  exact tokensFrom_text scanned later

/-- Pieces that leave nothing pending can be followed by any others. -/
theorem append (h : Reads pieces ts .none) (h' : Reads more us q) :
    Reads (pieces ++ more) (ts ++ us) q := by
  obtain ⟨closed, closes, first⟩ := h
  obtain ⟨closed', closes', second⟩ := h'
  -- Nothing is pending between the two, so the first add no tokens of their own at the end.
  obtain rfl : [] = closed := Option.some.inj closes
  refine ⟨closed', closes', ?_⟩
  intro rest vs later
  rw [List.append_assoc, List.append_assoc]
  exact first _ _ (second rest vs later)

/-- The end of a group or the beginning of one is not read. -/
theorem skip (h : Reads pieces ts q) (piece : Piece)
    (silent : ∀ p rest, tokensFrom p (piece :: rest) = tokensFrom p rest) :
    Reads (pieces ++ [piece]) ts q := by
  obtain ⟨closed, closes, read⟩ := h
  refine ⟨closed, closes, ?_⟩
  intro rest us later
  rw [List.append_assoc]
  apply read
  rw [List.singleton_append, silent]
  exact later

/-- A word may follow directly if its first character ends what is pending. -/
theorem append_text {s : String} {c : Char} {closed : List Token} (h : Reads pieces ts p)
    (begins : s.toList.head? = some c) (ends : p.ends c = true)
    (scanned : Pending.none.scan s.toList = some (us, q)) (closes : q.close? = some closed) :
    Reads (pieces ++ [Piece.text s]) (ts ++ (us ++ closed)) q := by
  obtain ⟨before, closesBefore, read⟩ := h
  refine ⟨closed, closes, ?_⟩
  intro rest vs later
  rw [List.append_assoc, List.append_assoc]
  apply read
  -- The first character closes what is pending, so the word is read as if nothing were.
  have spelt : p.scan s.toList = some (before ++ us, q) := by
    cases text : s.toList with
    | nil =>
      rw [text] at begins
      cases begins
    | cons d tail =>
      rw [text] at begins scanned
      obtain rfl := Option.some.inj begins
      rw [Pending.scan_of_ends ends, closesBefore, Option.bind_some, scanned]
      rfl
  rw [List.append_assoc, ← List.append_assoc]
  exact tokensFrom_text spelt later

end Reads

/-! ## Items between delimiters -/

/-- Whether an item may begin with `c`: no mark before it goes on with a letter, and none of those
that stand before an item goes on with `&`. -/
def beginsItem (c : Char) : Bool :=
  isNameStart c || c == '&'

/-- The marks that stand before an item. -/
def itemMarks : List (List Char) := [['('], ['<'], [',']]

/-- A mark that opens a list of items, or separates two of them, ends where an item begins. -/
theorem ends_of_beginsItem {read : List Char} {c : Char} (opens : read ∈ itemMarks)
    (h : beginsItem c = true) : (Pending.mark read).ends c = true := by
  rw [beginsItem, Bool.or_eq_true, beq_iff_eq] at h
  rcases h with start | rfl
  · exact Pending.ends_mark (Pending.endsMarks_of_word (by rw [start, Bool.true_or])) read
  · revert read
    decide

/-- A line may end between such a mark and an item. -/
theorem tokensFrom_mark_soft {read : List Char} {c : Char} {blank : Nat} {shift : Int}
    {rest : List Piece} {us : List Token} (opens : read ∈ itemMarks) (first : beginsItem c = true)
    (next : nextChar? rest = some c) (later : tokensFrom .none rest = some us) :
    tokensFrom (.mark read) (.soft blank shift false :: rest) =
      some (.mark (String.ofList read) :: us) := by
  have spaced : (Pending.mark read).ends ' ' = true := Pending.ends_mark (by decide) read
  have seam (ts : List Token) : isSeam (.mark read) (some c) false ts us = true := by
    rw [isSeam, spaced]
    show (true && (Pending.mark read).ends c && true) = true
    rw [ends_of_beginsItem opens first]
    rfl
  exact tokensFrom_soft rfl next (seam _) later

/-- Pieces that may stand between delimiters and commas. -/
structure Item (pieces : List Piece) (ts : List Token) (q : Pending) : Prop where
  reads : Reads pieces ts q
  begins : ∃ c, beginsItem c = true ∧ ∀ rest, nextChar? (pieces ++ rest) = some c
  takesComma : ∃ closed, q.close? = some closed ∧ takesComma closed = true
  endsComma : q.ends ',' = true
  endsBlank : q.ends ' ' = true

/-- Several items, of which the last ends before the closing delimiter. -/
inductive Items (close : Char) : List (List Piece) → List (List Token) → Prop
  | last {pieces : List Piece} {ts : List Token} {q : Pending} :
    Item pieces ts q → q.ends close = true → Items close [pieces] [ts]
  | cons {pieces : List Piece} {ts : List Token} {q : Pending} {items : List (List Piece)}
    {tss : List (List Token)} : Item pieces ts q → Items close items tss →
    Items close (pieces :: items) (ts :: tss)

theorem Items.ne_nil {close : Char} {items : List (List Piece)} {tss : List (List Token)}
    (h : Items close items tss) : items ≠ [] ∧ tss ≠ [] := by
  cases h <;> simp

/-- Items begin with the first of them. -/
theorem Items.begins {close : Char} {items : List (List Piece)} {tss : List (List Token)}
    (h : Items close items tss) (separator rest : List Piece) :
    ∃ c, beginsItem c = true ∧ nextChar? (separator.intercalate items ++ rest) = some c := by
  cases h with
  | last item =>
    obtain ⟨c, begins, next⟩ := item.begins
    rw [List.intercalate_singleton]
    exact ⟨c, begins, next rest⟩
  | cons item more =>
    obtain ⟨c, begins, next⟩ := item.begins
    rw [List.intercalate_cons_of_ne_nil more.ne_nil.1, List.append_assoc, List.append_assoc]
    exact ⟨c, begins, next _⟩

/-- Items with commas between them are read as their tokens with commas between them, up to the
delimiter that closes them. -/
theorem tokensFrom_items {close : Char} {delimiter : String} {items : List (List Piece)}
    {tss : List (List Token)} {rest : List Piece} {us : List Token} (h : Items close items tss)
    (closing : delimiter.toList = [close]) (closes : Token.closes (.mark delimiter) = true)
    (later : tokensFrom .none (.text delimiter :: rest) = some (.mark delimiter :: us)) :
    tokensFrom .none ([Piece.text ",", .soft 1 0 false].intercalate items
        ++ Piece.soft 0 (-4) true :: .leave :: .text delimiter :: rest) =
      some ([mark ","].intercalate tss ++ mark delimiter :: us) := by
  induction h with
  | @last pieces ts q item ends =>
    -- After the last item the line may end with a comma, which then stands before the delimiter.
    obtain ⟨closed, pending, read⟩ := item.reads
    rw [List.intercalate_singleton, List.intercalate_singleton]
    apply read
    obtain ⟨closed', pending', comma⟩ := item.takesComma
    obtain rfl : closed' = closed := Option.some.inj (pending'.symm.trans pending)
    have next : nextChar? (.leave :: .text delimiter :: rest) = some close := by
      show delimiter.toList.head? = _
      rw [closing]
      rfl
    have seam : isSeam q (some close) true closed' (.mark delimiter :: us) = true := by
      rw [isSeam, item.endsBlank, item.endsComma, comma]
      show (true && q.ends close && (!true || (true && true && Token.closes (.mark delimiter)))) = _
      rw [ends, closes]
      rfl
    exact tokensFrom_soft pending next seam later
  | @cons pieces ts q items tss item more ih =>
    obtain ⟨closed, pending, read⟩ := item.reads
    obtain ⟨c, first, next⟩ := more.begins [Piece.text ",", .soft 1 0 false]
      (.soft 0 (-4) true :: .leave :: .text delimiter :: rest)
    rw [List.intercalate_cons_of_ne_nil more.ne_nil.1,
      List.intercalate_cons_of_ne_nil more.ne_nil.2]
    simp only [List.append_assoc, List.cons_append, List.nil_append]
    apply read
    -- The comma ends the item and is itself pending where the line may end.
    have scanned : q.scan ",".toList = some (closed ++ [], .mark [',']) := by
      show q.scan [','] = _
      rw [Pending.scan_of_ends item.endsComma, pending]
      rfl
    have comma : [','] ∈ itemMarks := by decide
    have broken : tokensFrom (.mark [',']) (.soft 1 0 false ::
        ([Piece.text ",", .soft 1 0 false].intercalate items ++
          .soft 0 (-4) true :: .leave :: .text delimiter :: rest)) =
        some (mark "," :: ([mark ","].intercalate tss ++ mark delimiter :: us)) :=
      tokensFrom_mark_soft comma first next ih
    have whole := tokensFrom_text scanned broken
    rw [List.append_nil] at whole
    exact whole

/-- A head that ends in an opening delimiter, items and the closing delimiter. -/
theorem reads_delimited {head delimiter : String} {indent : Int} {read : List Char} {close : Char}
    {items : List (List Piece)} {ts : List Token} {tss : List (List Token)}
    (opening : Pending.none.scan head.toList = some (ts, .mark read)) (opens : read ∈ itemMarks)
    (h : Items close items tss) (closing : delimiter.toList = [close])
    (closes : Token.closes (.mark delimiter) = true)
    (start : Pending.start? close = some (.mark [close])) :
    Reads (.text head :: delimited indent items ++ [Piece.text delimiter])
      (ts ++ mark (String.ofList read) :: [mark ","].intercalate tss ++ [mark delimiter])
      (.mark [close]) := by
  have spelt : String.ofList [close] = delimiter := by
    rw [← closing, String.ofList_toList]
  refine ⟨[.mark delimiter], by rw [← spelt]; rfl, ?_⟩
  intro rest us later
  have scanned : Pending.none.scan delimiter.toList = some ([], .mark [close]) := by
    have begins : Pending.none.step close = some ([], .mark [close]) := by
      rw [Pending.step_of_ends rfl, start]
      rfl
    rw [closing]
    exact Pending.scan_cons_of begins (Pending.scan_nil _)
  have last : tokensFrom .none (.text delimiter :: rest) = some (.mark delimiter :: us) :=
    tokensFrom_text scanned later
  -- From the inside out: the closing delimiter, the items before it, and the head in front.
  have inside := tokensFrom_items h closing closes last
  obtain ⟨c, first, next⟩ := h.begins [Piece.text ",", .soft 1 0 false]
    (.soft 0 (-4) true :: .leave :: .text delimiter :: rest)
  have flat : (.text head :: delimited indent items ++ [Piece.text delimiter]) ++ rest =
      .text head :: .enter indent :: .soft 0 0 false ::
        ([Piece.text ",", .soft 1 0 false].intercalate items ++
          .soft 0 (-4) true :: .leave :: .text delimiter :: rest) := by
    rw [delimited]
    simp
  rw [flat, List.append_assoc, List.append_assoc]
  apply tokensFrom_text opening
  show tokensFrom (.mark read) (.soft 0 0 false :: _) = _
  rw [tokensFrom_mark_soft opens first next inside]
  simp

/-! ## Types, arguments and calls -/

/-- A single word may stand as an item if nothing in front of it or behind it can grow together with
it. -/
theorem item_text {s : String} {ts closed : List Token} {q : Pending} {c : Char}
    (scanned : Pending.none.scan s.toList = some (ts, q)) (closes : q.close? = some closed)
    (head : s.toList.head? = some c) (first : beginsItem c = true)
    (comma : takesComma closed = true) (endsComma : q.ends ',' = true)
    (endsBlank : q.ends ' ' = true) : Item [.text s] (ts ++ closed) q where
  reads := .text scanned closes
  begins := ⟨c, first, fun _ => head⟩
  takesComma := ⟨closed, closes, comma⟩
  endsComma := endsComma
  endsBlank := endsBlank

theorem takesComma_word (s : String) : takesComma [.word s] = true := rfl

/-- A name may stand as an item. -/
theorem item_name {s : String} (h : isName s = true) :
    Item [.text s] [.word s] (.word s.toList) := by
  have word := Pending.isWord_of_isName h
  obtain ⟨c, rest, text, start, -⟩ := isName_iff.1 h
  have head : s.toList.head? = some c := by
    rw [text]
    rfl
  have first : beginsItem c = true := by rw [beginsItem, start, Bool.true_or]
  exact item_text word.scan (Pending.close?_of_isWord word) head first (takesComma_word s)
    (Pending.ends_word (by decide) _) (Pending.ends_word (by decide) _)

/-- A generic type with its arguments. -/
theorem reads_applied {generic : String} {arguments : List (List Piece)} {tss : List (List Token)}
    (h : Pending.IsWord generic) (items : Items '>' arguments tss) :
    Reads (applied generic arguments)
      (word generic :: mark "<" :: [mark ","].intercalate tss ++ [mark ">"]) (.mark ['>']) := by
  have opening : Pending.none.scan (generic ++ "<").toList =
      some ([word generic], .mark ['<']) := by
    rw [String.toList_append]
    exact Pending.scan_append_of h.scan (Pending.scan_word_text h (by decide) (by decide))
  exact reads_delimited opening (by decide) items (by decide) (by decide) (by decide)

/-- A type that can be written may stand as an item. -/
theorem item_hostPieces {t : HostType} (h : isWritable t = true) :
    ∃ q, Item (hostPieces t) (typeTokens t) q := by
  cases t with
  | named name => exact ⟨_, item_name h⟩
  | vec element =>
    have argument : Items '>' [[.text element]] [[.word element]] :=
      .last (item_name h) (Pending.ends_word (by decide) _)
    have generic : Pending.IsWord "Vec" := Pending.isWord_of_isName (by decide)
    -- Of an item it is asked how it begins, that a comma may follow, and what ends it.
    refine ⟨.mark ['>'], reads_applied generic argument, ?_, ?_, ?_, ?_⟩
    · exact ⟨'V', by decide, fun _ => by rfl⟩
    · exact ⟨[.mark ">"], by decide, by decide⟩
    · decide
    · decide

/-- A call of a codec routine. -/
theorem reads_callPieces {routine : String} {arguments : List (List Piece)}
    {tss : List (List Token)} (h : Pending.IsWord routine) (items : Items ')' arguments tss) :
    Reads (callPieces routine arguments)
      (spaced "codec ::" ++ word routine :: mark "(" :: [mark ","].intercalate tss ++ [mark ")"])
      (.mark [')']) := by
  have codec : Pending.none.scan "codec::".toList = some ([.word "codec"], .mark [':', ':']) := by
    decide
  have opening : Pending.none.scan ("codec::" ++ routine ++ "(").toList =
      some (([word "codec"] ++ [mark "::"]) ++ [word routine], .mark ['(']) := by
    rw [String.toList_append, String.toList_append]
    apply Pending.scan_append_of (Pending.scan_append_of codec (Pending.scan_mark_word h))
    exact Pending.scan_word_text h (by decide) (by decide)
  have path : spaced "codec ::" = [.word "codec", .mark "::"] := by decide
  rw [path]
  exact reads_delimited opening (by decide) items (by decide) (by decide) (by decide)

/-- A reference to a member of the receiver may stand as an item. -/
theorem item_memberPieces {member : String} (h : Pending.IsWord member) :
    Item (memberPieces member) (spaced "& self ." ++ [word member]) (.word member.toList) := by
  refine ⟨⟨[.word member], Pending.close?_of_isWord h, ?_⟩, ⟨'&', by decide, fun _ => by rfl⟩,
    ⟨_, Pending.close?_of_isWord h, takesComma_word member⟩, Pending.ends_word (by decide) _,
    Pending.ends_word (by decide) _⟩
  intro rest us later
  have name : Pending.none.scan ("." ++ member).toList =
      some ([] ++ [mark "."], .word member.toList) := by
    rw [String.toList_append]
    have dot : Pending.none.scan ".".toList = some ([], .mark ['.']) := by decide
    exact Pending.scan_append_of dot (Pending.scan_mark_word h)
  -- The line may end before the dot, which nothing in front of it can grow together with.
  have second : tokensFrom .none (.text ("." ++ member) :: .leave :: rest) =
      some (.mark "." :: .word member :: us) := tokensFrom_text name later
  have next : nextChar? (.text ("." ++ member) :: .leave :: rest) = some '.' := by
    show ("." ++ member).toList.head? = _
    rw [String.toList_append]
    rfl
  have first : tokensFrom (.word "self".toList)
      (.soft 0 0 false :: .text ("." ++ member) :: .leave :: rest) =
        some ([word "self"] ++ mark "." :: word member :: us) := by
    apply tokensFrom_soft _ next _ second
    · decide
    · rfl
  have receiver : (Pending.mark ['&']).scan "self".toList =
      some ([.mark "&"], .word "self".toList) := by decide
  have reference : Pending.none.scan "&".toList = some ([], .mark ['&']) := by decide
  have path : spaced "& self ." = [.mark "&", .word "self", .mark "."] := by decide
  rw [path]
  have whole : tokensFrom .none (memberPieces member ++ rest) =
      some ([] ++ ([mark "&"] ++ ([word "self"] ++ mark "." :: word member :: us))) :=
    tokensFrom_text reference (tokensFrom_text receiver first)
  exact whole

/-! ## Blocks -/

/-- Pieces of a line of their own. What is pending in the end is closed by the line break. -/
def Line (pieces : List Piece) (ts : List Token) : Prop :=
  ∃ q, Reads pieces ts q

/-- Lines are read one by one. -/
theorem tokensFrom_lines {lines : List (List Piece)} {tss : List (List Token)}
    {rest : List Piece} {shift : Int} {us : List Token} (h : List.Forall₂ Line lines tss)
    (later : tokensFrom .none rest = some us) {p : Pending} {closed : List Token}
    (closes : p.close? = some closed) :
    tokensFrom p (lines.flatMap (.hard 0 :: ·) ++ Piece.hard shift :: rest) =
      some (closed ++ (tss.flatten ++ us)) := by
  -- The induction is on the lines; each closes what the one before left pending.
  induction h generalizing p closed with
  | nil => exact tokensFrom_hard closes later
  | @cons line ts lines tss reads _ ih =>
    obtain ⟨q, pending, closesLine, read⟩ := reads
    rw [List.flatMap_cons, List.cons_append, List.cons_append, List.append_assoc]
    apply tokensFrom_hard closes
    rw [List.flatten_cons, List.append_assoc]
    exact read _ _ (ih closesLine)

/-- A head with lines in braces. -/
theorem reads_block {head : List Piece} {lines : List (List Piece)} {ts : List Token}
    {tss : List (List Token)} {q : Pending} (h : Reads head ts q) (blank : q.ends ' ' = true)
    (inside : List.Forall₂ Line lines tss) :
    Reads (block head lines) (ts ++ mark "\x7b" :: tss.flatten ++ [mark "\x7d"])
      (.mark ['\x7d']) := by
  have opening : Pending.none.scan " \x7b".toList = some ([], .mark ['\x7b']) := by decide
  obtain ⟨opened, closesOpened, read⟩ := h.append_text rfl blank opening rfl
  obtain rfl : [.mark "\x7b"] = opened := Option.some.inj closesOpened
  refine ⟨[.mark "\x7d"], rfl, ?_⟩
  intro rest us later
  -- Without lines the braces stand side by side, and the second ends the first.
  by_cases empty : lines = []
  · subst empty
    obtain rfl := List.forall₂_nil_left_iff.1 inside
    have closing : (Pending.mark ['\x7b']).scan "\x7d".toList =
        some ([.mark "\x7b"], .mark ['\x7d']) := by decide
    have flat : block head [] ++ rest =
        .enter 4 :: (head ++ [Piece.text " \x7b"] ++ Piece.leave :: .text "\x7d" :: rest) := by
      simp [block]
    have body : tokensFrom (.mark ['\x7b']) (.leave :: .text "\x7d" :: rest) =
        some ([mark "\x7b"] ++ ([mark "\x7d"] ++ us)) := tokensFrom_text closing later
    rw [flat]
    show tokensFrom .none (head ++ [Piece.text " \x7b"] ++ Piece.leave :: .text "\x7d" :: rest) = _
    rw [read _ _ body]
    simp
  · have closing : Pending.none.scan "\x7d".toList = some ([], .mark ['\x7d']) := by decide
    have flat : block head lines ++ rest = .enter 4 :: (head ++ [Piece.text " \x7b"] ++
        (lines.flatMap (.hard 0 :: ·) ++ Piece.hard (-4) :: .leave :: .text "\x7d" :: rest)) := by
      simp [block, empty]
    have last : tokensFrom .none (.leave :: .text "\x7d" :: rest) =
        some ([] ++ ([mark "\x7d"] ++ us)) := tokensFrom_text closing later
    have body : tokensFrom (.mark ['\x7b'])
        (lines.flatMap (.hard 0 :: ·) ++ Piece.hard (-4) :: .leave :: .text "\x7d" :: rest) =
          some ([mark "\x7b"] ++ (tss.flatten ++ ([] ++ ([mark "\x7d"] ++ us)))) :=
      tokensFrom_lines inside last rfl
    rw [flat]
    show tokensFrom .none (head ++ [Piece.text " \x7b"] ++ _) = _
    rw [read _ _ body]
    simp

/-- A method with one parameter that consists of a call. -/
theorem reads_methodPieces {name parameter : String} {result : HostType} {body : List Piece}
    {parameterTokens bodyTokens : List Token} (h : Pending.IsWord name)
    (item : Items ')' [[.text parameter]] [parameterTokens]) (writable : isWritable result = true)
    (call : Line body bodyTokens) :
    Line (methodPieces name parameter result body)
      (spaced "pub fn" ++ word name :: mark "(" :: parameterTokens ++ spaced ") -> Result <" ++
        typeTokens result ++ spaced ", codec :: Error > \x7b" ++ bodyTokens ++ [mark "\x7d"]) := by
  -- The parameter list, then the result type, make the head of a block with one line.
  have opening : Pending.none.scan ("pub fn " ++ name ++ "(").toList =
      some ((spaced "pub fn" ++ []) ++ [word name], .mark ['(']) := by
    have fn : Pending.none.scan "pub fn ".toList = some (spaced "pub fn", .none) := by decide
    rw [String.toList_append, String.toList_append]
    apply Pending.scan_append_of (Pending.scan_append_of fn h.scan)
    exact Pending.scan_word_text h (by decide) (by decide)
  have arrow : Pending.none.scan " -> ".toList = some ([.mark "->"], .none) := by decide
  have error : Item [Piece.text "codec::Error"] ([word "codec", .mark "::"] ++ [word "Error"])
      (.word "Error".toList) := item_text (c := 'c') (by decide) (by decide) rfl rfl rfl rfl rfl
  have parameters : Reads
      (.text ("pub fn " ++ name ++ "(") :: delimited 0 [[.text parameter]] ++ [Piece.text ")"])
      (((spaced "pub fn" ++ []) ++ [word name]) ++ mark "(" ::
        [mark ","].intercalate [parameterTokens] ++ [mark ")"]) (.mark [')']) :=
    reads_delimited opening (by decide) item (by decide) (by decide) (by decide)
  obtain ⟨q, host⟩ := item_hostPieces writable
  have returned : Reads (applied "Result" [hostPieces result, [.text "codec::Error"]])
      (.word "Result" :: .mark "<" :: [mark ","].intercalate
        [typeTokens result, [word "codec", .mark "::"] ++ [word "Error"]] ++ [mark ">"])
      (.mark ['>']) :=
    reads_applied (Pending.isWord_of_isName (by decide)) (.cons host (.last error (by decide)))
  have arrowed := (parameters.skip (.enter (-4)) fun _ _ => rfl).append_text rfl
    (by decide) arrow rfl
  have head := (arrowed.append returned).skip .leave fun _ _ => rfl
  have whole := reads_block head (by decide) (.cons call .nil)
  refine ⟨.mark ['\x7d'], ?_⟩
  have path : spaced ") -> Result <" = [.mark ")", .mark "->", .word "Result", .mark "<"] := by
    decide
  have failure : spaced ", codec :: Error > \x7b" =
      [.mark ",", .word "codec", .mark "::", .word "Error", .mark ">", .mark "\x7b"] := by decide
  simpa [methodPieces, path, failure, List.intercalate_cons_cons] using whole

end HostFile

end RowBindings
