import RowBindings.Proofs.Bindings.Token

/-!
# The tokens of a laid out text

Where a line is broken depends on widths, but what the text says does not. `tokensFrom` reads the
pieces themselves, with every place where a line may end taken as a space, and insists that nothing
could grow together there if none is written. `read?_write` says that the written text has the same
tokens for every page and every cursor, but for commas before closing tokens.
-/

namespace RowBindings.HostFile

open Layout

/-! ## Commas before closing tokens -/

def Token.closes (t : Token) : Bool :=
  t = .mark ")" || t = .mark "]" || t = .mark "\x7d" || t = .mark ">"

/-- The first tokens are the second, with a comma more here and there between a token and a closing
one. -/
inductive UpToCommas : List Token → List Token → Prop
  | nil : UpToCommas [] []
  | keep {t : Token} {us ts : List Token} : UpToCommas us ts → UpToCommas (t :: us) (t :: ts)
  | comma {t : Token} {us ts : List Token} : t ≠ .mark "," → us.head?.any Token.closes = true →
    UpToCommas us ts → UpToCommas (t :: .mark "," :: us) (t :: ts)

namespace UpToCommas

theorem refl (ts : List Token) : UpToCommas ts ts := by
  induction ts with
  | nil => exact .nil
  | cons t ts ih => exact .keep ih

/-- A comma is never the first token. -/
theorem head?_eq {us ts : List Token} (h : UpToCommas us ts) : us.head? = ts.head? := by
  cases h <;> rfl

/-- What stands before both is the same. -/
theorem append_left (vs : List Token) {us ts : List Token} (h : UpToCommas us ts) :
    UpToCommas (vs ++ us) (vs ++ ts) := by
  induction vs with
  | nil => exact h
  | cons v vs ih => exact .keep ih

/-- Commas that were left out in two steps can be left out in one. -/
theorem trans {us ts vs : List Token} (h : UpToCommas us ts) (h' : UpToCommas ts vs) :
    UpToCommas us vs := by
  induction h generalizing vs with
  | nil => exact h'
  | @keep t us ts more ih =>
    cases h' with
    | keep more' => exact .keep (ih more')
    | comma other closing more' =>
      -- The comma that the second step leaves out stands first in `ts`, so also in `us`.
      cases ih (.keep more') with
      | keep rest =>
        refine .comma other ?_ rest
        rw [rest.head?_eq, ← more'.head?_eq]
        exact closing
      | comma no => exact absurd rfl no
  | @comma t us ts other closing more ih =>
    cases h' with
    | keep more' => exact .comma other closing (ih more')
    | comma =>
      rw [more.head?_eq] at closing
      exact absurd (show Token.closes (.mark ",") = true from closing) (by decide)

end UpToCommas

def withoutCommas (tokens : List Token) : List Token :=
  tokens.filter (· ≠ .mark ",")

theorem withoutCommas_append (ts us : List Token) :
    withoutCommas (ts ++ us) = withoutCommas ts ++ withoutCommas us :=
  List.filter_append ts us

/-- Without its commas, a text has the same tokens however its lines are broken. -/
theorem UpToCommas.withoutCommas_eq {us ts : List Token} (h : UpToCommas us ts) :
    withoutCommas us = withoutCommas ts := by
  induction h with
  | nil => rfl
  | keep _ ih => simp only [withoutCommas, List.filter_cons] at ih ⊢; rw [ih]
  | comma other _ _ ih => simpa [withoutCommas, List.filter_cons, other] using ih

/-! ## Pieces -/

/-- The first character of the next word of the pieces, if no line may end before it. -/
def nextChar? : List Piece → Option Char
  | .text s :: _ => s.toList.head?
  | .enter _ :: rest => nextChar? rest
  | .leave :: rest => nextChar? rest
  | _ => none

/-- Whether tokens are a single one that a comma may follow. -/
def takesComma : List Token → Bool
  | [t] => t != .mark ","
  | _ => false

/-- Whether nothing happens to the tokens if a line ends or does not end after `p`. Here `ts` are
the tokens of `p` and `us` those that follow, beginning with `next`. If there is a comma at the end
of the line, it must come after a token other than a comma and before a closing one. -/
def isSeam (p : Pending) (next : Option Char) (comma : Bool) (ts us : List Token) : Bool :=
  p.ends ' ' && next.any p.ends &&
    (!comma || (p.ends ',' && takesComma ts && us.head?.any Token.closes))

/-- The tokens of the pieces that follow what is pending. -/
def tokensFrom (p : Pending) : List Piece → Option (List Token)
  | [] => p.close?
  | .text s :: rest => (p.scan s.toList).bind fun (ts, q) => (tokensFrom q rest).map (ts ++ ·)
  | .soft _ _ comma :: rest =>
    p.close?.bind fun ts => (tokensFrom .none rest).bind fun us =>
      if isSeam p (nextChar? rest) comma ts us then some (ts ++ us) else none
  | .hard _ :: rest => p.close?.bind fun ts => (tokensFrom .none rest).map (ts ++ ·)
  | .enter _ :: rest => tokensFrom p rest
  | .leave :: rest => tokensFrom p rest

/-- A word goes on with what is pending. -/
theorem tokensFrom_text {p q : Pending} {s : String} {ts us : List Token} {rest : List Piece}
    (scanned : p.scan s.toList = some (ts, q)) (later : tokensFrom q rest = some us) :
    tokensFrom p (.text s :: rest) = some (ts ++ us) := by
  rw [tokensFrom, scanned]
  show (tokensFrom q rest).map (ts ++ ·) = _
  rw [later]
  rfl

/-- Where a line may end, what is pending is closed. The seam says that nothing goes wrong if it
does not end there. -/
theorem tokensFrom_soft {p : Pending} {blank : Nat} {shift : Int} {comma : Bool} {c : Char}
    {ts us : List Token} {rest : List Piece} (closed : p.close? = some ts)
    (next : nextChar? rest = some c) (seam : isSeam p (some c) comma ts us = true)
    (later : tokensFrom .none rest = some us) :
    tokensFrom p (.soft blank shift comma :: rest) = some (ts ++ us) := by
  rw [tokensFrom, closed, Option.bind_some, later, Option.bind_some, next, if_pos seam]

theorem tokensFrom_hard {p : Pending} {shift : Int} {ts us : List Token} {rest : List Piece}
    (closed : p.close? = some ts) (later : tokensFrom .none rest = some us) :
    tokensFrom p (.hard shift :: rest) = some (ts ++ us) := by
  rw [tokensFrom, closed, Option.bind_some, later]
  rfl

/-! ## Every layout has these tokens -/

/-- A group that begins writes nothing, so nothing is pending after it that was not before. -/
theorem pending_enter (shift : Int) (rest : List Piece) (here : Cursor) :
    (here.enter shift rest).pending = here.pending := by
  rw [Cursor.enter]
  split <;> rfl

theorem pending_leave (here : Cursor) : here.leave.pending = here.pending := by
  rw [Cursor.leave]
  split <;> rfl

theorem spaces_enter (shift : Int) (rest : List Piece) (here : Cursor) :
    (here.enter shift rest).spaces = here.spaces := by
  rw [Cursor.spaces, Cursor.spaces, pending_enter]

theorem spaces_leave (here : Cursor) : here.leave.spaces = here.spaces := by
  rw [Cursor.spaces, Cursor.spaces, pending_leave]

/-- Written pieces begin with the spaces that are due or with the first character of a word. -/
theorem write_eq {page : Page} {pieces : List Piece} {c : Char} (next : nextChar? pieces = some c)
    (here : Cursor) : ∃ rest, write page here pieces = here.spaces ++ c :: rest := by
  induction pieces generalizing here with
  | nil => cases next
  | cons piece pieces ih =>
    cases piece with
    | text s =>
      -- A word with nothing in it has no first character, so it is not what comes next.
      cases text : s.toList with
      | nil =>
        rw [nextChar?, text] at next
        cases next
      | cons d rest =>
        rw [nextChar?, text] at next
        obtain rfl := Option.some.inj next
        rw [write, text]
        exact ⟨rest ++ write page (here.advance s) pieces, by simp⟩
    | soft => cases next
    | hard => cases next
    | enter shift =>
      obtain ⟨rest, written⟩ := ih next (here.enter shift pieces)
      exact ⟨rest, by rw [write, written, spaces_enter]⟩
    | leave =>
      obtain ⟨rest, written⟩ := ih next here.leave
      exact ⟨rest, by rw [write, written, spaces_leave]⟩

/-- Where a line may end, what is pending may be closed although it goes on: the next word does not
grow together with it. -/
theorem read?_write_of_ends {page : Page} {pieces : List Piece} {p : Pending} {c : Char}
    (next : nextChar? pieces = some c) (ends : p.ends c = true) (blank : p.ends ' ' = true)
    (here : Cursor) :
    p.read? (write page here pieces) =
      p.close?.bind fun ts => (Pending.none.read? (write page here pieces)).map (ts ++ ·) := by
  obtain ⟨rest, written⟩ := write_eq next here
  rw [written, Cursor.spaces]
  cases here.pending with
  | zero => exact p.read?_of_ends ends rest
  | succ count => exact p.read?_of_ends blank _

/-- A comma at the end of a line comes after what is pending. -/
theorem read?_comma {p : Pending} {ts us : List Token} {rest : List Char}
    (ends : p.ends ',' = true) (closed : p.close? = some ts)
    (later : Pending.none.read? rest = some us) :
    p.read? (',' :: '\n' :: rest) = some (ts ++ Token.mark "," :: us) := by
  have comma : Pending.none.step ',' = some ([], .mark [',']) := by decide
  rw [Pending.read?_of_ends ends, closed, Option.bind_some, Pending.read?_cons, comma]
  show (((Pending.mark [',']).read? ('\n' :: rest)).map ([] ++ ·)).map (ts ++ ·) = _
  rw [Pending.read?_newline, later]
  rfl

/-- Whatever the widths, written pieces have the tokens of the pieces, but for commas before closing
tokens. The induction is on the pieces and follows the cursor; a token stays pending only as long as
no spaces are due. -/
theorem read?_write {page : Page} {pieces : List Piece} {p : Pending} {ts : List Token}
    (h : tokensFrom p pieces = some ts) (here : Cursor) (due : p = .none ∨ here.pending = 0) :
    ∃ us, p.read? (write page here pieces) = some us ∧ UpToCommas us ts := by
  induction pieces generalizing p ts here with
  | nil =>
    rw [tokensFrom] at h
    exact ⟨ts, by rw [write, Pending.read?_nil, h], .refl ts⟩
  | cons piece pieces ih =>
    cases piece with
    | text s =>
      rw [tokensFrom] at h
      obtain ⟨⟨vs, q⟩, scanned, h⟩ := Option.bind_eq_some_iff.1 h
      obtain ⟨ts, later, rfl⟩ := Option.map_eq_some_iff.1 h
      obtain ⟨us, read, same⟩ := ih later (here.advance s) (.inr rfl)
      -- Spaces that are due are read only where nothing is pending, so they do no harm.
      have spaced : p.read? (here.spaces ++ s.toList ++ write page (here.advance s) pieces) =
          p.read? (s.toList ++ write page (here.advance s) pieces) := by
        rw [List.append_assoc, Cursor.spaces]
        rcases due with rfl | none
        · exact Pending.read?_spaces _ _
        · rw [none]
          rfl
      refine ⟨vs ++ us, ?_, same.append_left vs⟩
      rw [write, spaced, Pending.read?_append, scanned]
      show (q.read? _).map (vs ++ ·) = _
      rw [read]
      rfl
    | hard shift =>
      rw [tokensFrom] at h
      obtain ⟨vs, closed, h⟩ := Option.bind_eq_some_iff.1 h
      obtain ⟨ts, later, rfl⟩ := Option.map_eq_some_iff.1 h
      obtain ⟨us, read, same⟩ := ih later (here.newline page shift) (.inl rfl)
      refine ⟨vs ++ us, ?_, same.append_left vs⟩
      rw [write, Pending.read?_newline, closed, Option.bind_some, read]
      rfl
    | soft blank shift comma =>
      rw [tokensFrom] at h
      obtain ⟨vs, closed, h⟩ := Option.bind_eq_some_iff.1 h
      obtain ⟨ts, later, h⟩ := Option.bind_eq_some_iff.1 h
      obtain ⟨seam, h⟩ := Option.ite_none_right_eq_some.1 h
      obtain rfl := Option.some.inj h
      rw [isSeam, Bool.and_eq_true, Bool.and_eq_true] at seam
      obtain ⟨⟨spaced, next⟩, seam⟩ := seam
      rw [write]
      by_cases flat : here.isFlat = true
      · -- The line goes on: the next word ends what is pending.
        obtain ⟨c, found, ends⟩ := (Option.any_eq_true _ _).1 next
        obtain ⟨us, read, same⟩ := ih later (here.skip blank) (.inl rfl)
        refine ⟨vs ++ us, ?_, same.append_left vs⟩
        rw [if_pos flat, read?_write_of_ends found ends spaced, closed, Option.bind_some, read]
        rfl
      rw [if_neg flat]
      obtain ⟨us, read, same⟩ := ih later (here.newline page shift) (.inl rfl)
      cases comma with
      | false =>
        refine ⟨vs ++ us, ?_, same.append_left vs⟩
        show p.read? ('\n' :: _) = _
        rw [Pending.read?_newline, closed, Option.bind_some, read]
        rfl
      | true =>
        rw [Bool.not_true, Bool.false_or, Bool.and_eq_true, Bool.and_eq_true] at seam
        obtain ⟨⟨ends, single⟩, closing⟩ := seam
        match vs, single with
        | [t], single =>
          have other : t ≠ .mark "," := bne_iff_ne.1 single
          have none : here.pending = 0 := by
            rcases due with rfl | none
            · cases closed
            · exact none
          refine ⟨t :: .mark "," :: us, ?_, .comma other ?_ same⟩
          · rw [if_pos rfl, Cursor.spaces, none]
            exact read?_comma ends closed read
          · rw [same.head?_eq]
            exact closing
    | enter shift =>
      rw [← pending_enter shift pieces] at due
      exact ih h (here.enter shift pieces) due
    | leave =>
      rw [← pending_leave] at due
      exact ih h here.leave due

end RowBindings.HostFile
