import RowBindings.Log.Filter
import RowBindings.Proofs.Text.Offset

/-!
# Settings without a filter

A directive is read without the white space around it, but its parts are cut from the whole text at
the offsets found there. Where a directive begins with white space, these offsets are those of other
characters, or of none. `misplaced_of_reading` says that nothing else can go wrong: every setting is
read or refused unless one of its directives begins with white space and goes on with a character
that takes several bytes.
-/

namespace RowBindings.Log

open Text

namespace Directive

/-! ## Faults -/

/-- A result with the given property, or no directive for another reason than a bad cut. -/
def CutsWell {α : Type} (property : α → Prop) : Except Fault α → Prop
  | .ok a => property a
  | .error fault => fault = .malformed

/-- Two steps cut well if the first does and the second does on all that the first can give. -/
theorem CutsWell.bind {α β : Type} {p : α → Prop} {q : β → Prop} {x : Except Fault α}
    {f : α → Except Fault β} (h : CutsWell p x) (h' : ∀ a, p a → CutsWell q (f a)) :
    CutsWell q (x >>= f) := by
  cases x with
  | ok a => exact h' a h
  | error fault => exact h

/-- A part between two boundaries can be cut out. -/
theorem cutsWell_cut {text : List Char} {start stop : Nat} (h : IsBoundary text start)
    (h' : IsBoundary text stop) (le : start ≤ stop) :
    CutsWell (fun _ => True) (cut text start stop) := by
  obtain ⟨part, cuts⟩ := h.exists_cutBytes? h' le
  rw [cut, cuts]
  trivial

/-- The value of a field is not cut any further. -/
theorem cutsWell_attribute (text : String) : CutsWell (fun _ => True) (Attribute.read text) := by
  rw [Attribute.read]
  split
  · rfl
  split
  · trivial
  · dsimp only
    split
    · trivial
    · rfl

/-! ## Going through a directive -/

/-- The offset at which the current part begins, where there is one. -/
def Place.start? : Place → Option Nat
  | .span start | .braces start | .level start => some start
  | _ => none

/-- The current part begins at a boundary of the text, no later than at the given offset. -/
def Place.BeginsWell (text : List Char) (offset : Nat) (place : Place) : Prop :=
  ∀ start ∈ place.start?, start ≤ offset ∧ IsBoundary text start

namespace Place.BeginsWell

variable {text : List Char} {offset offset' : Nat} {place : Place}

theorem of_none (h : place.start? = none) : place.BeginsWell text offset := by
  intro start member
  rw [h] at member
  cases member

/-- A part may begin where reading goes on. -/
theorem of_some (h : place.start? = some offset) (here : IsBoundary text offset) :
    place.BeginsWell text offset := by
  intro start member
  rw [h] at member
  obtain rfl := Option.some.inj member
  exact ⟨Nat.le_refl offset, here⟩

theorem mono (h : place.BeginsWell text offset) (le : offset ≤ offset') :
    place.BeginsWell text offset' :=
  fun start member => ⟨Nat.le_trans (h start member).1 le, (h start member).2⟩

end Place.BeginsWell

/-- Reading a character between two boundaries keeps to boundaries. The characters after which a
part begins take one byte each. -/
theorem cutsWell_step {text : List Char} {offset : Nat} {c : Char} {place : Place} (h : Head)
    (begins : place.BeginsWell text offset) (here : IsBoundary text offset)
    (next : IsBoundary text (offset + c.utf8Size)) :
    CutsWell (fun s => s.1.BeginsWell text (offset + c.utf8Size))
      (step text offset c (place, h)) := by
  have stays := begins.mono (Nat.le_add_right offset c.utf8Size)
  -- Every cut is from a place remembered earlier to the place now reached.
  have part {start : Nat} (current : place.start? = some start) :
      CutsWell (fun _ => True) (cut text start offset) :=
    cutsWell_cut (begins start current).2 here (begins start current).1
  cases place with
  | beginning =>
    rw [step]
    split
    · rename_i bracket
      subst bracket
      exact .of_some rfl next
    split
    · exact .of_none rfl
    · rfl
  | word =>
    rw [step]
    split
    · rename_i mark
      refine (cutsWell_cut (isBoundary_zero text) here (Nat.zero_le offset)).bind fun topic _ => ?_
      rw [Bool.or_eq_true, decide_eq_true_eq, decide_eq_true_eq] at mark
      rcases mark with rfl | rfl
      · exact Place.BeginsWell.of_some rfl next
      · exact Place.BeginsWell.of_some rfl next
    · exact stays
  | span start =>
    rw [step]
    split
    · exact (part rfl).bind fun span _ => .of_none rfl
    split
    · rename_i brace
      subst brace
      exact (part rfl).bind fun name _ => .of_some rfl next
    · exact stays
  | braces start =>
    rw [step]
    split
    · exact (part rfl).bind fun text _ =>
        (cutsWell_attribute text).bind fun asked _ => .of_none rfl
    · exact stays
  | bracesEnd =>
    rw [step]
    split
    · exact .of_none rfl
    · rfl
  | headEnd =>
    rw [step]
    split
    · rename_i mark
      subst mark
      exact .of_some rfl next
    · rfl
  | level start => exact stays

/-! ## Whole directives -/

/-- Every character of the text without the white space at its ends begins at a boundary of the
whole text, counted from the start of the shorter one. -/
def Aligned (text : List Char) : Prop :=
  ∀ before after, trim text = before ++ after → IsBoundary text (byteSize before)

/-- The induction is on what is left to read of the text without white space at its ends. -/
theorem cutsWell_scan {text before rest : List Char} {place : Place} (aligned : Aligned text)
    (whole : trim text = before ++ rest) (h : Head)
    (begins : place.BeginsWell text (byteSize before)) :
    CutsWell (fun s => ∃ stop, s.1.BeginsWell text stop)
      (scan text (byteSize before) rest (place, h)) := by
  -- The induction is on what is left of the trimmed text; the offset moves with it.
  induction rest generalizing before place h with
  | nil => exact ⟨_, begins⟩
  | cons c rest ih =>
    have here := aligned before (c :: rest) whole
    have split : trim text = (before ++ [c]) ++ rest := by simpa using whole
    have size : byteSize before + c.utf8Size = byteSize (before ++ [c]) := by
      rw [byteSize_append, byteSize_cons]
      rfl
    have next := aligned (before ++ [c]) rest split
    rw [← size] at next
    refine (cutsWell_step h begins here next).bind fun s begins => ?_
    rw [size] at begins ⊢
    exact ih split s.2 begins

/-- At the end of the text, only a level is still to be cut off, and it begins at a boundary. -/
theorem cutsWell_finish {text : List Char} {stop : Nat} {place : Place} (h : Head)
    (begins : place.BeginsWell text stop) :
    CutsWell (fun _ => True) (finish text (place, h)) := by
  cases place with
  | word =>
    rw [finish]
    split <;> trivial
  | level start =>
    obtain ⟨level, dropped⟩ := (begins start rfl).2.exists_dropBytes?
    rw [finish, dropped]
    split
    · rename_i none
      cases none
    · trivial
    · split
      · trivial
      · rfl
  | headEnd => trivial
  | beginning | span | braces | bracesEnd => rfl

/-- An aligned directive is read or malformed. -/
theorem cutsWell_read {text : List Char} (aligned : Aligned text) :
    CutsWell (fun _ => True) (read text) := by
  have begins : Place.beginning.BeginsWell text (byteSize []) := .of_none rfl
  have scanned : CutsWell (fun s => ∃ stop, s.1.BeginsWell text stop)
      (scan text 0 (trim text) (.beginning, {})) := cutsWell_scan aligned rfl {} begins
  refine scanned.bind fun s ⟨stop, begins⟩ => ?_
  exact cutsWell_finish s.2 begins

/-! ## White space at the start -/

/-- A directive begins with white space and has a character that takes several bytes. -/
def Misplaced (text : List Char) : Prop :=
  text.head?.any isBlank = true ∧ ∃ c ∈ text, 128 ≤ c.toNat

instance : DecidablePred Misplaced := fun text =>
  inferInstanceAs (Decidable (text.head?.any isBlank = true ∧ ∃ c ∈ text, 128 ≤ c.toNat))

/-- A text that does not begin with white space begins with what is left of it. -/
theorem exists_trim_append {text : List Char} (h : text.head?.any isBlank = false) :
    ∃ blank, text = trim text ++ blank := by
  have start : text.dropWhile isBlank = text := by
    cases text with
    | nil => rfl
    | cons c rest => exact List.dropWhile_cons_of_neg (by simpa using h)
  have cut := List.takeWhile_append_dropWhile (p := isBlank) (l := text.reverse)
  refine ⟨(text.reverse.takeWhile isBlank).reverse, ?_⟩
  rw [trim, start, ← List.reverse_append, cut, List.reverse_reverse]

/-- Nothing new comes in when white space is taken off. -/
theorem trim_sublist (text : List Char) : (trim text).Sublist text := by
  have first := (List.dropWhile_suffix isBlank (l := text)).sublist
  have second := (List.dropWhile_suffix isBlank (l := (text.dropWhile isBlank).reverse)).sublist
  have reversed := second.reverse
  rw [List.reverse_reverse] at reversed
  exact reversed.trans first

/-- Characters of ASCII take one byte each. -/
theorem byteSize_of_ascii {text : List Char} (ascii : ∀ c ∈ text, c.toNat < 128) :
    byteSize text = text.length := by
  induction text with
  | nil => rfl
  | cons c text ih =>
    have small := ascii c List.mem_cons_self
    have one : c.utf8Size = 1 := Char.utf8Size_eq_one_iff.2 (Nat.le_of_lt_succ small)
    rw [byteSize_cons, one, ih fun d later => ascii d (List.mem_cons_of_mem c later),
      List.length_cons, Nat.add_comm]

/-- Without white space in front, or with one byte for every character, offsets stay those of
characters. -/
theorem aligned_of_not_misplaced {text : List Char} (h : ¬Misplaced text) : Aligned text := by
  intro before after whole
  by_cases blank : text.head?.any isBlank = true
  · -- The text is ASCII, so every offset in it is a boundary.
    have ascii : ∀ c ∈ text, c.toNat < 128 :=
      fun c member => Nat.lt_of_not_le fun big => h ⟨blank, c, member, big⟩
    have trimmed := trim_sublist text
    rw [whole] at trimmed
    have sub : before.Sublist text := (List.sublist_append_left before after).trans trimmed
    refine ⟨text.take before.length, text.drop before.length, by rw [List.take_append_drop], ?_⟩
    rw [byteSize_of_ascii fun c member => ascii c (List.mem_of_mem_take member),
      byteSize_of_ascii fun c member => ascii c (sub.subset member), List.length_take,
      Nat.min_eq_left sub.length_le]
  · rw [Bool.not_eq_true] at blank
    obtain ⟨rest, same⟩ := exists_trim_append blank
    exact ⟨before, after ++ rest, by rw [← List.append_assoc, ← whole, ← same], rfl⟩

end Directive

/-! ## Settings -/

namespace Filter

/-- Directives are read one by one, up to the first fault. -/
theorem cutsWell_mapM {texts : List (List Char)}
    (h : ∀ text ∈ texts, Directive.CutsWell (fun _ => True) (Directive.read text)) :
    Directive.CutsWell (fun _ => True) (texts.mapM Directive.read) := by
  induction texts with
  | nil => trivial
  | cons text texts ih =>
    rw [List.mapM_cons]
    refine (h text List.mem_cons_self).bind fun d _ => ?_
    refine (ih fun other later => h other (List.mem_cons_of_mem text later)).bind fun ds _ => ?_
    trivial

/-- The reading of a setting breaks off only if one of its directives begins with white space and
has a character that takes several bytes. -/
theorem misplaced_of_reading {setting : String} (broken : reading setting = .brokenOff) :
    ∃ text ∈ splitAll ',' setting.toList, Directive.Misplaced text := by
  refine Classical.byContradiction fun placed => ?_
  simp only [not_exists, not_and] at placed
  -- Were every directive well placed, none could break off.
  have cuts : Directive.CutsWell (fun _ => True) (read setting) :=
    cutsWell_mapM fun text member => Directive.cutsWell_read
      (Directive.aligned_of_not_misplaced (placed text (List.mem_filter.1 member).1))
  rw [reading] at broken
  cases outcome : read setting with
  | ok filter =>
    rw [outcome] at broken
    cases broken
  | error fault =>
    rw [outcome] at broken cuts
    obtain rfl : fault = .malformed := cuts
    cases broken

-- The letter takes two bytes. Behind the space, the offset where it ends is one inside it.
example : reading " é=x" = .brokenOff := by decide +kernel

end Filter

end RowBindings.Log
