/-!
# Cutting a text

`splitFirst` cuts at the first mark and `splitAll` at every one. The marks themselves are dropped.
`dropBytes?`, `takeBytes?` and `cutBytes?` cut at offsets, which count bytes of UTF-8; a text cannot
be cut inside a character.
-/

namespace RowBindings.Text

/-- The part of a text before the first `mark` and, if there is one, the part after it. -/
def splitFirst (mark : Char) : List Char → List Char × Option (List Char)
  | [] => ([], none)
  | c :: rest =>
    if c = mark then ([], some rest)
    else
      let (before, after) := splitFirst mark rest
      (c :: before, after)

/-- The parts of a text between the marks in it. -/
def splitAll (mark : Char) : List Char → List (List Char)
  | [] => [[]]
  | c :: rest =>
    match splitAll mark rest with
    | [] => [[c]]
    | part :: parts => if c = mark then [] :: part :: parts else (c :: part) :: parts

/-- The text from an offset on. -/
def dropBytes? : Nat → List Char → Option (List Char)
  | 0, s => some s
  | _ + 1, [] => none
  | n + 1, c :: rest => if c.utf8Size ≤ n + 1 then dropBytes? (n + 1 - c.utf8Size) rest else none

/-- The text up to an offset. -/
def takeBytes? : Nat → List Char → Option (List Char)
  | 0, _ => some []
  | _ + 1, [] => none
  | n + 1, c :: rest =>
    if c.utf8Size ≤ n + 1 then (takeBytes? (n + 1 - c.utf8Size) rest).map (c :: ·) else none

/-- The text between two offsets. -/
def cutBytes? (start stop : Nat) (s : List Char) : Option (List Char) :=
  (dropBytes? start s).bind (takeBytes? (stop - start))

/-- Without a mark there is nothing to cut; with one, the first part holds none and the whole is
the first part, the mark and the rest. -/
theorem splitFirst_eq {mark : Char} {s before : List Char} {after : Option (List Char)}
    (h : splitFirst mark s = (before, after)) :
    mark ∉ before ∧ s = before ++ (after.map (mark :: ·)).getD [] := by
  induction s generalizing before with
  | nil => grind [splitFirst]
  | cons c rest ih => grind [splitFirst]

theorem splitFirst_of_not_mem {mark : Char} {s : List Char} (h : mark ∉ s) :
    splitFirst mark s = (s, none) := by
  induction s with
  | nil => rfl
  | cons c rest ih => grind [splitFirst]

/-- What stands before the first mark and after it is found again. -/
theorem splitFirst_append {mark : Char} {before : List Char} (h : mark ∉ before)
    (after : List Char) : splitFirst mark (before ++ mark :: after) = (before, some after) := by
  induction before with
  | nil => simp [splitFirst]
  | cons c rest ih => grind [splitFirst]

theorem head?_toList_append {c : Char} {s : String} (h : s.toList.head? = some c) (t : String) :
    (s ++ t).toList.head? = some c := by
  rw [String.toList_append, List.head?_append, h]
  rfl

/-- Two texts are told apart from what follows them by its first character, if neither holds it. -/
theorem append_inj_of_mark {mark : Char} {a b s t : String} (ha : mark ∉ a.toList)
    (hb : mark ∉ b.toList) (hs : s.toList.head? = some mark) (ht : t.toList.head? = some mark)
    (same : a ++ s = b ++ t) : a = b ∧ s = t := by
  obtain ⟨afterA, textS⟩ := List.head?_eq_some_iff.1 hs
  obtain ⟨afterB, textT⟩ := List.head?_eq_some_iff.1 ht
  have lists := congrArg String.toList same
  rw [String.toList_append, String.toList_append, textS, textT] at lists
  have cut := congrArg (splitFirst mark) lists
  rw [splitFirst_append ha, splitFirst_append hb] at cut
  obtain ⟨before, after⟩ := Prod.mk.inj cut
  refine ⟨String.toList_inj.1 before, String.toList_inj.1 ?_⟩
  rw [textS, textT, Option.some.inj after]

end RowBindings.Text
