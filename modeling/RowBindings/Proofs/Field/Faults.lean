import RowBindings.Proofs.Field.Accepted

/-!
# The errors of a row, position by position

`resolveFields` goes through a row once, with the names that it has seen so far. What it reports can
be said without that order of work: `errorsAt` gives the errors of one position from the pair there
and the valid names before it. `resolveFields_errorsAt` says that a row fails with exactly these
errors, position after position, and is accepted if there are none.
-/

namespace RowBindings

open Text

namespace Field

/-! ## What is wrong at a position -/

/-- An earlier pair of the row has a valid name that is the same in snake case. -/
def Repeats (row : List (String × String)) (i : Fin row.length) : Prop :=
  ∃ j < i, isIdentifier row[j].1 = true ∧ snakeCase row[j].1 = snakeCase row[i].1

instance (row : List (String × String)) (i : Fin row.length) : Decidable (Repeats row i) :=
  inferInstanceAs (Decidable (∃ j, j < i ∧ _))

/-- What is wrong with the name at a position. Only a name that is valid can repeat another. -/
def nameErrorsAt (row : List (String × String)) (i : Fin row.length) : List FieldError :=
  if isIdentifier row[i].1 = false then [.invalidName row[i].1]
  else if Repeats row i then [.duplicate row[i].1]
  else []

/-- What is wrong with the descriptor of a pair. -/
def typeErrors (accepts : String → Bool) (pair : String × String) : List FieldError :=
  match resolve accepts pair.2 with
  | .ok _ => []
  | .error e => [.type pair.1 e]

/-- The errors of a position: what is wrong with the name, then what is wrong with the type. -/
def errorsAt (accepts : String → Bool) (row : List (String × String)) (i : Fin row.length) :
    List FieldError :=
  nameErrorsAt row i ++ typeErrors accepts row[i]

/-! ## Names seen before a position -/

/-- The snake-case names known after several pairs. -/
def rememberAll (seen : List String) (pairs : List (String × String)) : List String :=
  pairs.foldl (fun seen pair => remember seen pair.1) seen

/-- A name is remembered if it is an identifier. -/
theorem mem_remember {seen : List String} {name s : String} :
    s ∈ remember seen name ↔ s ∈ seen ∨ isIdentifier name = true ∧ snakeCase name = s := by
  rw [remember]
  split
  · rename_i identifier
    simp [identifier, or_comm, eq_comm]
  · rename_i other
    simp [other]

/-- Known are the names that were known before and the valid ones of the pairs. -/
theorem mem_rememberAll {seen : List String} {pairs : List (String × String)} {s : String} :
    s ∈ rememberAll seen pairs ↔
      s ∈ seen ∨ ∃ pair ∈ pairs, isIdentifier pair.1 = true ∧ snakeCase pair.1 = s := by
  induction pairs generalizing seen with
  | nil => simp [rememberAll]
  | cons pair rest ih =>
    show s ∈ rememberAll (remember seen pair.1) rest ↔ _
    rw [ih, mem_remember, List.exists_mem_cons_iff, or_assoc]

/-- Of the pairs before a position, the valid names are remembered. -/
theorem mem_rememberAll_take {row : List (String × String)} {i : Fin row.length} :
    snakeCase row[i].1 ∈ rememberAll [] (row.take i) ↔ Repeats row i := by
  rw [mem_rememberAll, or_iff_right List.not_mem_nil]
  constructor
  · rintro ⟨pair, earlier, identifier, same⟩
    -- A name in the first `i` places stands at a place before `i`.
    obtain ⟨j, bound, rfl⟩ := List.mem_take_iff_getElem.1 earlier
    have inRow : j < row.length := by omega
    have before : j < i := by omega
    exact ⟨⟨j, inRow⟩, before, identifier, same⟩
  · rintro ⟨j, before, identifier, same⟩
    refine ⟨row[j], List.mem_take_iff_getElem.2 ⟨j, ?_, rfl⟩, identifier, same⟩
    have bound := i.isLt
    rw [Fin.lt_def] at before
    omega

/-- The fault that the name at a position is found to have, in terms of the row. -/
theorem nameError?_rememberAll (row : List (String × String)) (i : Fin row.length) :
    (nameError? (rememberAll [] (row.take i)) row[i].1).toList = nameErrorsAt row i := by
  rw [nameError?, nameErrorsAt]
  cases isIdentifier row[i].1 with
  | false => rfl
  | true =>
    simp only [Bool.not_true, Bool.false_eq_true, Bool.true_eq_false, if_false,
      List.contains_iff_mem, mem_rememberAll_take]
    split <;> rfl

/-! ## Going through a row -/

/-- A pair adds what is wrong with its name and its type, and its name to those that are known. -/
theorem errors_collect_cons (accepts : String → Bool) (seen : List String) (pair : String × String)
    (rest : List (String × String)) :
    (collect accepts seen (pair :: rest)).2 =
      (nameError? seen pair.1).toList ++ typeErrors accepts pair
        ++ (collect accepts (remember seen pair.1) rest).2 := by
  obtain ⟨name, descriptor⟩ := pair
  rw [collect, typeErrors]
  cases resolve accepts descriptor <;> simp

/-- The errors collected on the way are those of the positions, each with the names that are known
when it is reached. The induction is on the row; what is known grows with every pair. -/
theorem errors_collect (accepts : String → Bool) (seen : List String)
    (row : List (String × String)) :
    (collect accepts seen row).2 = (List.ofFn fun i : Fin row.length =>
      (nameError? (rememberAll seen (row.take i)) row[i].1).toList
        ++ typeErrors accepts row[i]).flatten := by
  induction row generalizing seen with
  | nil => rfl
  | cons pair rest ih =>
    rw [errors_collect_cons, ih]
    simp only [List.length_cons, List.ofFn_succ, List.flatten_cons]
    rfl

/-- A row without an error has all its pairs declared by fields. -/
theorem forall₂_declares_collect {accepts : String → Bool} {seen : List String}
    {row : List (String × String)} (none : (collect accepts seen row).2 = []) :
    List.Forall₂ (Declares accepts) row (collect accepts seen row).1 :=
  (collect_eq_iff.1 (Prod.ext rfl none)).1

end Field

/-- A row is accepted, with one field for every pair as it was declared, if there is no error at any
position. Otherwise it fails with the errors of all positions in order. -/
theorem resolveFields_errorsAt (accepts : String → Bool) (row : List (String × String)) :
    if ∀ i, Field.errorsAt accepts row i = [] then
      ∃ fields, resolveFields accepts row = .ok fields ∧
        List.Forall₂ (Field.Declares accepts) row fields
    else
      resolveFields accepts row = .error (List.ofFn (Field.errorsAt accepts row)).flatten := by
  -- The names that `collect` carries along are those of the fields before.
  have errors : (Field.collect accepts [] row).2 =
      (List.ofFn (Field.errorsAt accepts row)).flatten := by
    rw [Field.errors_collect]
    simp only [Field.nameError?_rememberAll]
    rfl
  have empty : (List.ofFn (Field.errorsAt accepts row)).flatten = [] ↔
      ∀ i, Field.errorsAt accepts row i = [] := by
    rw [List.flatten_eq_nil_iff]
    simp [List.mem_ofFn]
  split
  · rename_i sound
    rw [empty.2 sound] at errors
    refine ⟨_, ?_, Field.forall₂_declares_collect errors⟩
    exact resolveFields_eq_ok_iff.2 (Field.collect_eq_iff.1 (Prod.ext rfl errors))
  · rename_i faulty
    have some : (Field.collect accepts [] row).2 ≠ [] := by
      rw [errors]
      exact mt empty.1 faulty
    rw [← errors, resolveFields]
    cases collected : Field.collect accepts [] row with
    | mk fields faults =>
      rw [collected] at some
      cases faults with
      | nil => exact absurd rfl some
      | cons e faults => rfl

end RowBindings
