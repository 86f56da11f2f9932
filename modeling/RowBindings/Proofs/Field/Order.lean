import Mathlib.Data.Finset.Card
import Mathlib.Data.List.FinRange
import RowBindings.Proofs.Field.Faults

/-!
# Rows in another order

Which fields repeat an earlier one depends on their order, but not how many: there are as many
repetitions as there are valid names, less those that differ in snake case
(`countP_duplicate_collect`). All other errors belong to one pair alone. So a row has as many errors
in one order as in another, and is accepted in all orders or in none. `resolveFields_permuted` says
so of every order.
-/

namespace RowBindings

open Text

/-- Whether an error tells of a name that an earlier one repeats. -/
def FieldError.isDuplicate : FieldError → Bool
  | .duplicate _ => true
  | .type .. | .invalidName _ => false

namespace Field

/-! ## Errors of a pair alone -/

/-- What is wrong with a pair whatever the others are. -/
def ownErrors (accepts : String → Bool) (pair : String × String) : List FieldError :=
  (if isIdentifier pair.1 then [] else [.invalidName pair.1]) ++ typeErrors accepts pair

/-- The fault of a descriptor is never that of a name. -/
theorem isDuplicate_of_mem_typeErrors {accepts : String → Bool} {pair : String × String}
    {e : FieldError} (h : e ∈ typeErrors accepts pair) : e.isDuplicate = false := by
  rw [typeErrors] at h
  split at h
  · cases h
  · obtain rfl := List.mem_singleton.1 h
    rfl

/-- Of the errors of a name, only a repetition depends on the names before. -/
theorem filter_nameError? (seen : List String) (name : String) :
    (nameError? seen name).toList.filter (!·.isDuplicate) =
      if isIdentifier name then [] else [.invalidName name] := by
  by_cases identifier : isIdentifier name = true
  · by_cases known : snakeCase name ∈ seen <;>
      simp [nameError?, identifier, known, FieldError.isDuplicate]
  · simp [nameError?, identifier, FieldError.isDuplicate]

/-- But for repetitions, a row has the errors of its pairs. -/
theorem filter_errors_collect (accepts : String → Bool) (seen : List String)
    (row : List (String × String)) :
    (collect accepts seen row).2.filter (!·.isDuplicate) = row.flatMap (ownErrors accepts) := by
  induction row generalizing seen with
  | nil => rfl
  | cons pair rest ih =>
    -- No fault of a type is a repeated name.
    have types : (typeErrors accepts pair).filter (!·.isDuplicate) = typeErrors accepts pair := by
      rw [List.filter_eq_self]
      intro e member
      rw [isDuplicate_of_mem_typeErrors member]
      rfl
    rw [errors_collect_cons, List.filter_append, List.filter_append, filter_nameError?, types, ih,
      List.flatMap_cons, ownErrors]

/-! ## Repetitions -/

/-- The valid names of a row in snake case. -/
def validNames (row : List (String × String)) : List String :=
  (row.filter (isIdentifier ·.1)).map (snakeCase ·.1)

/-- A pair counts among the valid names if its name is an identifier. -/
theorem length_validNames_cons (pair : String × String) (rest : List (String × String)) :
    (validNames (pair :: rest)).length =
      (if isIdentifier pair.1 then 1 else 0) + (validNames rest).length := by
  by_cases identifier : isIdentifier pair.1 = true <;> simp [validNames, identifier, Nat.add_comm]

/-- It does not matter whether a name is counted with the row or with what is known. -/
theorem toFinset_validNames_cons (seen : List String) (pair : String × String)
    (rest : List (String × String)) :
    (validNames (pair :: rest)).toFinset ∪ seen.toFinset =
      (validNames rest).toFinset ∪ (remember seen pair.1).toFinset := by
  by_cases identifier : isIdentifier pair.1 = true
  · rw [remember_of_isIdentifier identifier, List.toFinset_cons, Finset.union_insert,
      ← Finset.insert_union]
    simp [validNames, identifier]
  · simp [validNames, remember, identifier]

/-- A valid name is a repetition or makes one more name known. -/
theorem countP_nameError?_add_card (seen : List String) (name : String) :
    (nameError? seen name).toList.countP (·.isDuplicate) + (remember seen name).toFinset.card =
      (if isIdentifier name then 1 else 0) + seen.toFinset.card := by
  by_cases identifier : isIdentifier name = true
  case neg => simp [nameError?, remember, identifier, FieldError.isDuplicate]
  rw [remember_of_isIdentifier identifier, List.toFinset_cons, if_pos identifier]
  -- A name either is counted as repeated or makes the set larger.
  by_cases known : snakeCase name ∈ seen
  · have fault : nameError? seen name = some (.duplicate name) := by
      simp [nameError?, identifier, known]
    rw [fault, Finset.insert_eq_of_mem (List.mem_toFinset.2 known)]
    rfl
  · have fresh : snakeCase name ∉ seen.toFinset := mt List.mem_toFinset.1 known
    rw [nameError?_eq_none_iff.2 ⟨identifier, known⟩, Finset.card_insert_of_notMem fresh,
      Option.toList_none, List.countP_nil]
    omega

/-- The repetitions of a row, if some names are known before it. The induction is on the row; what
is known grows with every valid name. -/
theorem countP_duplicate_add_card (accepts : String → Bool) (seen : List String)
    (row : List (String × String)) :
    (collect accepts seen row).2.countP (·.isDuplicate)
        + ((validNames row).toFinset ∪ seen.toFinset).card =
      (validNames row).length + seen.toFinset.card := by
  -- The induction is on the row; the names already seen grow with it.
  induction row generalizing seen with
  | nil => simp [collect, validNames]
  | cons pair rest ih =>
    have one := countP_nameError?_add_card seen pair.1
    have others := ih (remember seen pair.1)
    have types : (typeErrors accepts pair).countP (·.isDuplicate) = 0 := by
      rw [List.countP_eq_zero]
      intro e member
      rw [isDuplicate_of_mem_typeErrors member]
      decide
    rw [errors_collect_cons, List.countP_append, List.countP_append, types,
      toFinset_validNames_cons, length_validNames_cons]
    omega

/-- A row has as many repetitions as valid names, less those that differ in snake case. -/
theorem countP_duplicate_collect (accepts : String → Bool) (row : List (String × String)) :
    (collect accepts [] row).2.countP (·.isDuplicate) + (validNames row).toFinset.card =
      (validNames row).length := by
  simpa using countP_duplicate_add_card accepts [] row

/-! ## Orders -/

variable {accepts : String → Bool} {row row' : List (String × String)}

/-- Duplicates are as many in every order. -/
theorem countP_duplicate_eq_of_perm (perm : row.Perm row') :
    (collect accepts [] row).2.countP (·.isDuplicate) =
      (collect accepts [] row').2.countP (·.isDuplicate) := by
  have names : (validNames row).Perm (validNames row') := (perm.filter _).map _
  have first := countP_duplicate_collect accepts row
  have second := countP_duplicate_collect accepts row'
  rw [List.toFinset_eq_of_perm _ _ names, names.length_eq] at first
  omega

/-- Repetitions aside, a row in another order has the same errors in another order. -/
theorem perm_filter_errors (perm : row.Perm row') :
    ((collect accepts [] row).2.filter (!·.isDuplicate)).Perm
      ((collect accepts [] row').2.filter (!·.isDuplicate)) := by
  rw [filter_errors_collect, filter_errors_collect]
  exact perm.flatMap_right _

/-- Every other error comes as often in every order. -/
theorem count_errors_eq_of_perm (perm : row.Perm row') {e : FieldError}
    (other : e.isDuplicate = false) :
    (collect accepts [] row).2.count e = (collect accepts [] row').2.count e := by
  have counted (errors : List FieldError) :
      (errors.filter (!·.isDuplicate)).count e = errors.count e :=
    List.count_filter (by simp [other])
  rw [← counted, ← counted (collect accepts [] row').2, (perm_filter_errors perm).count_eq]

/-- So there are as many errors in every order. -/
theorem length_errors_eq_of_perm (perm : row.Perm row') :
    (collect accepts [] row).2.length = (collect accepts [] row').2.length := by
  have parts (errors : List FieldError) :
      errors.length = errors.countP (·.isDuplicate) + (errors.filter (!·.isDuplicate)).length := by
    rw [List.length_eq_countP_add_countP (·.isDuplicate), ← List.countP_eq_length_filter]
    simp
  rw [parts, parts (collect accepts [] row').2, countP_duplicate_eq_of_perm perm,
    (perm_filter_errors perm).length_eq]

/-- A pair declares at most one field. -/
theorem rightUnique_declares : Relator.RightUnique (Declares accepts) := by
  rintro pair ⟨name, type⟩ ⟨name', type'⟩ ⟨rfl, resolved⟩ ⟨rfl, resolved'⟩
  cases resolved.symm.trans resolved'
  rfl

/-- The fields that pairs declare can be told by their positions. -/
theorem exists_ofFn_of_declares {fields : List Field}
    (declared : List.Forall₂ (Declares accepts) row fields) :
    ∃ field : Fin row.length → Field,
      fields = List.ofFn field ∧ ∀ i, Declares accepts (row.get i) (field i) := by
  obtain ⟨length, declares⟩ := List.forall₂_iff_get.1 declared
  refine ⟨fun i => fields.get (i.cast length), ?_, fun i => declares i i.isLt _⟩
  exact List.ext_get (by simp [length]) fun i bound bound' => by simp

/-- Pairs that declare fields position by position declare the list of them. -/
theorem forall₂_declares_ofFn {n : Nat} {pairs : Fin n → String × String} {field : Fin n → Field}
    (declares : ∀ i, Declares accepts (pairs i) (field i)) :
    List.Forall₂ (Declares accepts) (List.ofFn pairs) (List.ofFn field) := by
  refine List.forall₂_iff_get.2 ⟨by simp, fun i bound bound' => ?_⟩
  simpa using declares ⟨i, by simpa using bound⟩

/-- Pairs at permuted positions declare the fields at the permuted positions. -/
theorem exists_fields_permuted (σ : Equiv.Perm (Fin row.length))
    (none : (collect accepts [] row).2 = [])
    (none' : (collect accepts [] (List.ofFn fun i => row[σ i])).2 = []) :
    ∃ field : Fin row.length → Field, (collect accepts [] row).1 = List.ofFn field ∧
      (collect accepts [] (List.ofFn fun i => row[σ i])).1 = List.ofFn fun i => field (σ i) := by
  obtain ⟨field, fields, declares⟩ := exists_ofFn_of_declares (forall₂_declares_collect none)
  have permuted : List.Forall₂ (Declares accepts) (List.ofFn fun i => row[σ i])
      (List.ofFn fun i => field (σ i)) := forall₂_declares_ofFn fun i => declares (σ i)
  exact ⟨field, fields, List.right_unique_forall₂' rightUnique_declares
    (forall₂_declares_collect none') permuted⟩

end Field

/-- A row is refused if there is any error, and then for all of them. -/
theorem resolveFields_eq_collect (accepts : String → Bool) (row : List (String × String)) :
    resolveFields accepts row =
      if (Field.collect accepts [] row).2 = [] then .ok (Field.collect accepts [] row).1
      else .error (Field.collect accepts [] row).2 := by
  rw [resolveFields]
  cases Field.collect accepts [] row with
  | mk fields errors => cases errors <;> rfl

/-- A row is accepted in every order or in none. If it is, the fields are ordered like the pairs. If
it is not, there are as many errors in every order and as many repetitions among them, and each of
the other errors occurs as often. -/
theorem resolveFields_permuted (accepts : String → Bool) (row : List (String × String))
    (σ : Equiv.Perm (Fin row.length)) :
    (∃ field : Fin row.length → Field,
      resolveFields accepts row = .ok (List.ofFn field) ∧
      resolveFields accepts (List.ofFn fun i => row[σ i]) = .ok (List.ofFn fun i => field (σ i))) ∨
    ∃ errors errors', resolveFields accepts row = .error errors ∧
      resolveFields accepts (List.ofFn fun i => row[σ i]) = .error errors' ∧
      errors.length = errors'.length ∧
      errors.countP (·.isDuplicate) = errors'.countP (·.isDuplicate) ∧
      (∀ name, errors.count (.invalidName name) = errors'.count (.invalidName name)) ∧
      ∀ name e, errors.count (.type name e) = errors'.count (.type name e) := by
  have perm : row.Perm (List.ofFn fun i => row[σ i]) := by
    have permuted := σ.ofFn_comp_perm row.get
    rw [List.ofFn_get] at permuted
    exact permuted.symm
  have length := @Field.length_errors_eq_of_perm accepts _ _ perm
  rw [resolveFields_eq_collect, resolveFields_eq_collect]
  -- The number of errors is the same in both orders, so both succeed or neither.
  by_cases none : (Field.collect accepts [] row).2 = []
  · have none' : (Field.collect accepts [] (List.ofFn fun i => row[σ i])).2 = [] := by
      rw [← List.length_eq_zero_iff, ← length, none]
      rfl
    obtain ⟨field, fields, permuted⟩ := Field.exists_fields_permuted σ none none'
    rw [if_pos none, if_pos none']
    exact .inl ⟨field, congrArg Except.ok fields, congrArg Except.ok permuted⟩
  · have some' : (Field.collect accepts [] (List.ofFn fun i => row[σ i])).2 ≠ [] := by
      rw [← List.length_pos_iff, ← length, List.length_pos_iff]
      exact none
    rw [if_neg none, if_neg some']
    exact .inr ⟨_, _, rfl, rfl, length, Field.countP_duplicate_eq_of_perm perm,
      fun name => Field.count_errors_eq_of_perm perm rfl,
      fun name e => Field.count_errors_eq_of_perm perm rfl⟩

end RowBindings
