import Mathlib.Data.List.Forall2
import RowBindings.Field
import RowBindings.Proofs.Descriptor.Language
import RowBindings.Tables

/-!
# Accepted fields

`resolveFields` accepts a row if every descriptor resolves and every name is an identifier that no
earlier name shares in snake case (`resolveFields_eq_ok_iff`). A reference among the accepted
fields is to a table that the schema vouches for.
-/

namespace RowBindings

open Text

/-! ## Names -/

namespace Field

/-- The fields are named by identifiers that stay distinct in snake case, also from `seen`. -/
inductive WellNamed : (seen : List String) → List Field → Prop
  | nil {seen : List String} : WellNamed seen []
  | cons {seen : List String} {f : Field} {rest : List Field} :
    isIdentifier f.name = true → snakeCase f.name ∉ seen →
    WellNamed (snakeCase f.name :: seen) rest → WellNamed seen (f :: rest)

/-- All names that are accepted are identifiers. -/
theorem WellNamed.isIdentifier_of_mem {seen : List String} {fields : List Field} {f : Field}
    (named : WellNamed seen fields) (member : f ∈ fields) : isIdentifier f.name = true := by
  induction named with
  | nil => cases member
  | cons name _ _ ih =>
    rcases List.mem_cons.1 member with rfl | later
    · exact name
    · exact ih later

/-- Well named fields differ in snake case, from each other and from the names seen before. -/
theorem WellNamed.nodup {seen : List String} {fields : List Field} (named : WellNamed seen fields) :
    (fields.map (snakeCase ·.name)).Nodup ∧ ∀ f ∈ fields, snakeCase f.name ∉ seen := by
  induction named with
  | nil => exact ⟨.nil, by simp⟩
  | @cons seen f rest _ fresh _ ih =>
    obtain ⟨distinct, unseen⟩ := ih
    constructor
    · rw [List.map_cons, List.nodup_cons]
      refine ⟨fun taken => ?_, distinct⟩
      obtain ⟨g, later, same⟩ := List.mem_map.1 taken
      -- A later name that is taken would be among those seen.
      exact unseen g later (same ▸ List.mem_cons_self)
    · intro g member
      rcases List.mem_cons.1 member with rfl | later
      · exact fresh
      · exact fun old => unseen g later (List.mem_cons_of_mem _ old)

/-- A name has no fault if it is an identifier that is new in snake case. -/
theorem nameError?_eq_none_iff {seen : List String} {name : String} :
    nameError? seen name = none ↔ isIdentifier name = true ∧ snakeCase name ∉ seen := by
  rw [nameError?]
  by_cases identifier : isIdentifier name = true
  · by_cases taken : snakeCase name ∈ seen <;> simp [identifier, taken]
  · simp [identifier]

theorem remember_of_isIdentifier {seen : List String} {name : String}
    (h : isIdentifier name = true) : remember seen name = snakeCase name :: seen := by
  rw [remember, if_pos h]

/-- A pair of name and descriptor declares a field. -/
def Declares (accepts : String → Bool) (pair : String × String) (f : Field) : Prop :=
  f.name = pair.1 ∧ resolve accepts pair.2 = .ok f.type

/-- Declared fields have the names of their pairs. -/
theorem map_name_of_declares {accepts : String → Bool} {row : List (String × String)}
    {fields : List Field} (declared : List.Forall₂ (Declares accepts) row fields) :
    fields.map name = row.map Prod.fst := by
  induction declared with
  | nil => rfl
  | cons declares _ ih => rw [List.map_cons, List.map_cons, declares.1, ih]

/-! ## Rows -/

/-- A row is collected without an error exactly if its pairs declare the fields and these are well
named. The induction carries the names seen so far, which grow with each field. -/
theorem collect_eq_iff {accepts : String → Bool} {seen : List String}
    {row : List (String × String)} {fields : List Field} :
    collect accepts seen row = (fields, []) ↔
      List.Forall₂ (Declares accepts) row fields ∧ WellNamed seen fields := by
  induction row generalizing seen fields with
  | nil =>
    rw [collect, List.forall₂_nil_left_iff]
    constructor
    · intro h
      obtain rfl := (Prod.mk.inj h).1
      exact ⟨rfl, .nil⟩
    · rintro ⟨rfl, -⟩
      rfl
  | cons pair row ih =>
    obtain ⟨name, descriptor⟩ := pair
    cases later : collect accepts (remember seen name) row with
    | mk others faults =>
    cases resolved : resolve accepts descriptor with
    | error e =>
      rw [collect, later, resolved]
      constructor
      · intro h
        have none := (Prod.mk.inj h).2
        simp at none
      · rintro ⟨declared, -⟩
        obtain ⟨f, rest, ⟨-, type⟩, -, -⟩ := List.forall₂_cons_left_iff.1 declared
        rw [resolved] at type
        cases type
    | ok type =>
      -- Now only the name can be at fault, and it is held against the names seen before.
      rw [collect, later, resolved]
      constructor
      · intro h
        obtain ⟨rfl, none⟩ := Prod.mk.inj h
        obtain ⟨sound, rfl⟩ := List.append_eq_nil_iff.1 none
        obtain ⟨identifier, fresh⟩ := nameError?_eq_none_iff.1 (Option.toList_eq_nil_iff.1 sound)
        obtain ⟨declared, named⟩ := ih.1 later
        rw [remember_of_isIdentifier identifier] at named
        exact ⟨.cons ⟨rfl, resolved⟩ declared, .cons identifier fresh named⟩
      · rintro ⟨declared, named⟩
        obtain ⟨f, rest, ⟨rfl, declares⟩, others, rfl⟩ := List.forall₂_cons_left_iff.1 declared
        rw [resolved] at declares
        cases declares
        cases named with
        | cons identifier fresh named =>
          have collected := ih.2 ⟨others, remember_of_isIdentifier identifier ▸ named⟩
          obtain ⟨rfl, rfl⟩ := Prod.mk.inj (later.symm.trans collected)
          simp only [nameError?_eq_none_iff.2 ⟨identifier, fresh⟩]
          rfl

end Field

/-- A row is accepted with exactly the fields that its pairs declare, if these are well named. -/
theorem resolveFields_eq_ok_iff {accepts : String → Bool} {row : List (String × String)}
    {fields : List Field} :
    resolveFields accepts row = .ok fields ↔
      List.Forall₂ (Field.Declares accepts) row fields ∧ Field.WellNamed [] fields := by
  rw [← Field.collect_eq_iff, resolveFields]
  cases Field.collect accepts [] row with
  | mk collected faults =>
    cases faults with
    | nil => simp
    | cons e faults => simp

/-- The types of a row are resolved one by one, up to the first that fails. -/
theorem resolveTypes_cons (accepts : String → Bool) (pair : String × String)
    (row : List (String × String)) :
    resolveTypes accepts (pair :: row) =
      match resolve accepts pair.2 with
      | .error e => .error e
      | .ok type => (resolveTypes accepts row).map (⟨pair.1, type⟩ :: ·) := by
  obtain ⟨name, descriptor⟩ := pair
  rw [resolveTypes, List.mapM_cons]
  show ((resolve accepts descriptor).map (Field.mk name) >>= fun f =>
    resolveTypes accepts row >>= fun rest => pure (f :: rest)) = _
  cases resolve accepts descriptor with
  | error e => rfl
  | ok type => cases resolveTypes accepts row <;> rfl

/-- With the names taken as they are, a row has the fields that its pairs declare. -/
theorem resolveTypes_eq_ok_iff {accepts : String → Bool} {row : List (String × String)}
    {fields : List Field} :
    resolveTypes accepts row = .ok fields ↔ List.Forall₂ (Field.Declares accepts) row fields := by
  -- The induction is on the row; its first failure would be the result.
  induction row generalizing fields with
  | nil =>
    have empty : resolveTypes accepts [] = .ok [] := rfl
    rw [empty, List.forall₂_nil_left_iff, Except.ok.injEq, eq_comm]
  | cons pair row ih =>
    rw [resolveTypes_cons]
    constructor
    · intro h
      cases resolved : resolve accepts pair.2 with
      | error e =>
        rw [resolved] at h
        cases h
      | ok type =>
        cases others : resolveTypes accepts row with
        | error e =>
          rw [resolved, others] at h
          cases h
        | ok rest =>
          rw [resolved, others] at h
          cases h
          exact .cons ⟨rfl, resolved⟩ (ih.1 others)
    · intro declared
      obtain ⟨⟨name, type⟩, rest, ⟨rfl, resolved⟩, others, rfl⟩ :=
        List.forall₂_cons_left_iff.1 declared
      rw [resolved, ih.2 others]
      rfl

/-! ## References to tables -/

/-- A table that declared tables vouch for is named by an identifier, and its type hides none. -/
theorem Tables.of_accepts {tables : Tables} {name : String} (h : tables.accepts name = true) :
    isIdentifier name = true ∧ isReservedTypeName name = false := by
  simp only [Tables.accepts, Bool.and_eq_true, Bool.not_eq_true'] at h
  exact ⟨h.1.2, h.2⟩

/-- Such a table can be referred to. -/
theorem Tables.resolve_of_accepts {tables : Tables} {name : String}
    (accepted : tables.accepts name = true) :
    resolve tables.accepts ("table " ++ name) = .ok (.table name) := by
  refine resolve_eq_ok_iff.2 (.table ?_ accepted)
  rintro rfl
  have identifier := (Tables.of_accepts accepted).1
  revert identifier
  decide

end RowBindings
