import RowBindings.Descriptor

/-!
# Declared tables

The tables that a schema has declared, kept in the order of their code points without repetition,
so that the order of declaration leaves no trace. A reference is accepted if the table is declared,
its name is an identifier and its type would not hide a builtin one.
-/

namespace RowBindings

open Text

namespace Tables

/-- Put `name` in its place in an ascending list, unless it is there. -/
def place (name : String) : List String → List String
  | [] => [name]
  | n :: rest =>
    if name < n then name :: n :: rest
    else if name = n then n :: rest
    else n :: place name rest

/-- Placing a name adds it and nothing else. -/
theorem mem_place {name n : String} {names : List String} :
    n ∈ place name names ↔ n = name ∨ n ∈ names := by
  induction names with
  | nil => simp [place]
  | cons m rest ih => grind [place]

/-- Placing a name keeps the list ascending. -/
theorem pairwise_place {name : String} {names : List String} (h : names.Pairwise (· < ·)) :
    (place name names).Pairwise (· < ·) := by
  induction names with
  | nil => simp [place]
  | cons m rest ih =>
    rw [List.pairwise_cons] at h
    unfold place
    split
    · rename_i lt
      refine List.pairwise_cons.2 ⟨fun x hx => ?_, List.pairwise_cons.2 h⟩
      rcases List.mem_cons.1 hx with rfl | hx
      · exact lt
      · exact String.lt_trans lt (h.1 x hx)
    · split
      · exact List.pairwise_cons.2 h
      · rename_i not_lt ne
        refine List.pairwise_cons.2 ⟨fun x hx => ?_, ih h.2⟩
        rcases mem_place.1 hx with rfl | hx
        · refine Decidable.byContradiction fun not_gt => ne ?_
          exact String.le_antisymm (String.not_lt.1 not_gt) (String.not_lt.1 not_lt)
        · exact h.1 x hx

end Tables

structure Tables where
  /-- The names in ascending order, each of them once. -/
  names : List String
  ascending : names.Pairwise (· < ·)

namespace Tables

def empty : Tables := ⟨[], .nil⟩

def insert (tables : Tables) (name : String) : Tables :=
  ⟨place name tables.names, pairwise_place tables.ascending⟩

def contains (tables : Tables) (name : String) : Bool :=
  tables.names.contains name

def ofList (names : List String) : Tables :=
  names.foldl insert empty

/-- Whether descriptors may refer to a table called `name`. -/
def accepts (tables : Tables) (name : String) : Bool :=
  tables.contains name && isIdentifier name && !isReservedTypeName name

/-- The names between braces, each of them quoted. -/
def describe (tables : Tables) : String :=
  "KnownTables \x7b names: \x7b" ++ ", ".intercalate (tables.names.map quote) ++ "\x7d \x7d"

/-- Something asked of the declared tables. -/
inductive Request
  /-- Declare a table. -/
  | insert (name : String)
  /-- Is the table declared? -/
  | contains (name : String)
  /-- May descriptors refer to the table? -/
  | accepts (name : String)
  /-- Which type does the descriptor name? -/
  | resolve (descriptor : String)
  deriving DecidableEq, Repr

/-- What a request is answered. -/
inductive Answer
  | flag (holds : Bool)
  | type (resolved : Except TypeError FieldType)

/-- The tables after a request, and its answer. A declaration is answered whether it is new. -/
def answer (tables : Tables) : Request → Tables × Answer
  | .insert name => (tables.insert name, .flag !(tables.contains name))
  | .contains name => (tables, .flag (tables.contains name))
  | .accepts name => (tables, .flag (tables.accepts name))
  | .resolve descriptor => (tables, .type (RowBindings.resolve tables.accepts descriptor))

/-- The tables after several requests, and their answers in order. -/
def answerAll (tables : Tables) : List Request → Tables × List Answer
  | [] => (tables, [])
  | request :: rest =>
    let (tables, answer) := tables.answer request
    let (tables, answers) := tables.answerAll rest
    (tables, answer :: answers)

end Tables

end RowBindings
