import Mathlib.Data.List.Basic
import RowBindings.Proofs.Text.ByteOrder
import RowBindings.Proofs.Text.Quoted
import RowBindings.Tables

/-!
# Declared tables over a run of requests

Declared tables behave like a set of names. What a request is answered depends on which names were
declared before it, at first or by a request, and not on how often or in which order;
`Request.answerAmong` says what it is from a plain list of these names. `answerAll_declared` says so
of every run, and that the text shown at its end lists the names in the order of their bytes.
-/

namespace RowBindings

open Text

namespace Tables

/-! ## Answers in terms of the names declared before -/

/-- The name that a request declares, if it declares one. -/
def Request.declares? : Request → Option String
  | .insert name => some name
  | _ => none

/-- The names that are declared at first or by one of the requests, as often as they are. -/
def declaredBy (initial : List String) (requests : List Request) : List String :=
  initial ++ requests.filterMap Request.declares?

/-- Whether descriptors may refer to a table if the names in `declared` are declared. -/
def acceptsAmong (declared : List String) (name : String) : Bool :=
  isIdentifier name && !isReservedTypeName name && decide (name ∈ declared)

/-- What a request is answered if the names in `declared` are declared. -/
def Request.answerAmong (declared : List String) : Request → Answer
  | .insert name => .flag (name ∉ declared)
  | .contains name => .flag (name ∈ declared)
  | .accepts name => .flag (acceptsAmong declared name)
  | .resolve descriptor => .type (RowBindings.resolve (acceptsAmong declared) descriptor)

/-! ## One request -/

/-- The declared tables are those called by the names in `declared`. -/
def Holds (tables : Tables) (declared : List String) : Prop :=
  ∀ name, name ∈ tables.names ↔ name ∈ declared

theorem holds_empty : empty.Holds [] :=
  fun _ => Iff.rfl

variable {tables tables' : Tables} {declared declared' : List String}

/-- A name that is inserted is declared from then on. -/
theorem Holds.insert (holds : tables.Holds declared) (name : String) :
    (tables.insert name).Holds (declared ++ [name]) := by
  intro n
  rw [Tables.insert, mem_place, holds n, List.mem_append, List.mem_singleton, or_comm]

/-- Tables contain what was declared. -/
theorem Holds.contains_eq (holds : tables.Holds declared) (name : String) :
    tables.contains name = decide (name ∈ declared) := by
  simp only [contains, List.contains_eq_mem, holds name]

/-- Tables vouch for the declared names that are accepted at all. -/
theorem Holds.accepts_eq (holds : tables.Holds declared) :
    tables.accepts = acceptsAmong declared := by
  funext name
  rw [accepts, acceptsAmong, holds.contains_eq, Bool.and_assoc, Bool.and_comm]

/-- A request is answered by the names that are declared. -/
theorem Holds.answer_eq (holds : tables.Holds declared) (request : Request) :
    (tables.answer request).2 = request.answerAmong declared := by
  cases request with
  | insert name => simp only [answer, Request.answerAmong, holds.contains_eq, decide_not]
  | contains name => simp only [answer, Request.answerAmong, holds.contains_eq]
  | accepts name => simp only [answer, Request.answerAmong, holds.accepts_eq]
  | resolve descriptor => simp only [answer, Request.answerAmong, holds.accepts_eq]

/-- A request adds the name that it declares, and nothing if it declares none. -/
theorem Holds.answer (holds : tables.Holds declared) (request : Request) :
    (tables.answer request).1.Holds (declared ++ request.declares?.toList) := by
  cases request with
  | insert name => exact holds.insert name
  | contains | accepts | resolve =>
    show tables.Holds (declared ++ [])
    rwa [List.append_nil]

/-! ## Runs -/

/-- The invariant holds after any number of insertions. -/
theorem Holds.foldl_insert (holds : tables.Holds declared) (names : List String) :
    (names.foldl Tables.insert tables).Holds (declared ++ names) := by
  induction names generalizing tables declared with
  | nil => rwa [List.append_nil]
  | cons name names ih =>
    rw [← List.singleton_append, ← List.append_assoc]
    exact ih (holds.insert name)

theorem holds_ofList (initial : List String) : (ofList initial).Holds initial :=
  holds_empty.foldl_insert initial

/-- What a first request declares is declared for those after it. -/
theorem declaredBy_cons (declared : List String) (request : Request) (requests : List Request) :
    declaredBy declared (request :: requests) =
      declaredBy (declared ++ request.declares?.toList) requests := by
  rw [declaredBy, declaredBy, List.append_assoc]
  cases named : request.declares? with
  | none => rw [List.filterMap_cons_none named, Option.toList_none, List.nil_append]
  | some name =>
    rw [List.filterMap_cons_some named, Option.toList_some, List.singleton_append]

/-- After a run, the tables are those declared before it or in it. -/
theorem Holds.answerAll (holds : tables.Holds declared) (requests : List Request) :
    (tables.answerAll requests).1.Holds (declaredBy declared requests) := by
  induction requests generalizing tables declared with
  | nil =>
    rw [declaredBy, List.filterMap_nil, List.append_nil]
    exact holds
  | cons request requests ih =>
    rw [declaredBy_cons]
    exact ih (holds.answer request)

/-- Every request of a run is answered by the names declared before it. The induction is on the
requests; each of them adds what it declares to the names that the others know. -/
theorem Holds.answerAll_eq (holds : tables.Holds declared) (requests : List Request) :
    (tables.answerAll requests).2 = List.ofFn fun i : Fin requests.length =>
      requests[i].answerAmong (declaredBy declared (requests.take i)) := by
  -- The induction is on the requests; what is declared grows with each.
  induction requests generalizing tables declared with
  | nil => rfl
  | cons request requests ih =>
    have before : declaredBy declared [] = declared := List.append_nil declared
    have later (i : Fin requests.length) : declaredBy declared ((request :: requests).take i.succ) =
        declaredBy (declared ++ request.declares?.toList) (requests.take i) := by
      rw [Fin.val_succ, List.take_succ_cons, declaredBy_cons]
    rw [List.ofFn_succ]
    simp only [later]
    show (tables.answer request).2 :: ((tables.answer request).1.answerAll requests).2 = _
    rw [holds.answer_eq, ih (holds.answer request)]
    show _ = request.answerAmong (declaredBy declared []) :: _
    rw [before]
    rfl

/-- Tables with the same names are the same, because both lists of names are ascending. -/
theorem Holds.eq (holds : tables.Holds declared) (holds' : tables'.Holds declared')
    (same : ∀ name, name ∈ declared ↔ name ∈ declared') : tables = tables' := by
  obtain ⟨names, ascending⟩ := tables
  obtain ⟨names', ascending'⟩ := tables'
  have members (name : String) : name ∈ names ↔ name ∈ names' :=
    (holds name).trans ((same name).trans (holds' name).symm)
  -- Strictly ascending lists have no name twice, so one order is left.
  have distinct {names : List String} (ascending : names.Pairwise (· < ·)) : names.Nodup := by
    refine ascending.imp fun {a b} less equal => ?_
    rw [equal] at less
    exact String.lt_irrefl b less
  have perm := (List.perm_ext_iff_of_nodup (distinct ascending) (distinct ascending')).2 members
  have equal : names = names' := perm.eq_of_pairwise
    (fun a b _ _ less greater => absurd (String.lt_trans less greater) (String.lt_irrefl a))
    ascending ascending'
  subst equal
  rfl

/-! ## The text of declared tables -/

/-- After the first of several parts, a comma stands before each. -/
theorem intercalate_cons_eq (part : String) (parts : List String) :
    ", ".intercalate (part :: parts) = part ++ String.join (parts.map (", " ++ ·)) := by
  induction parts generalizing part with
  | nil => rw [String.intercalate_singleton, List.map_nil, String.join_nil, String.append_empty]
  | cons next parts ih =>
    rw [String.intercalate_cons_cons, ih, List.map_cons, String.join_cons]
    simp only [String.append_assoc]

/-- Quoted names behind commas, up to the closing braces, tell the names. -/
theorem join_quote_inj {names names' : List String}
    (same : String.join ((names.map quote).map (", " ++ ·)) ++ "\x7d \x7d" =
      String.join ((names'.map quote).map (", " ++ ·)) ++ "\x7d \x7d") : names = names' := by
  -- The end of the list cannot be taken for a further name.
  have ends (rest : String) : "\x7d \x7d" ≠ ", " ++ rest := by
    intro same
    have first := congrArg (·.toList.head?) same
    rw [head?_toList_append (by rfl : ", ".toList.head? = some ',')] at first
    exact absurd first (by decide)
  induction names generalizing names' with
  | nil =>
    cases names' with
    | nil => rfl
    | cons name' names' =>
      simp only [List.map_cons, String.join_cons, String.append_assoc] at same
      exact absurd same (ends _)
  | cons name names ih =>
    cases names' with
    | nil =>
      simp only [List.map_cons, String.join_cons, String.append_assoc] at same
      exact absurd same.symm (ends _)
    | cons name' names' =>
      simp only [List.map_cons, String.join_cons, String.append_assoc, String.append_right_inj,
        quote_append_inj] at same
      rw [same.1, ih same.2]

/-- The text of declared tables tells their names. -/
theorem describe_inj {tables tables' : Tables} (same : tables.describe = tables'.describe) :
    tables = tables' := by
  obtain ⟨names, ascending⟩ := tables
  obtain ⟨names', ascending'⟩ := tables'
  -- The end of the list cannot be taken for a first name either.
  have ends (name rest : String) : "\x7d \x7d" ≠ quote name ++ rest := by
    intro same
    have first := congrArg (·.toList.head?) same
    rw [head?_quote_append] at first
    exact absurd first (by decide)
  have equal : names = names' := by
    unfold describe at same
    simp only [String.append_assoc, String.append_right_inj] at same
    cases names with
    | nil =>
      cases names' with
      | nil => rfl
      | cons name' names' =>
        rw [List.map_cons, intercalate_cons_eq, String.append_assoc] at same
        exact absurd same (ends name' _)
    | cons name names =>
      cases names' with
      | nil =>
        rw [List.map_cons, intercalate_cons_eq, String.append_assoc] at same
        exact absurd same.symm (ends name _)
      | cons name' names' =>
        rw [List.map_cons, List.map_cons, intercalate_cons_eq, intercalate_cons_eq,
          String.append_assoc, String.append_assoc, quote_append_inj] at same
        rw [same.1, join_quote_inj same.2]
  subst equal
  rfl

/-- In a run of requests, each is answered by the names that were declared at first or by the
requests before it: a declaration is new if its name is none of them, and a table is declared if its
name is one. So requests that declare nothing change no answer. The text shown after a run lists
each declared name once, in the order of the bytes of the names. Two runs that declare the same
names, in whatever order and however often, end with the same text, and only those; whatever is
asked after them is answered alike. -/
theorem answerAll_declared (initial : List String) (requests : List Request) :
    let run := (ofList initial).answerAll requests
    run.2 = List.ofFn (fun i : Fin requests.length =>
      requests[i].answerAmong (declaredBy initial (requests.take i))) ∧
    (∀ later, (run.1.answerAll later).2 =
      (((ofList initial).answerAll (requests.filter (·.declares?.isSome))).1.answerAll later).2) ∧
    (∃ names : List String,
      run.1.describe = "KnownTables \x7b names: \x7b" ++ ", ".intercalate (names.map quote)
        ++ "\x7d \x7d" ∧
      (∀ name, name ∈ names ↔ name ∈ declaredBy initial requests) ∧
      names.Pairwise fun a b => encodeUtf8 a < encodeUtf8 b) ∧
    ∀ initial' requests',
      let run' := (ofList initial').answerAll requests'
      (run.1.describe = run'.1.describe ↔
        ∀ name, name ∈ declaredBy initial requests ↔ name ∈ declaredBy initial' requests') ∧
      ((∀ name, name ∈ declaredBy initial requests ↔ name ∈ declaredBy initial' requests') →
        ∀ later, (run.1.answerAll later).2 = (run'.1.answerAll later).2) := by
  intro run
  have holds (initial : List String) (requests : List Request) :
      ((ofList initial).answerAll requests).1.Holds (declaredBy initial requests) :=
    (holds_ofList initial).answerAll requests
  refine ⟨(holds_ofList initial).answerAll_eq requests, fun later => ?_, ?_, ?_⟩
  · -- Leaving out what declares nothing leaves the same names.
    have same : declaredBy initial (requests.filter (·.declares?.isSome)) =
        declaredBy initial requests := by
      rw [declaredBy, declaredBy, List.filterMap_filter]
      congr 2
      funext request
      cases request.declares? <;> rfl
    have equal := (holds initial requests).eq (holds initial _) fun name => by rw [same]
    exact congrArg (fun tables => (tables.answerAll later).2) equal
  · refine ⟨run.1.names, rfl, holds initial requests, ?_⟩
    exact run.1.ascending.imp encodeUtf8_lt_iff.2
  · intro initial' requests' run'
    have equal := (holds initial requests).eq (holds initial' requests')
    refine ⟨⟨fun same name => ?_, fun same => ?_⟩, fun same later => ?_⟩
    · rw [← holds initial requests name, ← holds initial' requests' name]
      exact iff_of_eq (congrArg (name ∈ ·.names) (describe_inj same))
    · exact congrArg describe (equal same)
    · exact congrArg (fun tables => (tables.answerAll later).2) (equal same)

end Tables

end RowBindings
