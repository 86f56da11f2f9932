import RowBindings.Proofs.Descriptor.Locality
import RowBindings.Proofs.Field.Order
import RowBindings.Proofs.Log.Line
import RowBindings.Proofs.Text.Quoted

/-!
# What the messages of errors tell

A message puts names and descriptors between quotes and words around them. Whoever has the message
knows what was quoted, because quoted texts end where their quotes do, and so knows the descriptor
that was refused. Since a descriptor is refused for one reason only, the message tells the whole
error (`messages_tell_errors`), and it is a single line of characters that show.
-/

namespace RowBindings

open Text Descriptor

/-! ## Refused descriptors -/

namespace TypeError

/-- The words of a message before the first quoted text. -/
def opening (e : TypeError) : String :=
  match e.fault with
  | .malformedSize _ => "malformed size suffix in type "
  | .invalidSize what size =>
    "invalid " ++ what.word ++ " size " ++ signedDecimal size ++ " in type "
  | .signedWide => ""
  | .invalidTable _ => "invalid table name "
  | .unknown => "unknown field type "

/-- The text that a message quotes first. -/
def subject (e : TypeError) : String :=
  match e.fault with
  | .invalidTable name => name
  | _ => e.descriptor

/-- What follows the first quoted text in a message. -/
def closing (e : TypeError) : String :=
  match e.fault with
  | .signedWide => " is not supported, use uint256 and track the sign separately"
  | .invalidTable _ => " in type " ++ quote e.descriptor
  | _ => ""

/-- A message is what opens it, its quoted subject and what closes it. -/
theorem message_eq (e : TypeError) : e.message = e.opening ++ (quote e.subject ++ e.closing) := by
  obtain ⟨descriptor, fault⟩ := e
  cases fault <;> simp [message, opening, subject, closing, String.append_assoc]

/-- The digits of a number are no quotes. -/
theorem quote_not_mem_signedDecimal (n : Int) : '"' ∉ (signedDecimal n).toList := by
  have digits (n : Nat) : '"' ∉ (decimal n).toList := by
    intro member
    rw [decimal, String.toList_ofList] at member
    have digit := Nat.isDigit_of_mem_toDigits (by decide) (by decide) member
    revert digit
    decide
  rw [signedDecimal]
  split
  · rw [String.toList_append, List.mem_append, not_or]
    exact ⟨by decide, digits _⟩
  · exact digits _

/-- No quote stands before the subject, so the first one begins it. -/
theorem quote_not_mem_opening (e : TypeError) : '"' ∉ e.opening.toList := by
  rw [opening]
  split
  case h_2 what size _ =>
    have word : '"' ∉ what.word.toList := by cases what <;> decide
    simp only [String.toList_append, List.mem_append, not_or]
    exact ⟨⟨⟨⟨by decide, word⟩, by decide⟩, quote_not_mem_signedDecimal size⟩, by decide⟩
  all_goals decide

/-- A message tells what it quotes first, and what follows. -/
theorem subject_eq_of_message {e e' : TypeError} (same : e.message = e'.message) :
    e.subject = e'.subject ∧ e.closing = e'.closing := by
  rw [message_eq, message_eq] at same
  have quoted := append_inj_of_mark e.quote_not_mem_opening e'.quote_not_mem_opening
    (head?_quote_append _ _) (head?_quote_append _ _) same
  exact quote_append_inj.1 quoted.2

/-- Only the refusal of a table goes on with the type that refers to it. -/
theorem descriptor_eq_of_closing {e : TypeError} {descriptor : String}
    (goesOn : e.closing = " in type " ++ quote descriptor) : e.descriptor = descriptor := by
  have third : (" in type " ++ quote descriptor).toList[2]? = some 'n' := by
    rw [String.toList_append]
    rfl
  rw [closing] at goesOn
  split at goesOn
  · rw [← goesOn] at third
    exact absurd third (by decide)
  · exact quote_injective ((String.append_right_inj _).1 goesOn)
  · rw [← goesOn] at third
    exact absurd third (by decide)

/-- Most errors quote the descriptor itself. -/
theorem subject_eq_descriptor {e : TypeError} (other : ∀ name, e.fault ≠ .invalidTable name) :
    e.subject = e.descriptor := by
  rw [subject]
  split
  · rename_i name table
    exact absurd table (other name)
  · rfl

/-- The error about a table quotes its name first and then the descriptor. -/
theorem closing_of_invalidTable {e : TypeError} {name : String}
    (table : e.fault = .invalidTable name) : e.closing = " in type " ++ quote e.descriptor := by
  rw [closing, table]

/-- A message tells which descriptor was refused. -/
theorem descriptor_eq_of_message {e e' : TypeError} (same : e.message = e'.message) :
    e.descriptor = e'.descriptor := by
  obtain ⟨subject, closing⟩ := subject_eq_of_message same
  by_cases table : ∃ name, e.fault = .invalidTable name
  · obtain ⟨name, table⟩ := table
    exact (descriptor_eq_of_closing (closing ▸ closing_of_invalidTable table)).symm
  by_cases table' : ∃ name, e'.fault = .invalidTable name
  · obtain ⟨name, table'⟩ := table'
    exact descriptor_eq_of_closing (closing.trans (closing_of_invalidTable table'))
  · -- Neither is about a table, so both quote the descriptor first.
    rwa [subject_eq_descriptor (not_exists.1 table), subject_eq_descriptor (not_exists.1 table')]
      at subject

end TypeError

/-- A descriptor is refused for one reason, whatever tables are accepted. -/
theorem fault_unique {V W : String → Bool} {descriptor : String} {e e' : TypeError}
    (refused : resolve V descriptor = .error e) (refused' : resolve W descriptor = .error e') :
    e = e' := by
  obtain ⟨written, refuses⟩ := resolve_eq_error_iff.1 refused
  rcases refuses.imp_or (W := W) with refuses | ⟨name, -, -, -, denotes⟩
  · have again := resolve_eq_error_iff.2 ⟨written, refuses⟩
    exact Except.error.inj (again.symm.trans refused')
  · rw [resolve_eq_ok_iff.2 denotes] at refused'
    cases refused'

/-- The message of a refusal tells the descriptor and the error. -/
theorem TypeError.eq_of_message {V W : String → Bool} {descriptor descriptor' : String}
    {e e' : TypeError} (refused : resolve V descriptor = .error e)
    (refused' : resolve W descriptor' = .error e') (same : e.message = e'.message) :
    descriptor = descriptor' ∧ e = e' := by
  have written := (resolve_eq_error_iff.1 refused).1
  have written' := (resolve_eq_error_iff.1 refused').1
  obtain rfl : descriptor = descriptor' :=
    written.symm.trans ((descriptor_eq_of_message same).trans written')
  exact ⟨rfl, fault_unique refused refused'⟩

/-! ## Refused fields -/

namespace FieldError

/-- The type that an error reports, if it reports one, is indeed refused. -/
def IsReported (e : FieldError) : Prop :=
  ∀ field source, e = .type field source →
    ∃ accepts descriptor, resolve accepts descriptor = .error source

/-- The errors of a row report types that are refused. The induction is on the row; the names known
so far only decide errors of names. -/
theorem isReported_of_mem_collect {accepts : String → Bool} {seen : List String}
    {row : List (String × String)} {e : FieldError}
    (member : e ∈ (Field.collect accepts seen row).2) : e.IsReported := by
  induction row generalizing seen with
  | nil => cases member
  | cons pair rest ih =>
    rw [Field.errors_collect_cons, List.append_assoc] at member
    rintro field source rfl
    -- Of a field come the fault of its name, then that of its type.
    rcases List.mem_append.1 member with name | later
    · rw [Option.mem_toList, Field.nameError?] at name
      split at name
      · cases name
      split at name
      · cases name
      · cases name
    rcases List.mem_append.1 later with own | others
    · rw [Field.typeErrors] at own
      split at own
      · cases own
      · rename_i refused
        cases List.mem_singleton.1 own
        exact ⟨accepts, pair.2, refused⟩
    · exact ih others field source rfl

/-- The errors of a row are reported for its pairs. -/
theorem isReported_of_resolveFields {accepts : String → Bool} {row : List (String × String)}
    {errors : List FieldError} (refused : resolveFields accepts row = .error errors)
    {e : FieldError} (member : e ∈ errors) : e.IsReported := by
  rw [resolveFields_eq_collect] at refused
  split at refused
  · cases refused
  · cases refused
    exact isReported_of_mem_collect member

/-- The first letter of a message. -/
def letter : FieldError → Char
  | .type .. => 'f'
  | .invalidName _ => 'i'
  | .duplicate _ => 'd'

/-- The first letter of a message tells what kind of error it is. -/
theorem head?_message (e : FieldError) : e.message.toList.head? = some e.letter := by
  cases e <;> unfold message <;> simp only [String.append_assoc, String.toList_append] <;> rfl

/-- The message of a field's error tells the error. -/
theorem eq_of_message {e e' : FieldError} (reported : e.IsReported) (reported' : e'.IsReported)
    (same : e.message = e'.message) : e = e' := by
  have first := congrArg (·.toList.head?) same
  -- The first letters differ, so only errors of the same kind are left.
  simp only [head?_message] at first
  cases e <;> cases e' <;> simp [letter] at first
  case type.type field source field' source' =>
    obtain ⟨_, _, refused⟩ := reported field source rfl
    obtain ⟨_, _, refused'⟩ := reported' field' source' rfl
    unfold message at same
    simp only [String.append_assoc, String.append_right_inj, quote_append_inj] at same
    obtain ⟨rfl, same⟩ := same
    rw [(TypeError.eq_of_message refused refused' same).2]
  case invalidName.invalidName field field' =>
    unfold message at same
    rw [quote_injective ((String.append_right_inj _).1 same)]
  case duplicate.duplicate field field' =>
    unfold message at same
    rw [quote_injective ((String.append_right_inj _).1 same)]

end FieldError

/-- If two descriptors are refused with the same message, they are the same and so are the errors,
even if different tables were accepted. If two errors of fields have the same message, from the same
row or from different ones, they are the same: of one kind, about the same name and, if they are
about a type, about the same descriptor. No message has a control character in it, whatever names
and descriptors there are. -/
theorem messages_tell_errors :
    (∀ (V W : String → Bool) (descriptor descriptor' : String) (e e' : TypeError),
      resolve V descriptor = .error e → resolve W descriptor' = .error e' →
      e.message = e'.message → descriptor = descriptor' ∧ e = e') ∧
    (∀ (V W : String → Bool) (row row' : List (String × String)) (errors errors' : List FieldError),
      resolveFields V row = .error errors → resolveFields W row' = .error errors' →
      ∀ e ∈ errors, ∀ e' ∈ errors', e.message = e'.message → e = e') ∧
    (∀ (V : String → Bool) (descriptor : String) (e : TypeError),
      resolve V descriptor = .error e → ∀ c ∈ e.message.toList, isControl c = false) ∧
    (∀ (V : String → Bool) (row : List (String × String)) (errors : List FieldError),
      resolveFields V row = .error errors →
      ∀ e ∈ errors, ∀ c ∈ e.message.toList, isControl c = false) := by
  refine ⟨?_, ?_, ?_, ?_⟩
  · intro V W descriptor descriptor' e e' refused refused' same
    exact TypeError.eq_of_message refused refused' same
  · intro V W row row' errors errors' refused refused' e member e' member' same
    exact FieldError.eq_of_message (FieldError.isReported_of_resolveFields refused member)
      (FieldError.isReported_of_resolveFields refused' member') same
  · intro V descriptor e _ c member
    exact e.printable_message.isControl_eq_false member
  · intro V row errors _ e _ c member
    exact e.printable_message.isControl_eq_false member

/-- A descriptor that breaks the line is refused by two schemas, and a field's name in two rows. -/
theorem messages_tell_errors_newline :
    let refuses := fun _ : String => false
    let vouches := fun _ : String => true
    (∃ e e', resolve refuses "in\nt" = .error e ∧ resolve vouches "in\nt" = .error e' ∧
      e.message = e'.message ∧ e = e' ∧ ∀ c ∈ e.message.toList, isControl c = false) ∧
    ∃ errors errors', resolveFields refuses [("1st", "bool")] = .error errors ∧
      resolveFields vouches [("id", "bool"), ("1st", "int")] = .error errors' ∧
      ∃ e ∈ errors, ∃ e' ∈ errors', e.message = e'.message ∧ e = e' ∧
        ∀ c ∈ e.message.toList, isControl c = false := by
  intro refuses vouches
  obtain ⟨types, fields, plain, plainFields⟩ := messages_tell_errors
  have refused : resolve refuses "in\nt" = .error ⟨"in\nt", .unknown⟩ := rfl
  have refused' : resolve vouches "in\nt" = .error ⟨"in\nt", .unknown⟩ := rfl
  have row : resolveFields refuses [("1st", "bool")] = .error [.invalidName "1st"] := rfl
  have row' : resolveFields vouches [("id", "bool"), ("1st", "int")] =
      .error [.invalidName "1st", .type "1st" ⟨"int", .signedWide⟩] := rfl
  refine ⟨⟨_, _, refused, refused', rfl, ?_, plain refuses _ _ refused⟩, _, _, row, row',
    _, List.mem_cons_self, _, List.mem_cons_self, rfl, ?_, ?_⟩
  · exact (types refuses vouches _ _ _ _ refused refused' rfl).2
  · exact fields refuses vouches _ _ _ _ row row' _ List.mem_cons_self _ List.mem_cons_self rfl
  · exact plainFields refuses _ _ row _ List.mem_cons_self

end RowBindings
