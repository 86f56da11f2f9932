import RowBindings.Command
import RowBindings.Log.Filter
import RowBindings.Proofs.Text.Printable

/-!
# Error lines

Without a log setting only failures are shown, each by one line. Whatever names and descriptors the
message of a failure holds, its line shows every character and is a single one.
-/

namespace RowBindings

open Text

/-! ## Messages -/

/-- Whatever the descriptor was, the message about it has it quoted. -/
theorem TypeError.printable_message (e : TypeError) : Printable e.message := by
  have descriptor := printable_quote e.descriptor
  rw [message]
  split
  · exact .append (by decide) descriptor
  · rename_i what size _
    have word : Printable what.word := by cases what <;> decide
    exact .append (.append (.append (.append (.append (by decide) word) (by decide))
      (printable_signedDecimal size)) (by decide)) descriptor
  · exact .append descriptor (by decide)
  · exact .append (.append (.append (by decide) (printable_quote _)) (by decide)) descriptor
  · exact .append (by decide) descriptor

theorem FieldError.printable_message (e : FieldError) : Printable e.message := by
  cases e with
  | type field source =>
    exact .append (.append (.append (by decide) (printable_quote field)) (by decide))
      source.printable_message
  | invalidName field => exact .append (by decide) (printable_quote field)
  | duplicate field => exact .append (by decide) (printable_quote field)

theorem GenerateError.printable_message (e : GenerateError) : Printable e.message := by
  cases e with
  | missingCodec field => exact .append (.append (by decide) (printable_quote field)) (by decide)
  | reservedName name => exact .append (printable_quote name) (by decide)
  | duplicateField field => exact .append (.append (by decide) (printable_quote field)) (by decide)
  | hostType field host =>
    exact .append (.append (.append (.append (by decide) (printable_quote host)) (by decide))
      (printable_quote field)) (by decide)
  | unwritableName name => exact .append (printable_quote name) (by decide)

/-- So what a command fails with can always be printed. -/
theorem Failure.printable_message (failure : Failure) : Printable failure.message := by
  cases failure with
  | resolve failed total =>
    exact .append (.append (.append (printable_decimal failed) (by decide))
      (printable_decimal total)) (by decide)
  | rowName name => exact .append (by decide) (printable_quote name)
  | fields errors => exact .append (printable_decimal errors.length) (by decide)
  | generate error => exact error.printable_message

namespace Log

/-! ## Lines -/

/-- The line that shows a failure. -/
def errorLine (message : String) : String :=
  "ERROR dt_datamod_generator: " ++ message

/-- An error takes one line of the log. -/
theorem newline_not_mem_errorLine {message : String} (h : Printable message) :
    '\n' ∉ (errorLine message).toList :=
  newline_not_mem_append (by decide) h.newline_not_mem

/-- The error line of an event, if it is a failure. -/
def Event.errorLine? : Event → Option String
  | .failure message => some (errorLine message)
  | _ => none

/-- Without a setting failures are shown, and nothing else. -/
theorem shows_standard (e : Event) : Filter.standard.shows e = e.errorLine?.isSome := by
  cases e <;> rfl

theorem line_of_errorLine? {e : Event} {line : String} (h : e.errorLine? = some line) :
    e.line = line := by
  cases e with
  | failure message =>
    obtain rfl := Option.some.inj h
    rfl
  | _ => cases h

/-- The log of a run without a setting has one line for each failure. -/
theorem log_standard (events : List Event) :
    (events.filter Filter.standard.shows).map Event.line = events.filterMap Event.errorLine? := by
  induction events with
  | nil => rfl
  | cons e events ih =>
    cases shown : e.errorLine? with
    | none =>
      rw [List.filter_cons_of_neg (by simp [shows_standard, shown]), ih,
        List.filterMap_cons_none shown]
    | some line =>
      rw [List.filter_cons_of_pos (by simp [shows_standard, shown]), List.map_cons, ih,
        List.filterMap_cons_some shown, line_of_errorLine? shown]

/-- What is told of a resolution as such is no failure. -/
theorem errorLine?_ofResolution (accepts : String → Bool) (descriptor : String) :
    (Event.ofResolution accepts descriptor).errorLine? = none := by
  rw [Event.ofResolution]
  split <;> rfl

/-- The events of resolving fields are no errors; the commands report those themselves. -/
theorem filterMap_ofFields (accepts : String → Bool) (row : List (String × String)) :
    (Event.ofFields accepts row).filterMap Event.errorLine? = [] := by
  have resolutions : (row.map fun field => Event.ofResolution accepts field.2).filterMap
      Event.errorLine? = [] := by
    rw [List.filterMap_eq_nil_iff]
    intro e member
    obtain ⟨field, -, rfl⟩ := List.mem_map.1 member
    exact errorLine?_ofResolution accepts field.2
  rw [Event.ofFields, List.filterMap_append, resolutions]
  split <;> rfl

end Log

end RowBindings
