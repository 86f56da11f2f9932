import RowBindings.Bindings

/-!
# Events

What happens in a run is told as events. Resolving a descriptor tells of the type or of the
rejection, resolving a row tells if it failed, and the commands tell of what they do and of every
failure. An event has a level, a topic that names the part of the program it comes from, a message,
and attributes. Nothing else depends on the events: whether they are shown is decided elsewhere.
-/

namespace RowBindings.Log

open Text

/-- How urgent an event is. -/
inductive Level
  | error
  | warn
  | info
  | debug
  | trace
  deriving DecidableEq, Repr

namespace Level

def name : Level → String
  | error => "ERROR"
  | warn => "WARN"
  | info => "INFO"
  | debug => "DEBUG"
  | trace => "TRACE"

/-- The place of a level, the most urgent first. -/
def rank : Level → Nat
  | error => 1
  | warn => 2
  | info => 3
  | debug => 4
  | trace => 5

end Level

/-- Something that happened in a run. -/
inductive Event
  /-- A descriptor was resolved. -/
  | resolved (descriptor : String) (type : FieldType)
  /-- A descriptor was rejected. -/
  | rejected (error : TypeError)
  /-- A row was rejected for this many errors. -/
  | rowRejected (failed : Nat)
  /-- Bindings are about to be generated. -/
  | generating (row : String) (fields : Nat) (language : Language)
  /-- A command failed, in part or as a whole. -/
  | failure (message : String)
  deriving DecidableEq

/-- The value of an attribute: a text that is shown in quotes, or one that is shown as it is. -/
inductive Value
  | quoted (s : String)
  | plain (s : String)
  deriving DecidableEq, Repr

def Value.text : Value → String
  | quoted s => s
  | plain s => s

/-- A value as log lines show it. -/
def Value.shown : Value → String
  | quoted s => quote s
  | plain s => s

namespace Event

def level : Event → Level
  | resolved .. => .trace
  | rejected _ => .debug
  | rowRejected _ => .debug
  | generating .. => .debug
  | failure _ => .error

/-- The part of the program that an event comes from. -/
def topic : Event → String
  | resolved .. => "dt_datamod::field_type"
  | rejected _ => "dt_datamod::field_type"
  | rowRejected _ => "dt_datamod::field"
  | generating .. => "dt_datamod_generator"
  | failure _ => "dt_datamod_generator"

def message : Event → String
  | resolved .. => "resolved field type"
  | rejected _ => "rejected field type"
  | rowRejected _ => "field resolution failed"
  | generating .. => "generating bindings"
  | failure message => message

/-- The details of an event, in the order in which they are shown. -/
def attributes : Event → List (String × Value)
  | resolved descriptor type =>
    [("descriptor", .quoted descriptor), ("kind", .plain type.kind.name),
     ("size", .plain (decimal type.size))]
  | rejected error =>
    [("descriptor", .quoted error.descriptor), ("err", .plain error.message)]
  | rowRejected failed => [("failed", .plain (decimal failed))]
  | generating row fields language =>
    [("row", .quoted row), ("fields", .plain (decimal fields)),
     ("generator", .plain language.name)]
  | failure _ => []

/-- The names by which a filter can ask for an attribute. What an event says is one of them. -/
def attributeNames (e : Event) : List String :=
  "message" :: e.attributes.map Prod.fst

def line (e : Event) : String :=
  " ".intercalate (e.level.name :: (e.topic ++ ":") :: e.message ::
    e.attributes.map fun (name, value) => name ++ "=" ++ value.shown)

/-- The event of resolving one descriptor. -/
def ofResolution (accepts : String → Bool) (descriptor : String) : Event :=
  match resolve accepts descriptor with
  | .ok type => .resolved descriptor type
  | .error e => .rejected e

/-- The events of resolving the fields of a row. -/
def ofFields (accepts : String → Bool) (row : List (String × String)) : List Event :=
  row.map (fun field => ofResolution accepts field.2) ++
    match resolveFields accepts row with
    | .ok _ => []
    | .error errors => [.rowRejected errors.length]

end Event

end RowBindings.Log
