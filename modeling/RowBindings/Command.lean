import RowBindings.Log.Event
import RowBindings.Tables
import RowBindings.Text.FlatObject

/-!
# Commands

The program knows two commands. `resolve` prints what is known of each type descriptor, and
`generate` prints the bindings of a row. A run of a command has an output, the events on the way
and, unless it succeeds, a failure. `resolve` goes on after a descriptor that fails; `generate`
prints everything or nothing.
-/

namespace RowBindings

open Text Log

/-- How resolved types are printed. -/
inductive Format
  | text
  | json
  deriving DecidableEq, Repr

/-- Something to do. -/
inductive Command
  | resolve (descriptors tables : List String) (format : Format)
  | generate (row : String) (fields : List (String × String)) (tables : List String)
      (language : Language)
  deriving DecidableEq, Repr

/-- Why a command fails. -/
inductive Failure
  /-- This many of all descriptors do not resolve. -/
  | resolve (failed total : Nat)
  | rowName (name : String)
  | fields (errors : List FieldError)
  | generate (error : GenerateError)
  deriving DecidableEq, Repr

def Failure.message : Failure → String
  | .resolve failed total =>
    decimal failed ++ " of " ++ decimal total ++ " descriptor(s) failed to resolve"
  | .rowName name => "invalid row name " ++ quote name
  | .fields errors => failureSummary errors
  | .generate error => error.message

/-- What a command has done. -/
structure Run where
  output : String
  events : List Event
  result : Except Failure Unit

namespace FieldType

/-- The line that shows the type of a descriptor to a reader. -/
def textLine (descriptor : String) (t : FieldType) : String :=
  descriptor ++ ": kind=" ++ t.kind.name ++ " size=" ++ decimal t.size
    ++ " host=" ++ t.hostType.text ++ " solidity=" ++ quote t.solidityType
    ++ " encode=" ++ t.encoderName?.getD "-" ++ " decode=" ++ t.decoderName?.getD "-" ++ "\n"

/-- The attributes of a type under their names, in the order in which they are reported. -/
def members (t : FieldType) : List (String × Scalar) :=
  [("name", .text t.name),
   ("kind", .text t.kind.name),
   ("size", .number t.size),
   ("host_type", .text t.hostType.text),
   ("solidity_type", .text t.solidityType),
   ("encode_func", .ofText? t.encoderName?),
   ("decode_func", .ofText? t.decoderName?),
   ("codec_width", .ofNumber? t.codecWidth?)]

/-- The line that shows a type to a program. -/
def jsonLine (t : FieldType) : String :=
  jsonObject t.members ++ "\n"

/-- The line that shows the type of a descriptor. -/
def line (format : Format) (descriptor : String) (t : FieldType) : String :=
  match format with
  | .text => t.textLine descriptor
  | .json => t.jsonLine

end FieldType

namespace Run

/-- What is printed for a descriptor: its type, or nothing if it does not resolve. -/
def resolvedLine (tables : Tables) (format : Format) (descriptor : String) : String :=
  match resolve tables.accepts descriptor with
  | .ok type => type.line format descriptor
  | .error _ => ""

/-- What is told of a descriptor: its resolution, and a failure if it does not resolve. -/
def resolveEvents (tables : Tables) (descriptor : String) : List Event :=
  .ofResolution tables.accepts descriptor ::
    match resolve tables.accepts descriptor with
    | .ok _ => []
    | .error e => [.failure e.message]

/-- Whether a descriptor does not resolve. -/
def fails (tables : Tables) (descriptor : String) : Bool :=
  match resolve tables.accepts descriptor with
  | .ok _ => false
  | .error _ => true

/-- Print what is known of each descriptor. -/
def ofResolve (tables : Tables) (format : Format) (descriptors : List String) : Run where
  output := String.join (descriptors.map (resolvedLine tables format))
  events := descriptors.flatMap (resolveEvents tables)
  result :=
    let failed := descriptors.countP (fails tables)
    if failed = 0 then .ok () else .error (.resolve failed descriptors.length)

/-- Print the bindings of a row. -/
def ofGenerate (tables : Tables) (language : Language) (row : String)
    (fields : List (String × String)) : Run :=
  if !isIdentifier row then ⟨"", [], .error (.rowName row)⟩
  else
    let events := Event.ofFields tables.accepts fields
    match resolveFields tables.accepts fields with
    | .error errors =>
      ⟨"", events ++ errors.map (.failure ·.message), .error (.fields errors)⟩
    | .ok resolved =>
      let events := events ++ [.generating row resolved.length language]
      match generate language row resolved with
      | .error e => ⟨"", events, .error (.generate e)⟩
      | .ok output => ⟨output, events, .ok ()⟩

end Run

def Command.run : Command → Run
  | .resolve descriptors tables format => .ofResolve (.ofList tables) format descriptors
  | .generate row fields tables language => .ofGenerate (.ofList tables) language row fields

end RowBindings
