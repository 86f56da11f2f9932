import RowBindings.Command
import RowBindings.Text.Split

/-!
# Command-line arguments

`Arguments.read` makes a command of the arguments that follow the program's name, or says why it
stops. The first argument names the command. Options then stand in any order, each written as
`--option=value` or as two arguments; after `--` everything is a descriptor. An option written as
two arguments is checked only with the next argument, once that is known to be one that the command
takes: an unknown argument is reported before a fault in the option just before it.
-/

namespace RowBindings

open Text

/-- Why the arguments are refused. -/
inductive UsageFault
  /-- There is no argument. -/
  | missingCommand
  | unknownCommand (name : String)
  | unknownArgument (argument : String)
  /-- An argument that the command needs is not there. -/
  | missingArgument
  /-- An option has no value or one that is not among those it takes. -/
  | invalidValue
  /-- An option that is given once at most is given again. -/
  | repeatedOption
  /-- An option that takes no value has one. -/
  | unwantedValue
  /-- A field is not written as a name and a descriptor. -/
  | invalidField (argument : String)
  deriving DecidableEq, Repr

/-- The wording of a fault, where the program has one of its own. -/
def UsageFault.message? : UsageFault → Option String
  | .invalidField argument => some ("expected NAME=DESCRIPTOR, got " ++ quote argument)
  | .missingCommand | .unknownCommand _ | .unknownArgument _ | .missingArgument | .invalidValue
  | .repeatedOption | .unwantedValue => none

/-- Why there is no command. -/
inductive Stop
  | help
  | version
  | fault (fault : UsageFault)
  deriving DecidableEq, Repr

/-- The exit code of a run that stops without a command. -/
def Stop.exit : Stop → Nat
  | .help | .version => 0
  | .fault _ => 2

namespace Arguments

/-- The form of an argument. -/
inductive Form
  /-- The argument `--`. -/
  | separator
  /-- An argument like `--table` or `--table=Order`. -/
  | long (name : String) (value? : Option String)
  /-- An argument like `-h`, known by its first letter. -/
  | short (letter : Char)
  | plain

/-- The form of an argument. A single `-` is plain. -/
def Form.of (argument : String) : Form :=
  match argument.toList with
  | ['-', '-'] => .separator
  | '-' :: '-' :: rest =>
    let (name, value?) := splitFirst '=' rest
    .long (String.ofList name) (value?.map String.ofList)
  | '-' :: letter :: _ => .short letter
  | _ => .plain

/-- An option with a value. -/
inductive Key
  | row
  | field
  | table
  | format
  | language
  deriving DecidableEq, Repr

/-- What the first argument asks for. -/
inductive Verb
  | resolve
  | generate
  deriving DecidableEq, Repr

def Verb.keys : Verb → List (String × Key)
  | .resolve => [("table", .table), ("format", .format)]
  | .generate => [("name", .row), ("field", .field), ("table", .table), ("generator", .language)]

def verbs : List (String × Verb) :=
  [("resolve", .resolve), ("generate", .generate)]

def formats : List (String × Format) :=
  [("text", .text), ("json", .json)]

def languages : List (String × Language) :=
  [("rust", .rust), ("solidity", .solidity)]

/-- A field from the argument that declares it: its name, `=` and its descriptor. -/
def readField (argument : String) : Except Stop (String × String) :=
  match splitFirst '=' argument.toList with
  | (name, some descriptor) => .ok (String.ofList name, String.ofList descriptor)
  | (_, none) => .error (.fault (.invalidField argument))

/-- What is known of a command while its arguments are read. -/
structure Draft where
  descriptors : List String
  row? : Option String
  fields : List (String × String)
  tables : List String
  format? : Option Format
  language? : Option Language

def Draft.empty : Draft := ⟨[], none, [], [], none, none⟩

/-- The value of an option that takes one of several, given once. -/
def choose {α : Type} (old : Option α) (choices : List (String × α)) (value : String) :
    Except Stop (Option α) :=
  if old.isSome then .error (.fault .repeatedOption)
  else
    match choices.lookup value with
    | some choice => .ok (some choice)
    | none => .error (.fault .invalidValue)

def Draft.add (d : Draft) (key : Key) (value : String) : Except Stop Draft :=
  match key with
  | .row =>
    if d.row?.isSome then .error (.fault .repeatedOption) else .ok { d with row? := some value }
  | .field => (readField value).map fun field => { d with fields := d.fields ++ [field] }
  | .table => .ok { d with tables := d.tables ++ [value] }
  | .format => (choose d.format? formats value).map fun format? => { d with format? }
  | .language => (choose d.language? languages value).map fun language? => { d with language? }

/-- An option that is not yet in the draft. -/
inductive Waiting
  | nothing
  /-- An option whose value comes next. -/
  | forValue (key : Key)
  /-- An option and its value. -/
  | toAdd (key : Key) (value : String)

/-- The draft with the waiting option. -/
def Draft.settle (d : Draft) : Waiting → Except Stop Draft
  | .nothing => .ok d
  | .forValue _ => .error (.fault .invalidValue)
  | .toAdd key value => d.add key value

/-- The draft with further descriptors, for a command that takes them. -/
def Draft.addDescriptors (verb : Verb) (d : Draft) (waiting : Waiting) (argument : String)
    (more : List String) : Except Stop Draft :=
  match verb with
  | .resolve =>
    (d.settle waiting).map fun d => { d with descriptors := d.descriptors ++ argument :: more }
  | .generate => .error (.fault (.unknownArgument argument))

/-- Settle what is waiting and then stop. -/
def Draft.stop (d : Draft) (waiting : Waiting) (stop : Stop) : Except Stop Draft :=
  d.settle waiting >>= fun _ => .error stop

/-- Read the arguments after the command's name. -/
def scan (verb : Verb) (d : Draft) (waiting : Waiting) : List String → Except Stop Draft
  | [] => d.settle waiting
  | argument :: rest =>
    match Form.of argument with
    | .separator =>
      match rest with
      | [] => d.settle waiting
      | first :: more => d.addDescriptors verb waiting first more
    | .long name value? =>
      if name = "help" then
        if value?.isSome then .error (.fault .unwantedValue) else d.stop waiting .help
      else
        match verb.keys.lookup name, value? with
        | none, _ => .error (.fault (.unknownArgument argument))
        | some key, none => d.settle waiting >>= fun d => scan verb d (.forValue key) rest
        | some key, some value =>
          d.settle waiting >>= fun d => d.add key value >>= fun d => scan verb d .nothing rest
    | .short letter =>
      if letter = 'h' then d.stop waiting .help
      else .error (.fault (.unknownArgument argument))
    | .plain =>
      match waiting with
      | .forValue key => scan verb d (.toAdd key argument) rest
      | _ => d.addDescriptors verb waiting argument [] >>= fun d => scan verb d .nothing rest

/-- The command that a draft amounts to. -/
def Draft.toCommand (d : Draft) : Verb → Except Stop Command
  | .resolve =>
    if d.descriptors = [] then .error (.fault .missingArgument)
    else .ok (.resolve d.descriptors d.tables (d.format?.getD .text))
  | .generate =>
    match d.row? with
    | none => .error (.fault .missingArgument)
    | some row =>
      if d.fields = [] then .error (.fault .missingArgument)
      else .ok (.generate row d.fields d.tables (d.language?.getD .rust))

/-- Stop for the arguments after `help`, which may name one command. -/
def stopForHelp : List String → Stop
  | [] => .help
  | name :: rest =>
    if (verbs.lookup name).isNone && name != "help" then .fault (.unknownCommand name)
    else
      match rest with
      | [] => .help
      | extra :: _ => .fault (.unknownCommand extra)

/-- Stop at an argument that comes where a command should be named, after `--` if `separated`. -/
def stopAtName (separated : Bool) (name : String) : Stop :=
  if separated && ((verbs.lookup name).isSome || name == "help") then
    .fault (.unknownArgument name)
  else .fault (.unknownCommand name)

/-- Stop at an option that comes where a command should be named. -/
def stopAtFlag (argument : String) (isHelp isVersion hasValue : Bool) : Stop :=
  if isHelp || isVersion then
    if hasValue then .fault .unwantedValue else if isHelp then .help else .version
  else .fault (.unknownArgument argument)

/-- The command that the arguments spell. -/
def read : List String → Except Stop Command
  | [] => .error (.fault .missingCommand)
  | argument :: rest =>
    match Form.of argument with
    | .separator =>
      match rest with
      | [] => .error (.fault .missingCommand)
      | name :: _ => .error (stopAtName true name)
    | .long name value? =>
      .error (stopAtFlag argument (name == "help") (name == "version") value?.isSome)
    | .short letter => .error (stopAtFlag argument (letter == 'h') (letter == 'V') false)
    | .plain =>
      match verbs.lookup argument with
      | some verb => scan verb .empty .nothing rest >>= fun d => d.toCommand verb
      | none =>
        if argument = "help" then .error (stopForHelp rest)
        else .error (stopAtName false argument)

end Arguments

end RowBindings
