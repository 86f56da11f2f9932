import RowBindings.Command.Arguments
import RowBindings.Log.Filter
import RowBindings.Product

/-!
# The program

A whole run as a value: what the arguments and the log setting make the program print, log and
answer. A command's own failure is logged last and ends the run with exit code 1; arguments that
are no command end it before anything is done. The log setting is looked at first of all, by a
reader that is given: one that it refuses counts as none, and one on which it breaks off breaks off
the run.
-/

namespace RowBindings

open Log

/-- What a run of a command leaves behind. -/
structure Transcript where
  exit : Nat
  stdout : String
  log : List String
  deriving DecidableEq, Repr

/-- What a run that stops without a command prints, where the program has a text of its own. -/
def Stop.stdout? : Stop → Option String
  | .version => some (productName ++ " " ++ productVersion ++ "\n")
  | .help | .fault _ => none

namespace Program

/-- How a run ends. -/
inductive Outcome
  /-- A command was followed. -/
  | finished (transcript : Transcript)
  /-- The arguments are no command. -/
  | stopped (stop : Stop)
  /-- The run was broken off before it began. Nothing is said of what it leaves behind. -/
  | brokenOff
  deriving DecidableEq

/-- All events of a run, the failure of the command itself included. -/
def eventsOf (r : Run) : List Event :=
  match r.result with
  | .ok () => r.events
  | .error failure => r.events ++ [.failure failure.message]

def exitOf (r : Run) : Nat :=
  match r.result with
  | .ok () => 0
  | .error _ => 1

/-- Do what a command says, showing the events that the filter lets through. -/
def execute (filter : Filter) (c : Command) : Transcript :=
  let r := c.run
  ⟨exitOf r, r.output, ((eventsOf r).filter filter.shows).map Event.line⟩

/-- Do what the arguments say, if they are a command. -/
def answer (filter : Filter) (arguments : List String) : Outcome :=
  match Arguments.read arguments with
  | .ok command => .finished (execute filter command)
  | .error stop => .stopped stop

/-- A run with a log setting, a reader for it, and arguments. -/
def run (reader : String → Filter.Reading) (setting : Option String) (arguments : List String) :
    Outcome :=
  match setting.map reader with
  | none | some .refused => answer Filter.standard arguments
  | some (.filter filter) => answer filter arguments
  | some .brokenOff => .brokenOff

end Program

end RowBindings
