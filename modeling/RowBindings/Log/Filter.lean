import RowBindings.Log.Directive

/-!
# Which events are shown

A filter is a list of directives, which a setting separates by commas. Of the directives about an
event the one that fits it most closely decides, and of equal ones the last; an event that none is
about is not shown. The standard filter shows warnings and errors.
-/

namespace RowBindings.Log

open Text

abbrev Filter := List Directive

namespace Filter

/-- Shows all events up to a limit. -/
def upTo (limit : Limit) : Filter := [⟨.events none none, limit⟩]

/-- Shows warnings and errors. -/
def standard : Filter := upTo (some .warn)

/-- The filter that a setting spells. The first fault counts. -/
def read (setting : String) : Except Directive.Fault Filter :=
  ((splitAll ',' setting.toList).filter (· ≠ [])).mapM Directive.read

/-- What comes of reading a setting. -/
inductive Reading
  | filter (filter : Filter)
  /-- The setting is not well formed. -/
  | refused
  /-- The reading is broken off and gives no answer. -/
  | brokenOff
  deriving DecidableEq

/-- What comes of reading a setting directive by directive. It breaks off where a part would begin
or end inside a character. -/
def reading (setting : String) : Reading :=
  match read setting with
  | .ok filter => .filter filter
  | .error .malformed => .refused
  | .error .insideCharacter => .brokenOff

/-- The closer of two directives about an event, the later one if they are equal. -/
def closer (e : Event) (best : Option (Directive.Fit × Limit)) (d : Directive) :
    Option (Directive.Fit × Limit) :=
  match d.fit? e, best with
  | none, _ => best
  | some fit, none => some (fit, d.limit)
  | some fit, some (bestFit, _) => if (compare bestFit fit).isLE then some (fit, d.limit) else best

/-- The limit that the filter sets for an event. -/
def limitFor (filter : Filter) (e : Event) : Limit :=
  (filter.foldl (closer e) none).bind (·.2)

/-- Whether the filter shows an event. -/
def shows (filter : Filter) (e : Event) : Bool :=
  (filter.limitFor e).any (e.level.rank ≤ ·.rank)

end Filter

end RowBindings.Log
