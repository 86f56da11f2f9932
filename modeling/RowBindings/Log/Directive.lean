import RowBindings.Log.Event
import RowBindings.Log.Pattern
import RowBindings.Text.Split

/-!
# Directives

A directive sets the least urgent level that is shown. In full it reads
`topic[span{attribute=value}]=level`, but parts may be missing: `debug` is about all events,
`store=debug` about those whose topic begins with `store`, `[{size}]=debug` about those with an
attribute `size`. A level is named or numbered, and without one everything is shown. What asks for a
span, or for the value of an attribute, is about the inside of spans alone, and no event happens
there.

Reading looks at the text without the white space at its ends, but the parts are cut from the whole
text at the offsets found there. White space at the end thus belongs to the last part, and white
space at the start moves every part; a part that would begin or end inside a character cannot be
read at all.
-/

namespace RowBindings.Log

open Text

/-- What is shown up to a level; `none` shows nothing. -/
abbrev Limit := Option Level

def limitNames : List (String × Limit) :=
  [("off", none), ("error", some .error), ("warn", some .warn), ("info", some .info),
   ("debug", some .debug), ("trace", some .trace)]

/-- The limit with a number. -/
def limitNumbered? : Int → Option Limit
  | 0 => some none
  | 1 => some (some .error)
  | 2 => some (some .warn)
  | 3 => some (some .info)
  | 4 => some (some .debug)
  | 5 => some (some .trace)
  | _ => none

/-- The limit with this name, in any case, or this number, which has no minus sign. -/
def limit? (text : List Char) : Option Limit :=
  match text.head?, readInt64 text with
  | some '-', _ => none
  | _, .ok n => limitNumbered? n
  | _, .error _ => limitNames.lookup (String.ofList (text.map Char.toLower))

/-- What a directive is about. -/
inductive Scope
  /-- The events whose topic begins with `topic` and which have the attribute `having`, as far as
  the two are given. -/
  | events (topic having : Option String)
  /-- The inside of spans. -/
  | spans
  deriving DecidableEq, Repr

/-- One part of a filter. -/
structure Directive where
  scope : Scope
  limit : Limit
  deriving DecidableEq, Repr

namespace Directive

/-- Why a text is no directive. -/
inductive Fault
  | malformed
  /-- A part begins or ends inside a character. -/
  | insideCharacter
  deriving DecidableEq, Repr

/-- The attribute that a directive asks for. -/
structure Attribute where
  name : String
  /-- Whether it asks for a value too. -/
  valued : Bool
  deriving DecidableEq, Repr

/-- What is known of a directive before its level. -/
structure Head where
  topic : Option String := none
  span : Option String := none
  having : Option Attribute := none
  deriving DecidableEq, Repr

def Head.scope (h : Head) : Scope :=
  if h.span.isSome || h.having.any Attribute.valued then .spans
  else .events h.topic (h.having.map Attribute.name)

/-- Where reading stands; `start` is the offset at which the current part begins. -/
inductive Place
  | beginning
  /-- In a word that is a level or a topic. -/
  | word
  | span (start : Nat)
  | braces (start : Nat)
  /-- Behind a closing brace. -/
  | bracesEnd
  /-- Behind a closing bracket. -/
  | headEnd
  | level (start : Nat)
  deriving DecidableEq, Repr

/-- Whether a topic or a level may begin with `c`. -/
def beginsWord (c : Char) : Bool :=
  isAlphanumeric c || c == '-' || c == ':' || c == '_'

/-- The part of a text between two offsets. -/
def cut (text : List Char) (start stop : Nat) : Except Fault String :=
  match cutBytes? start stop text with
  | some part => .ok (String.ofList part)
  | none => .error .insideCharacter

/-- The attribute that a text names. A value is a number or a pattern. -/
def Attribute.read (text : String) : Except Fault Attribute :=
  if text = "" then .error .malformed
  else
    match splitFirst '=' text.toList with
    | (name, none) => .ok ⟨String.ofList name, false⟩
    | (name, some after) =>
      let value := (splitFirst '=' after).1
      if spellsNumber value || Pattern.isPattern value then .ok ⟨String.ofList name, true⟩
      else .error .malformed

/-- Read the character `c` at an offset of `text`. -/
def step (text : List Char) (offset : Nat) (c : Char) : Place × Head → Except Fault (Place × Head)
  | (.beginning, h) =>
    if c = '[' then .ok (.span (offset + 1), h)
    else if beginsWord c then .ok (.word, h)
    else .error .malformed
  | (.word, h) =>
    if c = '=' || c = '[' then do
      let topic ← cut text 0 offset
      return (if c = '=' then .level (offset + 1) else .span (offset + 1),
        { h with topic := some topic })
    else .ok (.word, h)
  | (.span start, h) =>
    if c = ']' then do
      return (.headEnd, { h with span := some (← cut text start offset) })
    else if c = '{' then do
      let name ← cut text start offset
      return (.braces (offset + 1), { h with span := if name = "" then none else some name })
    else .ok (.span start, h)
  | (.braces start, h) =>
    if c = '}' then do
      return (.bracesEnd, { h with having := some (← Attribute.read (← cut text start offset)) })
    else .ok (.braces start, h)
  | (.bracesEnd, h) => if c = ']' then .ok (.headEnd, h) else .error .malformed
  | (.headEnd, h) => if c = '=' then .ok (.level (offset + 1), h) else .error .malformed
  | (.level start, h) => .ok (.level start, h)

/-- Read the characters that stand from an offset on. -/
def scan (text : List Char) (offset : Nat) :
    List Char → Place × Head → Except Fault (Place × Head)
  | [], s => .ok s
  | c :: rest, s => do scan text (offset + c.utf8Size) rest (← step text offset c s)

/-- The directive that a head and the place where the text ends make. A word is a topic if it is
no level. -/
def finish (text : List Char) : Place × Head → Except Fault Directive
  | (.word, _) =>
    match limit? text with
    | some limit => .ok ⟨.events none none, limit⟩
    | none => .ok ⟨.events (some (String.ofList text)) none, some .trace⟩
  | (.headEnd, h) => .ok ⟨h.scope, some .trace⟩
  | (.level start, h) =>
    match dropBytes? start text with
    | none => .error .insideCharacter
    | some [] => .ok ⟨h.scope, some .trace⟩
    | some level =>
      match limit? level with
      | some limit => .ok ⟨h.scope, limit⟩
      | none => .error .malformed
  | _ => .error .malformed

def read (text : List Char) : Except Fault Directive := do
  finish text (← scan text 0 (trim text) (.beginning, {}))

/-- How closely a directive fits an event. Closer is a longer topic, then an attribute, then the
one of two attributes that comes later in the alphabet. -/
structure Fit where
  topicLength : Option Nat
  having : Option String
  deriving DecidableEq, Ord, Repr

/-- How closely a directive fits an event, if it is about it. -/
def fit? (e : Event) (d : Directive) : Option Fit :=
  match d.scope with
  | .spans => none
  | .events topic having =>
    if topic.all (fun t => t.toList.isPrefixOf e.topic.toList) &&
        having.all (e.attributeNames.contains ·)
    then some ⟨topic.map String.length, having⟩ else none

end Directive

end RowBindings.Log
