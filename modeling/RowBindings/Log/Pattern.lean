import RowBindings.Text.Alphanumeric
import RowBindings.Text.Blank

/-!
# Well-formed patterns

The value of an attribute can be asked for by a pattern, a regular expression. `isPattern` tells
whether a text is one. It goes through the text once and keeps the groups and bracketed classes that
are open. Modes can be switched in the middle, for the rest of the group: in any case, by bytes
instead of Unicode characters, and with spaces and comments between the items.

A pattern stands between braces, so it holds no closing brace, and what would need one (a counted
repetition, a code point in braces) is never well formed. Neither are references back, looking
around, and what takes tables of Unicode: its classes, the boundaries of its words, and letters in
any case. A pattern of bytes must not match half a character.
-/

namespace RowBindings.Log.Pattern

open Text

/-! ## Modes -/

/-- How the rest of a group is read. -/
structure Modes where
  /-- Letters match in either case. -/
  anyCase : Bool
  /-- Characters are those of Unicode, not bytes. -/
  unicode : Bool
  /-- Spaces and comments between the items do not count. -/
  spaced : Bool
  deriving DecidableEq, Repr

def Modes.initial : Modes := ⟨false, true, false⟩

/-- The modes after the letter of a mode, which is switched on or off. The modes for lines, dots
and greed make no difference here. -/
def Modes.switch (m : Modes) (letter : Char) (on : Bool) : Modes :=
  match letter with
  | 'i' => { m with anyCase := on }
  | 'u' => { m with unicode := on }
  | 'x' => { m with spaced := on }
  | _ => m

/-- The letters of the modes. -/
def modeLetters : List Char := ['i', 'm', 's', 'U', 'u', 'R', 'x']

/-- How many characters at the start of a text are spaces and comments. A comment goes to the end
of its line. -/
def gapLength (inComment : Bool) : List Char → Nat
  | [] => 0
  | c :: rest =>
    if inComment then gapLength (c != '\n') rest + 1
    else if isBlank c then gapLength false rest + 1
    else if c = '#' then gapLength true rest + 1
    else 0

/-- How many characters at the start of a text do not count. -/
def Modes.gap (m : Modes) (text : List Char) : Nat :=
  if m.spaced then gapLength false text else 0

/-- The character that follows a dash in a class. Of a comment, only the mark at its start is passed
over. -/
def Modes.afterDash? (m : Modes) (text : List Char) : Option Char :=
  if m.spaced then
    match text.dropWhile isBlank with
    | '#' :: rest => (rest.dropWhile isBlank).head?
    | rest => rest.head?
  else text.head?

/-! ## Atoms -/

/-- What one character or escape stands for. -/
inductive Atom
  /-- The character itself; `asByte` if it is written as a byte in hexadecimal. -/
  | char (c : Char) (asByte : Bool)
  /-- One of the classes of digits, spaces and word characters, or the opposite of one. -/
  | members (negated : Bool)
  /-- A place in the text; `ofWord` if it is a boundary of a word. -/
  | place (ofWord : Bool)
  deriving DecidableEq, Repr

/-- Whether an atom may stand in a pattern, outside or inside a bracketed class. -/
def Atom.isAllowed (m : Modes) (inClass : Bool) : Atom → Bool
  | char c asByte =>
    if m.unicode then !m.anyCase
    else if inClass then c.toNat < 128
    else !(asByte && 128 ≤ c.toNat)
  | members negated => !m.unicode && !negated
  | place ofWord => !inClass && !(ofWord && m.unicode)

def hexDigitValue? (c : Char) : Option Nat :=
  if c.isDigit then some (c.toNat - '0'.toNat)
  else if 'a' ≤ c ∧ c ≤ 'f' then some (c.toNat - 'a'.toNat + 10)
  else if 'A' ≤ c ∧ c ≤ 'F' then some (c.toNat - 'A'.toNat + 10)
  else none

/-- Read `digits` more hexadecimal digits after those of `value`: the number, and how many
characters it takes. -/
def readHex? (m : Modes) : (digits value : Nat) → List Char → Option (Nat × Nat)
  | 0, value, _ => some (value, 0)
  | digits + 1, value, text => do
    let c ← (text.drop (m.gap text)).head?
    let digit ← hexDigitValue? c
    let taken := m.gap text + 1
    let (value, more) ← readHex? m digits (16 * value + digit) (text.drop taken)
    return (value, taken + more)

/-- Read a code point of so many hexadecimal digits, which stand behind a letter. -/
def readCodePoint? (m : Modes) (digits : Nat) (asByte : Bool) (text : List Char) :
    Option (Atom × Nat) := do
  let (value, taken) ← readHex? m digits 0 text
  if value.isValidChar then some (.char (Char.ofNat value) asByte, taken + 1) else none

/-- The controls that have a letter. -/
def controlLetters : List (Char × Char) :=
  [('a', '\x07'), ('f', '\x0c'), ('t', '\t'), ('n', '\n'), ('r', '\r'), ('v', '\x0b')]

/-- Read what follows a backslash: the atom, and how many characters it takes. Every mark of ASCII
stands for itself, the angle brackets apart. -/
def readEscape? (m : Modes) : List Char → Option (Atom × Nat)
  | [] => none
  | 'x' :: rest => readCodePoint? m 2 true rest
  | 'u' :: rest => readCodePoint? m 4 false rest
  | 'U' :: rest => readCodePoint? m 8 false rest
  | c :: _ =>
    if ['d', 's', 'w'].contains c then some (.members false, 1)
    else if ['D', 'S', 'W'].contains c then some (.members true, 1)
    else if ['A', 'z'].contains c then some (.place false, 1)
    else if ['b', 'B', '<', '>'].contains c then some (.place true, 1)
    else match controlLetters.lookup c with
      | some control => some (.char control false, 1)
      | none => if c.toNat < 128 && !c.isAlphanum then some (.char c false, 1) else none

/-! ## Nesting -/

/-- How deeply a part is nested whose members are nested this deeply. A single member makes no
level of its own. -/
def levels : List Nat → Nat
  | [] => 0
  | [depth] => depth
  | depths => 1 + depths.foldl max 0

/-- How deeply a pattern may be nested. -/
def nestingLimit : Nat := 250

/-! ## Bracketed classes -/

/-- A bracketed class as far as it is read. -/
structure ClassPart where
  /-- How deeply what stands left of the last set operator is nested. -/
  left : Option Nat := none
  /-- How deeply the members after it are nested, the last one first. -/
  members : List Nat := []
  /-- Nothing but dashes is read yet, which are members here. -/
  fresh : Bool := true
  deriving DecidableEq, Repr

/-- How deeply the inside of a class is nested. -/
def ClassPart.depth (p : ClassPart) : Nat :=
  match p.left with
  | none => levels p.members
  | some left => 1 + max left (levels p.members)

def ClassPart.add (p : ClassPart) (depth : Nat) : ClassPart :=
  { p with members := depth :: p.members, fresh := false }

/-- The class after a set operator. -/
def ClassPart.combine (p : ClassPart) : ClassPart := ⟨some p.depth, [], false⟩

/-- The classes of ASCII that have a name. -/
def namedClasses : List String :=
  ["alnum", "alpha", "ascii", "blank", "cntrl", "digit", "graph", "lower", "print", "punct",
   "space", "upper", "word", "xdigit"]

/-- Read a named class behind its bracket: whether it is negated, and how many characters it
takes. -/
def readNamedClass? : List Char → Option (Bool × Nat)
  | ':' :: rest =>
    let negated := rest.head? == some '^'
    let body := if negated then rest.tail else rest
    let name := body.takeWhile (· != ':')
    if namedClasses.contains (String.ofList name) && [':', ']'].isPrefixOf (body.drop name.length)
    then some (negated, (if negated then 2 else 1) + name.length + 2)
    else none
  | _ => none

/-- Read an atom of a class and the gap behind it. -/
def readClassAtom? (m : Modes) (text : List Char) : Option (Atom × Nat) := do
  let (atom, taken) ← match text with
    | [] => none
    | '\\' :: rest => (readEscape? m rest).map fun (atom, taken) => (atom, taken + 1)
    | c :: _ => some (.char c false, 1)
  if atom.isAllowed m true then some (atom, taken + m.gap (text.drop taken)) else none

/-- Read a member of a class, a single atom or a range: how many characters it takes. The ends of a
range are characters in order. -/
def readMember? (m : Modes) (text : List Char) : Option Nat := do
  let (first, taken) ← readClassAtom? m text
  match text.drop taken with
  | '-' :: rest =>
    if m.afterDash? rest == some ']' || m.afterDash? rest == some '-' then some taken
    else
      let (last, more) ← readClassAtom? m (rest.drop (m.gap rest))
      match first, last with
      | .char low _, .char high _ =>
        if low ≤ high then some (taken + 1 + m.gap rest + more) else none
      | _, _ => none
  | _ => some taken

/-! ## Groups -/

/-- The inside of a group as far as it is read. -/
structure GroupPart where
  /-- How deeply the finished branches are nested. -/
  branches : List Nat := []
  /-- How deeply the items of the current branch are nested, the last one first. -/
  items : List Nat := []
  /-- The last item can be repeated. -/
  repeatable : Bool := false
  deriving DecidableEq, Repr

/-- How deeply the inside of a group is nested. -/
def GroupPart.depth (p : GroupPart) : Nat := levels (levels p.items :: p.branches)

def GroupPart.add (p : GroupPart) (depth : Nat) : GroupPart :=
  { p with items := depth :: p.items, repeatable := true }

/-- The group with a switch of modes, which cannot be repeated. -/
def GroupPart.addSwitch (p : GroupPart) : GroupPart :=
  { p with items := 0 :: p.items, repeatable := false }

/-- The group in which the last item is repeated. -/
def GroupPart.repeat? (p : GroupPart) : Option GroupPart :=
  match p.items, p.repeatable with
  | depth :: items, true => some { p with items := (depth + 1) :: items }
  | _, _ => none

/-- The group at the start of its next branch. -/
def GroupPart.branch (p : GroupPart) : GroupPart := ⟨levels p.items :: p.branches, [], false⟩

/-- What an opening parenthesis turns out to begin. -/
inductive Opening
  /-- A group that is read in these modes. -/
  | group (modes : Modes)
  /-- A group with a name. -/
  | named (name : List Char)
  /-- These modes for the rest of the group around. -/
  | switch (modes : Modes)
  deriving DecidableEq, Repr

/-- Read the letters of modes, up to a colon or a closing parenthesis: what they open, and how many
characters they take. `seen` holds the letters and the minus sign that were read, the last one
first; none may come twice, and the minus sign not at the end. -/
def readModes? (m : Modes) (seen : List Char) : List Char → Option (Opening × Nat)
  | [] => none
  | c :: rest =>
    if c = ':' then if seen.head? == some '-' then none else some (.group m, 1)
    else if c = ')' then
      if seen = [] || seen.head? == some '-' then none else some (.switch m, 1)
    else if seen.contains c then none
    else if c = '-' then (readModes? m (c :: seen) rest).map fun (o, taken) => (o, taken + 1)
    else if modeLetters.contains c then
      (readModes? (m.switch c (!seen.contains '-')) (c :: seen) rest).map
        fun (o, taken) => (o, taken + 1)
    else none

def isGroupName : List Char → Bool
  | [] => false
  | c :: rest =>
    (c == '_' || isAlphabetic c) &&
      rest.all fun c => isAlphanumeric c || ['_', '.', '[', ']'].contains c

/-- Read the name of a group up to the angle bracket behind it. -/
def readName? (text : List Char) : Option (Opening × Nat) :=
  let name := text.takeWhile (· != '>')
  if isGroupName name && (text.drop name.length).head? == some '>'
  then some (.named name, name.length + 1) else none

/-- Read what follows an opening parenthesis: what it begins, and how many characters that takes. -/
def readOpening? (m : Modes) (text : List Char) : Option (Opening × Nat) :=
  let gap := m.gap text
  let after (taken : Nat) : Opening × Nat → Opening × Nat := fun (o, n) => (o, gap + taken + n)
  match text.drop gap with
  | '?' :: 'P' :: '<' :: rest => (readName? rest).map (after 3)
  | '?' :: '<' :: rest => (readName? rest).map (after 2)
  | '?' :: rest => (readModes? m [] rest).map (after 1)
  | _ => some (.group m, gap)

/-! ## The whole pattern -/

/-- A pattern as far as it is read. -/
structure State where
  modes : Modes := .initial
  /-- The group that is open innermost, or the whole pattern. -/
  group : GroupPart := {}
  /-- The groups around it and the modes in which they go on. -/
  groups : List (Modes × GroupPart) := []
  /-- The names of groups so far. -/
  names : List (List Char) := []
  /-- The bracketed classes that are open, the innermost first. -/
  classes : List ClassPart := []
  deriving DecidableEq, Repr

namespace State

/-- Whether the pattern can end here. -/
def isComplete (s : State) : Bool :=
  s.groups.isEmpty && s.classes.isEmpty && s.group.depth ≤ nestingLimit

/-- Go on with one more item. -/
def add (s : State) (depth : Nat) : State := { s with group := s.group.add depth }

/-- Go on inside a group. -/
def enter (s : State) (modes : Modes) : State :=
  { s with modes := modes, group := {}, groups := (s.modes, s.group) :: s.groups }

/-- Go on behind the closing parenthesis of a group. -/
def leave? (s : State) : Option State :=
  match s.groups with
  | [] => none
  | (modes, group) :: groups =>
    some { s with modes := modes, group := group.add (s.group.depth + 1), groups := groups }

/-- Go on behind what an opening parenthesis begins. -/
def open? (s : State) : Opening → Option State
  | .group modes => some (s.enter modes)
  | .named name =>
    if s.names.contains name then none else some { s.enter s.modes with names := name :: s.names }
  | .switch modes => some { s with modes := modes, group := s.group.addSwitch }

/-- Go on inside a bracketed class, of which the bracket is read and what follows is `rest`. A
negated class of bytes would match half a character. -/
def openClass? (s : State) (rest : List Char) : Option (State × Nat) :=
  let gap := s.modes.gap rest
  let inside := { s with classes := {} :: s.classes }
  if (rest.drop gap).head? == some '^' then
    if s.modes.unicode then some (inside, gap + 1) else none
  else some (inside, 0)

/-- Go on behind the closing bracket of a class. -/
def closeClass (s : State) (part : ClassPart) (around : List ClassPart) : State :=
  match around with
  | [] => { s.add (part.depth + 1) with classes := [] }
  | next :: more => { s with classes := next.add (part.depth + 1) :: more }

/-- Read one character outside of brackets: where that leads, and how many characters more are
taken. -/
def readItem? (s : State) (c : Char) (rest : List Char) : Option (State × Nat) :=
  match c with
  | '(' => do
    let (opening, taken) ← readOpening? s.modes rest
    return (← s.open? opening, taken)
  | ')' => s.leave?.map (·, 0)
  | '|' => some ({ s with group := s.group.branch }, 0)
  | '[' => s.openClass? rest
  | '{' => none
  | '\\' => do
    let (atom, taken) ← readEscape? s.modes rest
    if atom.isAllowed s.modes false then some (s.add 0, taken) else none
  | '.' => if s.modes.unicode then some (s.add 0, 0) else none
  | _ =>
    if ['^', '$'].contains c then some (s.add 0, 0)
    else if ['?', '*', '+'].contains c then
      s.group.repeat?.map fun group =>
        ({ s with group := group }, if rest.head? == some '?' then 1 else 0)
    else if (Atom.char c false).isAllowed s.modes false then some (s.add 0, 0)
    else none

/-- Read one character inside of the class `part`: where that leads, and how many characters more
are taken. -/
def readInClass? (s : State) (part : ClassPart) (around : List ClassPart) (c : Char)
    (rest : List Char) : Option (State × Nat) :=
  let inside (part : ClassPart) : State := { s with classes := part :: around }
  let plain := (Atom.char c false).isAllowed s.modes true
  let doubled := rest.head? == some c
  if c = '-' && part.fresh then
    if plain then some (inside { part.add 0 with fresh := true }, 0) else none
  else if c = ']' && part.fresh && part.members = [] then
    if plain then some (inside (part.add 0), 0) else none
  else if c = ']' then some (s.closeClass part around, 0)
  else if c = '[' then
    match readNamedClass? rest with
    | some (negated, taken) =>
      if s.modes.unicode then
        if s.modes.anyCase then none else some (inside (part.add 0), taken)
      else if negated then none else some (inside (part.add 0), taken)
    | none => (inside { part with fresh := false }).openClass? rest
  else if ['&', '-', '~'].contains c && doubled then some (inside part.combine, 1)
  else (readMember? s.modes (c :: rest)).map fun taken => (inside (part.add 0), taken - 1)

/-- Read one character: where that leads, and how many characters more are taken. -/
def read? (s : State) (c : Char) (rest : List Char) : Option (State × Nat) :=
  match s.classes with
  | [] => s.readItem? c rest
  | part :: around => s.readInClass? part around c rest

end State

/-- Whether the rest of a pattern is well formed. -/
def continues (s : State) (text : List Char) : Bool :=
  match _h : text.drop (s.modes.gap text) with
  | [] => s.isComplete
  | c :: rest =>
    match s.read? c rest with
    | none => false
    | some (next, taken) => continues next (rest.drop taken)
  termination_by text.length
  decreasing_by
    have := congrArg List.length _h
    simp only [List.length_drop, List.length_cons] at this ⊢
    omega

def isPattern (text : List Char) : Bool := continues {} text

end RowBindings.Log.Pattern
