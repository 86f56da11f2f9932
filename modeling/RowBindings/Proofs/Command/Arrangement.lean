import RowBindings.Command.Arguments

/-!
# Arguments in any arrangement

A command can be spelt in many ways: its options stand in any order, also between descriptors, and
each is written as one argument or as two. `Spells` says which arguments spell a command, and
`read_of_spells` that all of them are read as that command. An option in two arguments is put down
only when the next argument is looked at; `scan_settle` says that nothing comes of this delay.
-/

namespace RowBindings

open Text

namespace Arguments

/-! ## What arguments say -/

/-- One thing that is said of a command. -/
inductive Item
  | row (name : String)
  | field (name type : String)
  | table (name : String)
  | format (format : Format)
  | language (language : Language)
  | descriptor (text : String)
  deriving DecidableEq, Repr

/-- Everything that is said of a command: the things of each kind, in the order in which they are
said. -/
structure Saying where
  descriptors : List String
  rows : List String
  fields : List (String × String)
  tables : List String
  formats : List Format
  languages : List Language
  deriving DecidableEq, Repr

/-- One more thing is said before all others. -/
def Saying.cons (item : Item) (s : Saying) : Saying :=
  match item with
  | .row name => { s with rows := name :: s.rows }
  | .field name type => { s with fields := (name, type) :: s.fields }
  | .table name => { s with tables := name :: s.tables }
  | .format f => { s with formats := f :: s.formats }
  | .language l => { s with languages := l :: s.languages }
  | .descriptor text => { s with descriptors := text :: s.descriptors }

/-- What is said by things one after the other. However the kinds are interleaved, all that counts
is the order within each of them. -/
def said (items : List Item) : Saying :=
  items.foldr Saying.cons ⟨[], [], [], [], [], []⟩

/-- What is said first comes first under its option. -/
theorem said_cons (item : Item) (items : List Item) :
    said (item :: items) = (said items).cons item := rfl

/-! ## How it is written -/

def Key.name : Key → String
  | .row => "name"
  | .field => "field"
  | .table => "table"
  | .format => "format"
  | .language => "generator"

def formatWord : Format → String
  | .text => "text"
  | .json => "json"

def languageWord : Language → String
  | .rust => "rust"
  | .solidity => "solidity"

/-- The option and the value by which something is said. A descriptor is said without one. -/
def Item.option? : Item → Option (Key × String)
  | .row name => some (.row, name)
  | .field name type => some (.field, name ++ "=" ++ type)
  | .table name => some (.table, name)
  | .format f => some (.format, formatWord f)
  | .language l => some (.language, languageWord l)
  | .descriptor _ => none

/-- Whether an argument begins with a dash and would be taken for an option. -/
def beginsWithDash (argument : String) : Bool :=
  argument.toList.head? == some '-'

/-- The arguments by which one thing may be said. -/
inductive Writes : Item → List String → Prop
  | attached {item : Item} {key : Key} {value : String} : item.option? = some (key, value) →
    Writes item ["--" ++ key.name ++ "=" ++ value]
  | apart {item : Item} {key : Key} {value : String} : item.option? = some (key, value) →
    beginsWithDash value = false → Writes item ["--" ++ key.name, value]
  | plain {text : String} : beginsWithDash text = false → Writes (.descriptor text) [text]

/-- The arguments by which several things may be said one after the other. -/
inductive WritesAll : List Item → List String → Prop
  | nil : WritesAll [] []
  | cons {item : Item} {items : List Item} {part arguments : List String} : Writes item part →
    WritesAll items arguments → WritesAll (item :: items) (part ++ arguments)

/-- The arguments spell the command. The options come in any order; a language or a format that is
the usual one need not be named. Descriptors that begin with a dash come last, after `--`. -/
inductive Spells : Command → List String → Prop
  | generate {row : String} {fields : List (String × String)} {tables : List String}
    {language? : Option Language} {items : List Item} {arguments : List String} :
    fields ≠ [] → (∀ f ∈ fields, '=' ∉ f.1.toList) →
    said items = ⟨[], [row], fields, tables, [], language?.toList⟩ → WritesAll items arguments →
    Spells (.generate row fields tables (language?.getD .rust)) ("generate" :: arguments)
  | resolve {descriptors tables : List String} {format? : Option Format} {items : List Item}
    {arguments : List String} :
    descriptors ≠ [] →
    said items = ⟨descriptors, [], [], tables, format?.toList, []⟩ → WritesAll items arguments →
    Spells (.resolve descriptors tables (format?.getD .text)) ("resolve" :: arguments)
  | resolveMore {descriptors further tables : List String} {format? : Option Format}
    {items : List Item} {arguments : List String} :
    descriptors ++ further ≠ [] →
    said items = ⟨descriptors, [], [], tables, format?.toList, []⟩ → WritesAll items arguments →
    Spells (.resolve (descriptors ++ further) tables (format?.getD .text))
      ("resolve" :: (arguments ++ "--" :: further))

/-! ## Forms -/

theorem Form.of_plain {argument : String} (h : beginsWithDash argument = false) :
    Form.of argument = .plain := by
  rw [beginsWithDash, beq_eq_false_iff_ne] at h
  unfold Form.of
  split
  · rename_i text
    rw [text] at h
    exact absurd rfl h
  · rename_i text
    rw [text] at h
    exact absurd rfl h
  · rename_i text
    rw [text] at h
    exact absurd rfl h
  · rfl

/-- After two dashes stands the name of an option, and after an equals sign its value. -/
theorem Form.of_dashes {c : Char} {rest name : List Char} {value? : Option (List Char)}
    {argument : String} (h : argument.toList = '-' :: '-' :: c :: rest)
    (cut : splitFirst '=' (c :: rest) = (name, value?)) :
    Form.of argument = .long (String.ofList name) (value?.map String.ofList) := by
  unfold Form.of
  simp only [h, cut]

/-- The name of an option is not empty and has no equals sign. -/
theorem Key.name_spelling (key : Key) :
    (∃ c rest, key.name.toList = c :: rest) ∧ '=' ∉ key.name.toList := by
  cases key <;> exact ⟨⟨_, _, rfl⟩, by decide⟩

/-- An option without a value is known by its name. -/
theorem Form.of_key (key : Key) : Form.of ("--" ++ key.name) = .long key.name none := by
  obtain ⟨⟨c, rest, name⟩, mark⟩ := key.name_spelling
  have text : ("--" ++ key.name).toList = '-' :: '-' :: c :: rest := by
    rw [String.toList_append, name]
    rfl
  have cut := splitFirst_of_not_mem mark
  rw [name] at cut
  rw [Form.of_dashes text cut, ← name, String.ofList_toList]
  rfl

/-- An option and its value in one argument are cut at the first equals sign, which no option has in
its name. -/
theorem Form.of_key_value (key : Key) (value : String) :
    Form.of ("--" ++ key.name ++ "=" ++ value) = .long key.name (some value) := by
  obtain ⟨⟨c, rest, name⟩, mark⟩ := key.name_spelling
  have text : ("--" ++ key.name ++ "=" ++ value).toList =
      '-' :: '-' :: c :: (rest ++ '=' :: value.toList) := by
    have dashes : "--".toList = ['-', '-'] := rfl
    have equals : "=".toList = ['='] := rfl
    simp [name, dashes, equals]
  have cut := splitFirst_append mark value.toList
  rw [name] at cut
  rw [Form.of_dashes text cut, ← name, String.ofList_toList, Option.map_some,
    String.ofList_toList]

/-! ## Scanning -/

section Scan

variable {verb : Verb} {d : Draft} {waiting : Waiting} {argument : String} {rest : List String}

/-- A plain argument is a value if an option waits for one, and otherwise a descriptor. -/
theorem scan_plain (form : Form.of argument = .plain) :
    scan verb d waiting (argument :: rest) =
      match waiting with
      | .forValue key => scan verb d (.toAdd key argument) rest
      | _ => d.addDescriptors verb waiting argument [] >>= fun d => scan verb d .nothing rest := by
  rw [scan.eq_def]
  cases waiting <;> simp only [form]

/-- Behind the separator all arguments are descriptors, or there are none. -/
theorem scan_separator (form : Form.of argument = .separator) :
    scan verb d waiting (argument :: rest) =
      match rest with
      | [] => d.settle waiting
      | first :: more => d.addDescriptors verb waiting first more := by
  rw [scan.eq_def]
  cases rest <;> simp only [form]

/-- An option of the command waits for its value or is put down with it. -/
theorem scan_key {name : String} {value? : Option String} {key : Key}
    (form : Form.of argument = .long name value?) (other : name ≠ "help")
    (known : verb.keys.lookup name = some key) :
    scan verb d waiting (argument :: rest) =
      match value? with
      | none => d.settle waiting >>= fun d => scan verb d (.forValue key) rest
      | some value =>
        d.settle waiting >>= fun d => d.add key value >>= fun d => scan verb d .nothing rest := by
  rw [scan.eq_def]
  simp only [form, if_neg other, known]
  cases value? <;> rfl

/-- Whether an option is put down at once or with the next argument makes no difference, if it can
be put down at all. -/
theorem scan_settle {settled : Draft} (settles : d.settle waiting = .ok settled)
    (arguments : List String) :
    scan verb d waiting arguments = scan verb settled .nothing arguments := by
  have own : settled.settle .nothing = .ok settled := rfl
  cases arguments with
  | nil => rw [scan.eq_def, scan.eq_def, settles, own]
  | cons argument rest =>
    have descriptors (argument : String) (more : List String) :
        d.addDescriptors verb waiting argument more =
          settled.addDescriptors verb .nothing argument more := by
      unfold Draft.addDescriptors
      rw [settles, own]
    have stops (stop : Stop) : d.stop waiting stop = settled.stop .nothing stop := by
      rw [Draft.stop, Draft.stop, settles, own]
    rw [scan.eq_def, scan.eq_def]
    simp only [settles, own, descriptors, stops]
    cases Form.of argument with
    | plain =>
      -- A plain argument would be a value only if the option still waited for one.
      cases waiting with
      | forValue key => cases settles
      | nothing => rfl
      | toAdd key value => rfl
    | _ => rfl

end Scan

/-! ## Reading what is written -/

/-- Whether a command takes an item. -/
def Verb.takes : Verb → Item → Bool
  | .resolve, .descriptor _ | .resolve, .table _ | .resolve, .format _ => true
  | .generate, .row _ | .generate, .field _ _ | .generate, .table _ | .generate, .language _ => true
  | _, _ => false

/-- The draft with one thing more. -/
def Draft.say (d : Draft) (item : Item) : Except Stop Draft :=
  match item, item.option? with
  | .descriptor text, _ => .ok { d with descriptors := d.descriptors ++ [text] }
  | _, some (key, value) => d.add key value
  | _, none => .ok d

/-- The options of the items that a command takes are among its own. -/
theorem lookup_keys {verb : Verb} {item : Item} {key : Key} {value : String}
    (takes : verb.takes item = true) (option : item.option? = some (key, value)) :
    key.name ≠ "help" ∧ verb.keys.lookup key.name = some key := by
  cases verb <;> cases item <;> cases takes <;> cases option <;> decide

/-- An item that is an option is added under its key. -/
theorem Draft.say_option {d : Draft} {item : Item} {key : Key} {value : String}
    (option : item.option? = some (key, value)) : d.say item = d.add key value := by
  cases item <;> cases option <;> rfl

/-- Arguments that say one thing are read as that thing, in either form. -/
theorem scan_writes {verb : Verb} {d more : Draft} {item : Item} {part : List String}
    (writes : Writes item part) (takes : verb.takes item = true) (added : d.say item = .ok more)
    (rest : List String) :
    scan verb d .nothing (part ++ rest) = scan verb more .nothing rest := by
  cases writes with
  | @attached _ key value option =>
    -- The key is known to the verb, as the verb takes the item.
    obtain ⟨other, known⟩ := lookup_keys takes option
    rw [Draft.say_option option] at added
    rw [List.singleton_append, scan_key (Form.of_key_value key value) other known]
    show (d.add key value >>= fun d => scan verb d .nothing rest) = _
    rw [added]
    rfl
  | @apart _ key value option plain =>
    obtain ⟨other, known⟩ := lookup_keys takes option
    rw [Draft.say_option option] at added
    rw [List.cons_append, List.singleton_append, scan_key (Form.of_key key) other known]
    show scan verb d (.forValue key) (value :: rest) = _
    rw [scan_plain (Form.of_plain plain)]
    have settles : d.settle (.toAdd key value) = .ok more := added
    exact scan_settle settles rest
  | @plain text plain =>
    cases verb with
    | generate => cases takes
    | resolve =>
      rw [List.singleton_append, scan_plain (Form.of_plain plain)]
      obtain rfl := Except.ok.inj added
      rfl

/-! ## Saying several things -/

/-- The draft once everything is said. Of what is said once at most, the first counts. -/
def Draft.after (d : Draft) (s : Saying) : Draft where
  descriptors := d.descriptors ++ s.descriptors
  row? := d.row?.or s.rows.head?
  fields := d.fields ++ s.fields
  tables := d.tables ++ s.tables
  format? := d.format?.or s.formats.head?
  language? := d.language?.or s.languages.head?

/-- Nothing is said but what a command takes. -/
def Saying.IsFor (s : Saying) : Verb → Prop
  | .resolve => s.rows = [] ∧ s.fields = [] ∧ s.languages = []
  | .generate => s.descriptors = [] ∧ s.formats = []

/-- The draft can be completed by what is said: nothing is foreign to the command, no option that is
given once at most is given again, and the names of fields end at the equals sign. -/
structure Draft.Admits (d : Draft) (verb : Verb) (s : Saying) : Prop where
  isFor : s.IsFor verb
  row : (d.row?.toList ++ s.rows).length ≤ 1
  format : (d.format?.toList ++ s.formats).length ≤ 1
  language : (d.language?.toList ++ s.languages).length ≤ 1
  fields : ∀ f ∈ s.fields, '=' ∉ f.1.toList

/-- What is said next was not said before, if it is said once at most. -/
theorem eq_none_of_length_le_one {α : Type} {old : Option α} {a : α} {more : List α}
    (h : (old.toList ++ a :: more).length ≤ 1) : old = none ∧ more = [] := by
  cases old with
  | none => simpa using h
  | some b => simp at h

/-- An option that takes one of several is chosen by its name. -/
theorem choose_none {α : Type} {choices : List (String × α)} {value : String} {a : α}
    (h : choices.lookup value = some a) : choose none choices value = .ok (some a) := by
  rw [choose, h]
  rfl

/-- A field is read back from its name, an equals sign and its descriptor. -/
theorem readField_append {name : String} (h : '=' ∉ name.toList) (type : String) :
    readField (name ++ "=" ++ type) = .ok (name, type) := by
  have text : (name ++ "=" ++ type).toList = name.toList ++ '=' :: type.toList := by
    have equals : "=".toList = ['='] := rfl
    simp [equals]
  rw [readField, text, splitFirst_append h]
  simp

/-- The next thing that is said can be put down, and what is said later still fits. -/
theorem Draft.exists_say {d : Draft} {verb : Verb} {item : Item} {s : Saying}
    (admits : d.Admits verb (s.cons item)) :
    verb.takes item = true ∧
      ∃ more, d.say item = .ok more ∧ more.Admits verb s ∧ more.after s = d.after (s.cons item) := by
  obtain ⟨isFor, row, format, language, fields⟩ := admits
  cases item with
  | row name =>
    -- What may be said once is not in the draft yet and is not said again.
    obtain ⟨fresh, last⟩ := eq_none_of_length_le_one row
    cases verb with
    | resolve => exact absurd isFor.1 (List.cons_ne_nil _ _)
    | generate =>
      refine ⟨rfl, { d with row? := some name }, ?_, ⟨isFor, ?_, format, language, fields⟩, ?_⟩
      · show (if d.row?.isSome then _ else _) = _
        rw [fresh]
        rfl
      · simp [last]
      · simp [after, Saying.cons, fresh]
  | field name type =>
    cases verb with
    | resolve => exact absurd isFor.2.1 (List.cons_ne_nil _ _)
    | generate =>
      have first := fields (name, type) List.mem_cons_self
      have others := fun f later => fields f (List.mem_cons_of_mem _ later)
      refine ⟨rfl, { d with fields := d.fields ++ [(name, type)] }, ?_,
        ⟨isFor, row, format, language, others⟩, ?_⟩
      · show (readField (name ++ "=" ++ type)).map _ = _
        rw [readField_append first]
        rfl
      · simp [after, Saying.cons]
  | table name =>
    refine ⟨by cases verb <;> rfl, { d with tables := d.tables ++ [name] }, rfl,
      ⟨by cases verb <;> exact isFor, row, format, language, fields⟩, ?_⟩
    simp [after, Saying.cons]
  | format f =>
    obtain ⟨fresh, last⟩ := eq_none_of_length_le_one format
    cases verb with
    | generate => exact absurd isFor.2 (List.cons_ne_nil _ _)
    | resolve =>
      have known : formats.lookup (formatWord f) = some f := by cases f <;> decide
      refine ⟨rfl, { d with format? := some f }, ?_, ⟨isFor, row, ?_, language, fields⟩, ?_⟩
      · show (choose d.format? formats (formatWord f)).map _ = _
        rw [fresh, choose_none known]
        rfl
      · simp [last]
      · simp [after, Saying.cons, fresh]
  | language l =>
    obtain ⟨fresh, last⟩ := eq_none_of_length_le_one language
    cases verb with
    | resolve => exact absurd isFor.2.2 (List.cons_ne_nil _ _)
    | generate =>
      have known : languages.lookup (languageWord l) = some l := by cases l <;> decide
      refine ⟨rfl, { d with language? := some l }, ?_, ⟨isFor, row, format, ?_, fields⟩, ?_⟩
      · show (choose d.language? languages (languageWord l)).map _ = _
        rw [fresh, choose_none known]
        rfl
      · simp [last]
      · simp [after, Saying.cons, fresh]
  | descriptor text =>
    cases verb with
    | generate => exact absurd isFor.1 (List.cons_ne_nil _ _)
    | resolve =>
      refine ⟨rfl, { d with descriptors := d.descriptors ++ [text] }, rfl,
        ⟨isFor, row, format, language, fields⟩, ?_⟩
      simp [after, Saying.cons]

/-- Arguments that say several things are read as these things. The induction is on the things; the
draft grows, and what is left to be said always fits it. -/
theorem scan_writesAll {verb : Verb} {items : List Item} {arguments : List String}
    (writes : WritesAll items arguments) {d : Draft} (admits : d.Admits verb (said items))
    (rest : List String) :
    scan verb d .nothing (arguments ++ rest) = scan verb (d.after (said items)) .nothing rest := by
  induction writes generalizing d with
  | nil =>
    have same : d.after (said []) = d := by simp [Draft.after, said]
    rw [same, List.nil_append]
  | @cons item items part arguments first _ ih =>
    rw [said_cons] at admits ⊢
    obtain ⟨takes, more, added, others, same⟩ := Draft.exists_say admits
    rw [List.append_assoc, scan_writes first takes added, ih others, same]

/-- After `--` come further descriptors, whatever they look like. -/
theorem scan_further (d : Draft) (further : List String) :
    scan .resolve d .nothing ("--" :: further) =
      .ok { d with descriptors := d.descriptors ++ further } := by
  rw [scan_separator rfl]
  cases further with
  | nil =>
    rw [List.append_nil]
    rfl
  | cons first more => rfl

/-! ## Commands -/

/-- What is said of a row fits the empty draft. -/
theorem admits_generate {row : String} {fields : List (String × String)} (tables : List String)
    (language? : Option Language) (names : ∀ f ∈ fields, '=' ∉ f.1.toList) :
    Draft.empty.Admits .generate ⟨[], [row], fields, tables, [], language?.toList⟩ where
  isFor := ⟨rfl, rfl⟩
  row := Nat.le_refl 1
  format := Nat.zero_le 1
  language := by cases language? <;> simp [Draft.empty]
  fields := names

/-- What is said of descriptors fits the empty draft. -/
theorem admits_resolve (descriptors tables : List String) (format? : Option Format) :
    Draft.empty.Admits .resolve ⟨descriptors, [], [], tables, format?.toList, []⟩ where
  isFor := ⟨rfl, rfl, rfl⟩
  row := Nat.zero_le 1
  format := by cases format? <;> simp [Draft.empty]
  language := Nat.zero_le 1
  fields := List.forall_mem_nil _

/-- Arguments of `resolve` with a descriptor among them. -/
theorem read_resolve {arguments : List String} {d : Draft}
    (scanned : scan .resolve .empty .nothing arguments = .ok d) (nonempty : d.descriptors ≠ []) :
    read ("resolve" :: arguments) =
      .ok (.resolve d.descriptors d.tables (d.format?.getD .text)) := by
  show (scan .resolve .empty .nothing arguments >>= fun d => d.toCommand .resolve) = _
  rw [scanned]
  exact if_neg nonempty

/-- Arguments of `generate` with the name of the row and a field among them. -/
theorem read_generate {arguments : List String} {d : Draft} {row : String}
    (scanned : scan .generate .empty .nothing arguments = .ok d) (named : d.row? = some row)
    (nonempty : d.fields ≠ []) :
    read ("generate" :: arguments) =
      .ok (.generate row d.fields d.tables (d.language?.getD .rust)) := by
  show (scan .generate .empty .nothing arguments >>= fun d => d.toCommand .generate) = _
  rw [scanned]
  show d.toCommand .generate = _
  rw [Draft.toCommand, named]
  exact if_neg nonempty

/-- Every spelling of a command is read as that command: whatever the order of its options, whether
their values are attached or stand apart, and whatever the texts of names and descriptors. -/
theorem read_of_spells {command : Command} {arguments : List String}
    (spells : Spells command arguments) : read arguments = .ok command := by
  cases spells with
  | @generate row fields tables language? items arguments nonempty names same writes =>
    -- In whatever order they come, the items say of each kind what the command holds.
    have admits : Draft.empty.Admits .generate (said items) :=
      same ▸ admits_generate tables language? names
    have scanned := scan_writesAll writes admits []
    rw [List.append_nil, same] at scanned
    cases language? <;> exact read_generate scanned rfl nonempty
  | @resolve descriptors tables format? items arguments nonempty same writes =>
    have admits : Draft.empty.Admits .resolve (said items) :=
      same ▸ admits_resolve descriptors tables format?
    have scanned := scan_writesAll writes admits []
    rw [List.append_nil, same] at scanned
    cases format? <;> exact read_resolve scanned nonempty
  | @resolveMore descriptors further tables format? items arguments nonempty same writes =>
    have admits : Draft.empty.Admits .resolve (said items) :=
      same ▸ admits_resolve descriptors tables format?
    have scanned := scan_writesAll writes admits ("--" :: further)
    rw [same, scan_further] at scanned
    cases format? <;> exact read_resolve scanned nonempty

/-- Values that look like options or hold equals signs, in both forms, and descriptors between
options and after them. -/
theorem read_of_spells_mixed :
    Spells (.generate "resolve" [("", "a=b"), ("-n", "")] ["--x"] .solidity)
        ["generate", "--table=--x", "--field", "=a=b", "--name", "resolve", "--generator=solidity",
          "--field=-n="] ∧
      Spells (.resolve (["help", "uint8"] ++ ["--table"]) ["Order"] .text)
        ["resolve", "help", "--table", "Order", "uint8", "--", "--table"] ∧
      read ["generate", "--table=--x", "--field", "=a=b", "--name", "resolve",
        "--generator=solidity", "--field=-n="] =
          .ok (.generate "resolve" [("", "a=b"), ("-n", "")] ["--x"] .solidity) ∧
      read ["resolve", "help", "--table", "Order", "uint8", "--", "--table"] =
        .ok (.resolve ["help", "uint8", "--table"] ["Order"] .text) := by
  have attached (item : Item) (key : Key) (value : String)
      (option : item.option? = some (key, value)) :
      Writes item ["--" ++ key.name ++ "=" ++ value] := .attached option
  have apart (item : Item) (key : Key) (value : String)
      (option : item.option? = some (key, value)) (plain : beginsWithDash value = false) :
      Writes item ["--" ++ key.name, value] := .apart option plain
  have row : WritesAll
      [.table "--x", .field "" "a=b", .row "resolve", .language .solidity, .field "-n" ""]
      ["--table=--x", "--field", "=a=b", "--name", "resolve", "--generator=solidity",
        "--field=-n="] :=
    .cons (attached _ .table "--x" rfl) (.cons (apart _ .field "=a=b" rfl rfl)
      (.cons (apart _ .row "resolve" rfl rfl) (.cons (attached _ .language "solidity" rfl)
        (.cons (attached _ .field "-n=" rfl) .nil))))
  have descriptors : WritesAll [.descriptor "help", .table "Order", .descriptor "uint8"]
      ["help", "--table", "Order", "uint8"] :=
    .cons (.plain rfl) (.cons (apart _ .table "Order" rfl rfl) (.cons (.plain rfl) .nil))
  have generate : Spells (.generate "resolve" [("", "a=b"), ("-n", "")] ["--x"] .solidity)
      ["generate", "--table=--x", "--field", "=a=b", "--name", "resolve", "--generator=solidity",
        "--field=-n="] :=
    @Spells.generate _ _ _ (some .solidity) _ _ (by decide) (by decide) rfl row
  have resolve : Spells (.resolve (["help", "uint8"] ++ ["--table"]) ["Order"] .text)
      ["resolve", "help", "--table", "Order", "uint8", "--", "--table"] :=
    @Spells.resolveMore _ _ _ none _ _ (by decide) rfl descriptors
  exact ⟨generate, resolve, read_of_spells generate, read_of_spells resolve⟩

end Arguments

end RowBindings
