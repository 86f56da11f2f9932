import Mathlib.Data.List.Forall2
import RowBindings.Proofs.Command.Arrangement

/-!
# Where the parts of a command come from

Nothing stands in a command that its arguments do not tell, and nothing that they tell is left out.
`outcome_scan` says of every list of arguments what comes of reading it: either a draft that holds
exactly what they tell, in their order, or a stop that blames a field only if one is written without
an equals sign. An option that still waits stands for the arguments by which it was given.
`read_provenance` says what follows for whole commands.
-/

namespace RowBindings

open Text

namespace Arguments

/-! ## What arguments tell -/

/-- The arguments tell the items in their order. The argument `--` tells nothing, and after it
whatever looks like an option may be a descriptor. -/
inductive Tells : List Item → List String → Prop
  | nil : Tells [] []
  | separator {items : List Item} {arguments : List String} : Tells items arguments →
    Tells items ("--" :: arguments)
  | attached {item : Item} {items : List Item} {key : Key} {value : String}
    {arguments : List String} : item.option? = some (key, value) → Tells items arguments →
    Tells (item :: items) (("--" ++ key.name ++ "=" ++ value) :: arguments)
  | apart {item : Item} {items : List Item} {key : Key} {value : String}
    {arguments : List String} : item.option? = some (key, value) → Tells items arguments →
    Tells (item :: items) (("--" ++ key.name) :: value :: arguments)
  | descriptor {text : String} {items : List Item} {arguments : List String} :
    Tells items arguments → Tells (.descriptor text :: items) (text :: arguments)

/-- Arguments that tell items can be put together. -/
theorem Tells.append {items others : List Item} {part rest : List String}
    (first : Tells items part) (next : Tells others rest) :
    Tells (items ++ others) (part ++ rest) := by
  induction first with
  | nil => exact next
  | separator _ ih => exact .separator ih
  | attached option _ ih => exact .attached option ih
  | apart option _ ih => exact .apart option ih
  | descriptor _ ih => exact .descriptor ih

theorem tells_descriptors (texts : List String) : Tells (texts.map .descriptor) texts := by
  induction texts with
  | nil => exact .nil
  | cons text texts ih => exact .descriptor ih

/-- One thing is said and then another, kind by kind. -/
def Saying.append (s t : Saying) : Saying where
  descriptors := s.descriptors ++ t.descriptors
  rows := s.rows ++ t.rows
  fields := s.fields ++ t.fields
  tables := s.tables ++ t.tables
  formats := s.formats ++ t.formats
  languages := s.languages ++ t.languages

theorem Saying.append_assoc (s t u : Saying) : (s.append t).append u = s.append (t.append u) := by
  simp only [Saying.append, List.append_assoc]

/-- Items say one after the other what they say together. -/
theorem said_append (items others : List Item) :
    said (items ++ others) = (said items).append (said others) := by
  induction items with
  | nil => rfl
  | cons item items ih =>
    rw [List.cons_append, said_cons, said_cons, ih]
    rcases item with _ | _ | _ | _ | _ | _ <;> rfl

theorem said_descriptors (texts : List String) :
    said (texts.map .descriptor) = ⟨texts, [], [], [], [], []⟩ := by
  induction texts with
  | nil => rfl
  | cons text texts ih =>
    rw [List.map_cons, said_cons, ih]
    rfl

/-- Everything that is put down in a draft. -/
def Draft.saying (d : Draft) : Saying where
  descriptors := d.descriptors
  rows := d.row?.toList
  fields := d.fields
  tables := d.tables
  formats := d.format?.toList
  languages := d.language?.toList

/-- The command takes the item, and the name of a field ends at the first equals sign. -/
def Item.Fits (verb : Verb) (item : Item) : Prop :=
  verb.takes item = true ∧ ∀ f ∈ (said [item]).fields, '=' ∉ f.1.toList

/-- What is said stays within a command as long as its items do. -/
theorem Saying.IsFor.cons {s : Saying} {verb : Verb} {item : Item} (h : s.IsFor verb)
    (takes : verb.takes item = true) : (s.cons item).IsFor verb := by
  rcases verb with _ | _ <;> rcases item with _ | _ | _ | _ | _ | _ <;>
    first | exact h | cases takes

/-- Items that fit a command say only what that command knows of, and their fields are cut at the
first equals sign. -/
theorem said_of_fits {verb : Verb} {items : List Item} (fits : ∀ item ∈ items, item.Fits verb) :
    (said items).IsFor verb ∧ ∀ f ∈ (said items).fields, '=' ∉ f.1.toList := by
  induction items with
  | nil =>
    refine ⟨?_, List.forall_mem_nil _⟩
    rcases verb with _ | _
    · exact ⟨rfl, rfl, rfl⟩
    · exact ⟨rfl, rfl⟩
  | cons item items ih =>
    obtain ⟨first, later⟩ := List.forall_mem_cons.1 fits
    obtain ⟨isFor, names⟩ := ih later
    -- The first item fits the verb by itself, so the two parts are judged apart.
    have parts : said (item :: items) = (said [item]).append (said items) :=
      said_append [item] items
    refine ⟨isFor.cons first.1, ?_⟩
    rw [parts]
    exact List.forall_mem_append.2 ⟨first.2, names⟩

/-- A draft grows to another by exactly what the arguments tell, none of it foreign to the
command. -/
def Grows (verb : Verb) (d : Draft) (arguments : List String) (more : Draft) : Prop :=
  ∃ items, Tells items arguments ∧ more.saying = d.saying.append (said items) ∧
    ∀ item ∈ items, item.Fits verb

/-- A draft grows by what two parts of the arguments tell, one after the other. -/
theorem Grows.trans {verb : Verb} {d more last : Draft} {part rest : List String}
    (first : Grows verb d part more) (next : Grows verb more rest last) :
    Grows verb d (part ++ rest) last := by
  obtain ⟨items, tells, grown, fits⟩ := first
  obtain ⟨others, tells', grown', fits'⟩ := next
  refine ⟨items ++ others, tells.append tells', ?_, List.forall_mem_append.2 ⟨fits, fits'⟩⟩
  rw [grown', grown, said_append, Saying.append_assoc]

/-! ## What comes of reading -/

/-- The arguments give the value to the option, in either form. -/
def Offers (key : Key) (value : String) (arguments : List String) : Prop :=
  "--" ++ key.name ++ "=" ++ value ∈ arguments ∨ ["--" ++ key.name, value] <:+: arguments

/-- An argument that offers a value still does so among more of them. -/
theorem Offers.append {key : Key} {value : String} {arguments : List String}
    (h : Offers key value arguments) (before after : List String) :
    Offers key value (before ++ arguments ++ after) := by
  rcases h with attached | apart
  · exact .inl (List.mem_append_left after (List.mem_append_right before attached))
  · exact .inr (apart.trans (List.infix_append before arguments after))

/-- The field that is blamed by a stop. -/
def blamed? : Stop → Option String
  | .fault (.invalidField value) => some value
  | _ => none

/-- A field is blamed only if the arguments give it and it has no equals sign. -/
def Blames (arguments : List String) (stop : Stop) : Prop :=
  ∀ value, blamed? stop = some value → '=' ∉ value.toList ∧ Offers .field value arguments

/-- A field that is blamed is still given among more arguments. -/
theorem Blames.append {arguments : List String} {stop : Stop} (h : Blames arguments stop)
    (before after : List String) : Blames (before ++ arguments ++ after) stop := by
  intro value same
  obtain ⟨mark, offers⟩ := h value same
  exact ⟨mark, offers.append before after⟩

/-- Most stops blame no field. -/
theorem blames_of_none {stop : Stop} (other : blamed? stop = none) (arguments : List String) :
    Blames arguments stop := by
  intro value blamed
  rw [other] at blamed
  cases blamed

/-- What may come of the arguments of a command, starting from a draft. -/
inductive Outcome (verb : Verb) (d : Draft) (arguments : List String) : Except Stop Draft → Prop
  | grown {more : Draft} : Grows verb d arguments more → Outcome verb d arguments (.ok more)
  | stopped {stop : Stop} : Blames arguments stop → Outcome verb d arguments (.error stop)

section Outcome

variable {verb : Verb} {d : Draft} {part rest : List String}

/-- Reading goes on where it has come to. -/
theorem Outcome.bind {r : Except Stop Draft} {next : Draft → Except Stop Draft}
    (first : Outcome verb d part r) (goesOn : ∀ more, Outcome verb more rest (next more)) :
    Outcome verb d (part ++ rest) (r >>= next) := by
  rcases first with @⟨more, grows⟩ | @⟨stop, blames⟩
  · show Outcome verb d (part ++ rest) (next more)
    have later := goesOn more
    -- What the second part says is said after the first, and so is what it blames.
    generalize next more = result at later ⊢
    rcases later with grows' | blames
    · exact .grown (grows.trans grows')
    · have further := blames.append part []
      rw [List.append_nil] at further
      exact .stopped further
  · exact .stopped (blames.append [] rest)

/-- A draft that nothing is put down in does not grow. -/
theorem outcome_ok (d : Draft) (tells : Tells [] part) : Outcome verb d part (.ok d) := by
  refine .grown ⟨[], tells, ?_, List.forall_mem_nil _⟩
  simp only [Saying.append, said, List.foldr_nil, List.append_nil, Draft.saying]

/-- A stop that blames no field may come at any place. -/
theorem outcome_error {stop : Stop} (other : blamed? stop = none) :
    Outcome verb d part (.error stop) :=
  .stopped (blames_of_none other part)

/-- One item is put down. -/
theorem outcome_item {more : Draft} {item : Item} (tells : Tells [item] part)
    (fits : item.Fits verb) (grown : more.saying = d.saying.append (said [item])) :
    Outcome verb d part (.ok more) :=
  .grown ⟨[item], tells, grown, List.forall_mem_singleton.2 fits⟩

/-! ## Options -/

theorem mem_of_lookup {α : Type} {choices : List (String × α)} {value : String} {a : α}
    (found : choices.lookup value = some a) : (value, a) ∈ choices := by
  obtain ⟨before, after, same, -⟩ := List.lookup_eq_some_iff.1 found
  rw [same]
  exact List.mem_append_right before List.mem_cons_self

/-- A field is cut at its first equals sign, or it is refused as it was given because it has
none. -/
theorem readField_cases (value : String) :
    (∃ name type, readField value = .ok (name, type) ∧ value = name ++ "=" ++ type ∧
      '=' ∉ name.toList) ∨
    (readField value = .error (.fault (.invalidField value)) ∧ '=' ∉ value.toList) := by
  -- The name ends before the first mark, so there is none in it.
  rcases cut : splitFirst '=' value.toList with ⟨name, _ | type⟩
  · obtain ⟨free, text⟩ := splitFirst_eq cut
    refine .inr ⟨by rw [readField, cut], ?_⟩
    rwa [text, Option.map_none, Option.getD_none, List.append_nil]
  · obtain ⟨free, text⟩ := splitFirst_eq cut
    refine .inl ⟨String.ofList name, String.ofList type, by rw [readField, cut], ?_, ?_⟩
    · apply String.toList_inj.1
      rw [text]
      simp
    · rwa [String.toList_ofList]

/-- A choice is put down as the item that its word tells, unless one was made before. -/
theorem outcome_choose {α : Type} {old : Option α} {choices : List (String × α)} {value : String}
    {put : Option α → Draft} (item : α → Item)
    (tells : ∀ a, (value, a) ∈ choices → Tells [item a] part) (fits : ∀ a, (item a).Fits verb)
    (grown : old = none → ∀ a, (put (some a)).saying = d.saying.append (said [item a])) :
    Outcome verb d part ((choose old choices value).map put) := by
  rcases old with _ | b
  · rcases found : choices.lookup value with _ | a
    · rw [choose, found]
      exact outcome_error rfl
    · rw [choose_none found]
      exact outcome_item (tells a (mem_of_lookup found)) (fits a) (grown rfl a)
  · exact outcome_error rfl

/-- The command knows an option under its name. -/
def Verb.Knows (verb : Verb) (key : Key) : Prop :=
  (key.name, key) ∈ verb.keys

/-- A command takes what is said by an option that it knows. -/
theorem Verb.Knows.takes {key : Key} (knows : verb.Knows key) {item : Item} {value : String}
    (option : item.option? = some (key, value)) : verb.takes item = true := by
  rw [Verb.Knows] at knows
  rcases verb with _ | _ <;> rcases item with _ | _ | _ | _ | _ | _ <;> cases option <;>
    first | rfl | exact absurd knows (by decide)

/-- An option and its value are put down as the item that they tell. -/
theorem outcome_add (d : Draft) {key : Key} (knows : verb.Knows key) (value : String)
    (tells : ∀ item, item.option? = some (key, value) → Tells [item] part)
    (offers : Offers key value part) : Outcome verb d part (d.add key value) := by
  rcases key with _ | _ | _ | _ | _
  case row =>
    rw [Draft.add]
    -- A second row is an error, which no field is blamed for.
    rcases old : d.row? with _ | row
    · refine outcome_item (tells (.row value) rfl) ⟨knows.takes rfl, List.forall_mem_nil _⟩ ?_
      simp [Draft.saying, Saying.append, said, Saying.cons, old]
    · exact outcome_error rfl
  case field =>
    rw [Draft.add]
    rcases readField_cases value with ⟨name, type, read, text, free⟩ | ⟨read, free⟩
    · rw [read]
      have option : (Item.field name type).option? = some (.field, value) := by
        rw [text]
        rfl
      refine outcome_item (tells _ option) ⟨knows.takes option, ?_⟩ ?_
      · exact List.forall_mem_singleton.2 free
      · simp [Draft.saying, Saying.append, said, Saying.cons]
    · rw [read]
      refine .stopped fun other blamed => ?_
      obtain rfl := Option.some.inj blamed
      exact ⟨free, offers⟩
  case table =>
    rw [Draft.add]
    refine outcome_item (tells (.table value) rfl) ⟨knows.takes rfl, List.forall_mem_nil _⟩ ?_
    simp [Draft.saying, Saying.append, said, Saying.cons]
  case format =>
    refine outcome_choose .format (fun f found => tells (.format f) ?_)
      (fun f => ⟨knows.takes rfl, List.forall_mem_nil _⟩) fun fresh f => ?_
    · have words : ∀ choice ∈ formats, choice.1 = formatWord choice.2 := by decide
      obtain rfl : value = formatWord f := words _ found
      rfl
    · simp [Draft.saying, Saying.append, said, Saying.cons, fresh]
  case language =>
    refine outcome_choose .language (fun l found => tells (.language l) ?_)
      (fun l => ⟨knows.takes rfl, List.forall_mem_nil _⟩) fun fresh l => ?_
    · have words : ∀ choice ∈ languages, choice.1 = languageWord choice.2 := by decide
      obtain rfl : value = languageWord l := words _ found
      rfl
    · simp [Draft.saying, Saying.append, said, Saying.cons, fresh]

/-! ## Scanning -/

/-- The arguments that gave the option which is not yet put down. -/
def Waiting.written : Waiting → List String
  | .nothing => []
  | .forValue key => ["--" ++ key.name]
  | .toAdd key value => ["--" ++ key.name, value]

/-- The command knows the option that waits. -/
def Waiting.KnownTo (verb : Verb) : Waiting → Prop
  | .nothing => True
  | .forValue key => verb.Knows key
  | .toAdd key _ => verb.Knows key

/-- Only two dashes by themselves are the separator. -/
theorem Form.eq_of_separator {argument : String} (form : Form.of argument = .separator) :
    argument = "--" := by
  unfold Form.of at form
  split at form
  · rename_i text
    exact String.toList_inj.1 text
  all_goals cases form

/-- What a long option is made of. -/
theorem Form.eq_of_long {argument name : String} {value? : Option String}
    (form : Form.of argument = .long name value?) :
    argument = "--" ++ name ++ (value?.map ("=" ++ ·)).getD "" := by
  unfold Form.of at form
  split at form
  case h_2 rest _ text =>
    rcases cut : splitFirst '=' rest with ⟨before, after⟩
    rw [cut] at form
    obtain ⟨rfl, rfl⟩ := Form.long.inj form
    apply String.toList_inj.1
    rw [text, (splitFirst_eq cut).2]
    rcases after with _ | value <;> simp
  -- No other form is a long flag.
  all_goals cases form

/-- An option that a command finds is one that it knows, and has the name of its key. -/
theorem Verb.knows_of_lookup {name : String} {key : Key}
    (known : verb.keys.lookup name = some key) : name = key.name ∧ verb.Knows key := by
  have names : ∀ option ∈ verb.keys, option.1 = option.2.name := by
    rcases verb with _ | _ <;> decide
  obtain rfl : name = key.name := names _ (mem_of_lookup known)
  exact ⟨rfl, mem_of_lookup known⟩

/-- Settling adds the option that is waiting, which the arguments have already given. -/
theorem outcome_settle (d : Draft) {waiting : Waiting} (known : waiting.KnownTo verb) :
    Outcome verb d waiting.written (d.settle waiting) := by
  rcases waiting with _ | key | ⟨key, value⟩
  · exact outcome_ok d .nil
  · exact outcome_error rfl
  · exact outcome_add d known value (fun item option => .apart option .nil)
      (.inr (List.infix_refl _))

/-- A stop comes after what is waiting is settled, which may itself be refused. -/
theorem outcome_stop (d : Draft) {waiting : Waiting} (known : waiting.KnownTo verb) {stop : Stop}
    (rest : List String) (other : blamed? stop = none) :
    Outcome verb d (waiting.written ++ rest) (d.stop waiting stop) :=
  (outcome_settle d known).bind fun _ => outcome_error other

/-- The arguments that a command takes as descriptors. -/
theorem outcome_addDescriptors (d : Draft) {waiting : Waiting} (known : waiting.KnownTo verb)
    (argument : String) (more : List String)
    (tells : Tells ((argument :: more).map .descriptor) part) :
    Outcome verb d (waiting.written ++ part) (d.addDescriptors verb waiting argument more) := by
  rcases verb with _ | _
  · show Outcome .resolve d _ (d.settle waiting >>= fun settled =>
      .ok { settled with descriptors := settled.descriptors ++ argument :: more })
    -- What waits is settled first: a key may still be without its value.
    refine (outcome_settle d known).bind fun settled => .grown ⟨_, tells, ?_, fun item member => ?_⟩
    · rw [said_descriptors]
      simp only [Saying.append, Draft.saying, List.append_nil]
    · obtain ⟨text, -, rfl⟩ := List.mem_map.1 member
      exact ⟨rfl, List.forall_mem_nil _⟩
  · exact outcome_error rfl

/-- A whole scan: from any draft comes what may come of the arguments. -/
theorem outcome_scan (d : Draft) {waiting : Waiting} (known : waiting.KnownTo verb)
    (arguments : List String) :
    Outcome verb d (waiting.written ++ arguments) (scan verb d waiting arguments) := by
  -- The induction is on the arguments. The option that waits counts as written before them, so that
  -- nothing is lost while it is carried along.
  induction arguments generalizing d waiting with
  | nil =>
    rw [scan.eq_def, List.append_nil]
    exact outcome_settle d known
  | cons argument rest ih =>
    rcases form : Form.of argument with _ | ⟨name, value?⟩ | letter | _
    case separator =>
      obtain rfl := Form.eq_of_separator form
      rw [scan_separator form]
      rcases rest with _ | ⟨first, more⟩
      · have same : d.settle waiting = d.settle waiting >>= .ok := by
          rcases d.settle waiting with _ | _ <;> rfl
        show Outcome verb d _ (d.settle waiting)
        rw [same]
        exact (outcome_settle d known).bind fun settled => outcome_ok settled (.separator .nil)
      · exact outcome_addDescriptors d known first more
          (.separator (tells_descriptors (first :: more)))
    case long =>
      by_cases help : name = "help"
      · rw [scan.eq_def]
        simp only [form, if_pos help]
        split
        · exact outcome_error rfl
        · exact outcome_stop d known (argument :: rest) rfl
      · rcases found : verb.keys.lookup name with _ | key
        · rw [scan.eq_def]
          simp only [form, if_neg help, found]
          exact outcome_error rfl
        · obtain ⟨named, knows⟩ := Verb.knows_of_lookup found
          have text := Form.eq_of_long form
          rw [named] at text
          rw [scan_key form help found]
          rcases value? with _ | value
          · refine (outcome_settle d known).bind fun settled => ?_
            obtain rfl : argument = "--" ++ key.name := by simpa using text
            exact @ih settled (.forValue key) knows
          · refine (outcome_settle d known).bind fun settled => ?_
            obtain rfl : argument = "--" ++ key.name ++ "=" ++ value := by
              simpa [String.append_assoc] using text
            have added : Outcome verb settled ["--" ++ key.name ++ "=" ++ value]
                (settled.add key value) :=
              outcome_add settled knows value (fun item option => .attached option .nil)
                (.inl List.mem_cons_self)
            exact added.bind fun more => @ih more .nothing trivial
    case short =>
      rw [scan.eq_def]
      simp only [form]
      split
      · exact outcome_stop d known (argument :: rest) rfl
      · exact outcome_error rfl
    case plain =>
      -- After an option that waits for its value this is the value, and otherwise a descriptor.
      have put := (outcome_addDescriptors d known argument []
        (.descriptor .nil)).bind fun more => @ih more .nothing trivial
      rw [List.append_assoc] at put
      rw [scan_plain form]
      rcases waiting with _ | key | ⟨key, value⟩
      · exact put
      · exact @ih d (.toAdd key argument) known
      · exact put

end Outcome

/-! ## Where the items come from -/

/-- The argument is the value, or the option with the value attached. -/
def Gives (key : Key) (value argument : String) : Prop :=
  argument = value ∨ argument = "--" ++ key.name ++ "=" ++ value

/-- The argument is the descriptor that is said, or gives the value of the option by which the item
is said. -/
def Item.ComesFrom (item : Item) (argument : String) : Prop :=
  item = .descriptor argument ∨
    ∃ key value, item.option? = some (key, value) ∧ Gives key value argument

/-- Everything said comes from arguments that stand in the same order. -/
structure Saying.ComesFrom (s : Saying) (arguments : List String) : Prop where
  descriptors : s.descriptors.Sublist arguments
  rows : List.SublistForall₂ (Gives .row) s.rows arguments
  fields : List.SublistForall₂ (fun f => Gives .field (f.1 ++ "=" ++ f.2)) s.fields arguments
  tables : List.SublistForall₂ (Gives .table) s.tables arguments

/-- An argument more changes nothing about where things come from. -/
theorem Saying.ComesFrom.skip {s : Saying} {rest : List String} (h : s.ComesFrom rest)
    (argument : String) : s.ComesFrom (argument :: rest) :=
  ⟨h.descriptors.cons argument, .cons_right h.rows, .cons_right h.fields, .cons_right h.tables⟩

/-- An item more comes from the argument in front. -/
theorem Saying.ComesFrom.cons {s : Saying} {rest : List String} (h : s.ComesFrom rest)
    {item : Item} {argument : String} (first : item.ComesFrom argument) :
    (s.cons item).ComesFrom (argument :: rest) := by
  -- All but the list that the item joins came from the later arguments already.
  have later := h.skip argument
  rcases first with rfl | ⟨key, value, option, gives⟩
  · exact { later with descriptors := h.descriptors.cons_cons argument }
  · rcases item with name | ⟨name, type⟩ | name | format | language | text
    case row =>
      obtain ⟨rfl, rfl⟩ := Prod.mk.inj (Option.some.inj option)
      exact { later with rows := .cons gives h.rows }
    case field =>
      obtain ⟨rfl, rfl⟩ := Prod.mk.inj (Option.some.inj option)
      exact { later with fields := .cons gives h.fields }
    case table =>
      obtain ⟨rfl, rfl⟩ := Prod.mk.inj (Option.some.inj option)
      exact { later with tables := .cons gives h.tables }
    case format => exact { later with }
    case language => exact { later with }
    case descriptor => cases option

/-- What arguments tell comes from them in their order. The induction is on how they tell it. -/
theorem Tells.comesFrom {items : List Item} {arguments : List String}
    (tells : Tells items arguments) : (said items).ComesFrom arguments := by
  induction tells with
  | nil => exact ⟨List.nil_sublist _, .nil, .nil, .nil⟩
  | separator _ ih => exact ih.skip "--"
  | attached option _ ih => exact ih.cons (.inr ⟨_, _, option, .inr rfl⟩)
  | @apart _ _ key value _ option _ ih =>
    exact (ih.cons (.inr ⟨key, value, option, .inl rfl⟩)).skip ("--" ++ key.name)
  | descriptor _ ih => exact ih.cons (.inl rfl)

/-! ## Commands -/

def Verb.name : Verb → String
  | .resolve => "resolve"
  | .generate => "generate"

/-- The arguments tell the command: they name it, and the items that they tell are all that it
holds. -/
inductive Told : Command → List String → Prop
  | generate {row : String} {fields : List (String × String)} {tables : List String}
    {language? : Option Language} {items : List Item} {arguments : List String} :
    fields ≠ [] → (∀ f ∈ fields, '=' ∉ f.1.toList) →
    said items = ⟨[], [row], fields, tables, [], language?.toList⟩ → Tells items arguments →
    Told (.generate row fields tables (language?.getD .rust)) (Verb.generate.name :: arguments)
  | resolve {descriptors tables : List String} {format? : Option Format} {items : List Item}
    {arguments : List String} :
    descriptors ≠ [] → said items = ⟨descriptors, [], [], tables, format?.toList, []⟩ →
    Tells items arguments →
    Told (.resolve descriptors tables (format?.getD .text)) (Verb.resolve.name :: arguments)

/-- Where the descriptors and tables of `resolve` come from. -/
theorem Told.comesFrom_resolve {descriptors tables arguments : List String} {format : Format}
    (told : Told (.resolve descriptors tables format) arguments) :
    descriptors ≠ [] ∧ descriptors.Sublist arguments ∧
      List.SublistForall₂ (Gives .table) tables arguments := by
  rcases told with _ | @⟨_, _, format?, items, rest, nonempty, whole, tells⟩
  have comes := tells.comesFrom.skip Verb.resolve.name
  rw [whole] at comes
  exact ⟨nonempty, comes.descriptors, comes.tables⟩

/-- Where the row, the fields and the tables of `generate` come from. -/
theorem Told.comesFrom_generate {row : String} {fields : List (String × String)}
    {tables arguments : List String} {language : Language}
    (told : Told (.generate row fields tables language) arguments) :
    fields ≠ [] ∧ (∀ f ∈ fields, '=' ∉ f.1.toList) ∧
      List.SublistForall₂ (fun f => Gives .field (f.1 ++ "=" ++ f.2)) fields arguments ∧
      List.SublistForall₂ (Gives .table) tables arguments ∧
      ∃ argument ∈ arguments, Gives .row row argument := by
  rcases told with @⟨_, _, _, language?, items, rest, nonempty, names, whole, tells⟩ | _
  have comes := tells.comesFrom.skip Verb.generate.name
  rw [whole] at comes
  refine ⟨nonempty, names, comes.fields, comes.tables, ?_⟩
  obtain ⟨_, _ | ⟨gives, ⟨⟩⟩, stands⟩ := List.sublistForall₂_iff.1 comes.rows
  exact ⟨_, List.singleton_sublist.1 stands, gives⟩

/-- A draft that lacks an argument amounts to no command, and any other to one that is told. -/
theorem told_of_draft {verb : Verb} {d : Draft} {items : List Item} {arguments : List String}
    (tells : Tells items arguments) (whole : d.saying = said items)
    (fits : ∀ item ∈ items, item.Fits verb) :
    d.toCommand verb = .error (.fault .missingArgument) ∨
    ∃ command, d.toCommand verb = .ok command ∧ Told command (verb.name :: arguments) := by
  obtain ⟨isFor, names⟩ := said_of_fits fits
  rw [← whole] at isFor names
  rcases verb with _ | _ <;> rw [Draft.toCommand]
  case resolve =>
    by_cases empty : d.descriptors = []
    · exact .inl (if_pos empty)
    · refine .inr ⟨_, if_neg empty, .resolve empty ?_ tells⟩
      obtain ⟨rows, fields, languages⟩ := isFor
      rw [← whole]
      simp only [Draft.saying] at rows fields languages ⊢
      rw [rows, fields, languages]
  case generate =>
    -- The row may be missing, and so may the fields: both count as missing arguments.
    rcases known : d.row? with _ | row
    · exact .inl rfl
    · by_cases empty : d.fields = []
      · exact .inl (if_pos empty)
      · refine .inr ⟨_, if_neg empty, .generate empty names ?_ tells⟩
        obtain ⟨descriptors, formats⟩ := isFor
        rw [← whole]
        simp only [Draft.saying] at descriptors formats ⊢
        rw [descriptors, formats, known, Option.toList_some]

/-- Nothing that stops before a command is known is about a field. -/
theorem blamed?_stopForHelp (rest : List String) : blamed? (stopForHelp rest) = none := by
  unfold stopForHelp
  split
  · rfl
  · split
    · rfl
    · split <;> rfl

/-- An argument that names no command is not blamed as a field. -/
theorem blamed?_stopAtName (separated : Bool) (name : String) :
    blamed? (stopAtName separated name) = none := by
  unfold stopAtName
  split <;> rfl

theorem blamed?_stopAtFlag (argument : String) (isHelp isVersion hasValue : Bool) :
    blamed? (stopAtFlag argument isHelp isVersion hasValue) = none := by
  rcases isHelp <;> rcases isVersion <;> rcases hasValue <;> rfl

/-- Only the arguments of a known command are scanned. -/
theorem read_cases (arguments : List String) :
    (∃ verb rest, arguments = verb.name :: rest ∧
      read arguments = scan verb .empty .nothing rest >>= fun d => d.toCommand verb) ∨
    ∃ stop, read arguments = .error stop ∧ blamed? stop = none := by
  rcases arguments with _ | ⟨argument, rest⟩
  · exact .inr ⟨_, rfl, rfl⟩
  rw [read.eq_def]
  -- Only a plain word can name a verb, and only the first argument is asked.
  rcases form : Form.of argument with _ | ⟨name, value?⟩ | letter | _ <;> simp only [form]
  case separator =>
    rcases rest with _ | ⟨name, rest⟩
    · exact .inr ⟨_, rfl, rfl⟩
    · exact .inr ⟨_, rfl, blamed?_stopAtName true name⟩
  case long => exact .inr ⟨_, rfl, blamed?_stopAtFlag argument _ _ _⟩
  case short => exact .inr ⟨_, rfl, blamed?_stopAtFlag argument _ _ false⟩
  case plain =>
    rcases found : verbs.lookup argument with _ | verb
    · dsimp only
      split
      · exact .inr ⟨_, rfl, blamed?_stopForHelp rest⟩
      · exact .inr ⟨_, rfl, blamed?_stopAtName false argument⟩
    · have names : ∀ option ∈ verbs, option.1 = option.2.name := by decide
      obtain rfl : argument = verb.name := names _ (mem_of_lookup found)
      exact .inl ⟨verb, rest, rfl, rfl⟩

/-- What is read is a command that the arguments tell, or a stop that blames only a field that they
give. -/
theorem read_outcome (arguments : List String) :
    (∃ command, read arguments = .ok command ∧ Told command arguments) ∨
    ∃ stop, read arguments = .error stop ∧ Blames arguments stop := by
  rcases read_cases arguments with ⟨verb, rest, rfl, same⟩ | ⟨stop, same, other⟩
  -- The scan begins with an empty draft and nothing waiting.
  · have outcome := @outcome_scan verb .empty .nothing trivial rest
    rw [same]
    generalize scan verb .empty .nothing rest = result at outcome
    rcases outcome with @⟨d, items, tells, grown, fits⟩ | @⟨stop, blames⟩
    · have whole : d.saying = said items := grown
      rcases told_of_draft tells whole fits with missing | told
      · exact .inr ⟨_, missing, blames_of_none rfl _⟩
      · exact .inl told
    · have further := blames.append [verb.name] []
      rw [List.append_nil] at further
      exact .inr ⟨stop, rfl, further⟩
  · exact .inr ⟨stop, same, blames_of_none other arguments⟩

/-- A command that is read is told by the arguments. -/
theorem told_of_read {command : Command} {arguments : List String}
    (accepted : read arguments = .ok command) : Told command arguments := by
  rcases read_outcome arguments with ⟨other, same, told⟩ | ⟨stop, same, -⟩
  · rw [accepted] at same
    obtain rfl := Except.ok.inj same
    exact told
  · rw [accepted] at same
    cases same

/-- A field that is blamed was given by the arguments. -/
theorem blames_of_read {stop : Stop} {arguments : List String}
    (refused : read arguments = .error stop) : Blames arguments stop := by
  rcases read_outcome arguments with ⟨command, same, -⟩ | ⟨other, same, blames⟩
  · rw [refused] at same
    cases same
  · rw [refused] at same
    obtain rfl := Except.error.inj same
    exact blames

/-- A command is told by its arguments. So whatever it holds comes from them and in their order: of
descriptors and fields at least one, each field cut at its first equals sign. If a field is refused,
it is one that the arguments give without an equals sign. -/
theorem read_provenance (arguments : List String) :
    (∀ command, read arguments = .ok command → Told command arguments) ∧
    (∀ descriptors tables format, read arguments = .ok (.resolve descriptors tables format) →
      descriptors ≠ [] ∧ descriptors.Sublist arguments ∧
        List.SublistForall₂ (Gives .table) tables arguments) ∧
    (∀ row fields tables language, read arguments = .ok (.generate row fields tables language) →
      fields ≠ [] ∧ (∀ f ∈ fields, '=' ∉ f.1.toList) ∧
        List.SublistForall₂ (fun f => Gives .field (f.1 ++ "=" ++ f.2)) fields arguments ∧
        List.SublistForall₂ (Gives .table) tables arguments ∧
        ∃ argument ∈ arguments, Gives .row row argument) ∧
    (∀ value, read arguments = .error (.fault (.invalidField value)) →
      '=' ∉ value.toList ∧ Offers .field value arguments ∧
        (UsageFault.invalidField value).message? =
          some ("expected NAME=DESCRIPTOR, got " ++ quote value)) := by
  refine ⟨fun command => told_of_read, fun descriptors tables format accepted => ?_,
    fun row fields tables language accepted => ?_, fun value refused => ?_⟩
  · exact (told_of_read accepted).comesFrom_resolve
  · exact (told_of_read accepted).comesFrom_generate
  · obtain ⟨mark, offers⟩ := blames_of_read refused value rfl
    exact ⟨mark, offers, rfl⟩

/-- A field whose descriptor has an equals sign of its own, and a field that has none. -/
theorem read_provenance_key :
    read ["generate", "--table=T", "--field=key=a=b", "--name", "Order"] =
        .ok (.generate "Order" [("key", "a=b")] ["T"] .rust) ∧
      List.SublistForall₂ (fun f => Gives .field (f.1 ++ "=" ++ f.2)) [("key", "a=b")]
        ["generate", "--table=T", "--field=key=a=b", "--name", "Order"] ∧
      read ["generate", "--field", "key"] = .error (.fault (.invalidField "key")) ∧
      Offers .field "key" ["generate", "--field", "key"] := by
  have accepted : read ["generate", "--table=T", "--field=key=a=b", "--name", "Order"] =
      .ok (.generate "Order" [("key", "a=b")] ["T"] .rust) := by rfl
  have refused : read ["generate", "--field", "key"] =
      .error (.fault (.invalidField "key")) := by rfl
  obtain ⟨-, -, fields, -, -⟩ := (read_provenance _).2.2.1 _ _ _ _ accepted
  obtain ⟨-, offers, -⟩ := (read_provenance _).2.2.2 _ refused
  exact ⟨accepted, fields, refused, offers⟩

end Arguments

end RowBindings
