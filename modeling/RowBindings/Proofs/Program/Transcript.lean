import RowBindings.Program
import RowBindings.Proofs.Bindings.Reading
import RowBindings.Proofs.Command.Framing
import RowBindings.Proofs.Log.Line
import RowBindings.Proofs.Log.Setting

/-!
# What a run leaves behind

A run of `resolve` prints a line for each descriptor that resolves and logs one for each that does
not. A run of `generate` prints bindings or logs why there are none. In both, the exit code is zero
exactly if nothing is logged. `run_of_command` says so for every command without a log setting, and
that a setting which its reader answers changes nothing but the log. `answers_reading` says which
settings the reader of this library answers.
-/

namespace RowBindings

open Text Log

/-! ## Descriptors in order -/

namespace Run

/-- The lines that are printed and logged for descriptors: each prints one or logs one, in order. -/
inductive Reports (tables : Tables) (format : Format) :
    (descriptors printed logged : List String) → Prop
  | nil : Reports tables format [] [] []
  | resolved {descriptor line : String} {t : FieldType} {descriptors printed logged : List String} :
    resolve tables.accepts descriptor = .ok t → t.line format descriptor = line ++ "\n" →
    '\n' ∉ line.toList → Reports tables format descriptors printed logged →
    Reports tables format (descriptor :: descriptors) (line :: printed) logged
  | failed {descriptor : String} {e : TypeError} {descriptors printed logged : List String} :
    resolve tables.accepts descriptor = .error e →
    Reports tables format descriptors printed logged →
    Reports tables format (descriptor :: descriptors) printed (errorLine e.message :: logged)

variable {tables : Tables} {format : Format} {descriptors printed logged : List String}

/-- What is logged for descriptors are lines. -/
theorem Reports.newline_not_mem (reports : Reports tables format descriptors printed logged) :
    ∀ line ∈ logged, '\n' ∉ line.toList := by
  induction reports with
  | nil => exact List.forall_mem_nil _
  | resolved _ _ _ _ ih => exact ih
  | @failed _ e _ _ _ _ _ ih =>
    rw [List.forall_mem_cons]
    exact ⟨newline_not_mem_errorLine e.printable_message, ih⟩

/-- A run of `resolve` prints and logs these lines, and counts those that it logs. -/
theorem exists_reports (tables : Tables) (format : Format) (descriptors : List String) :
    ∃ printed logged, Reports tables format descriptors printed logged ∧
      String.join (descriptors.map (resolvedLine tables format)) =
        String.join (printed.map (· ++ "\n")) ∧
      (descriptors.flatMap (resolveEvents tables)).filterMap Event.errorLine? = logged ∧
      descriptors.countP (fails tables) = logged.length := by
  -- Each descriptor adds one line to what is printed or to what is logged.
  induction descriptors with
  | nil => exact ⟨[], [], .nil, rfl, rfl, rfl⟩
  | cons descriptor descriptors ih =>
    obtain ⟨printed, logged, reports, output, events, failed⟩ := ih
    have resolution := errorLine?_ofResolution tables.accepts descriptor
    cases resolved : resolve tables.accepts descriptor with
    | ok t =>
      obtain ⟨line, written, single, -⟩ := FieldType.exists_line resolved format
      refine ⟨line :: printed, logged, .resolved resolved written single reports, ?_, ?_, ?_⟩
      · rw [List.map_cons, List.map_cons, String.join_cons, String.join_cons, output, resolvedLine,
          resolved]
        exact congrArg (· ++ _) written
      · rw [List.flatMap_cons, List.filterMap_append, events, resolveEvents, resolved,
          List.filterMap_cons_none resolution]
        rfl
      · rw [List.countP_cons_of_neg (by simp [fails, resolved]), failed]
    | error e =>
      refine ⟨printed, errorLine e.message :: logged, .failed resolved reports, ?_, ?_, ?_⟩
      · rw [List.map_cons, String.join_cons, output, resolvedLine, resolved]
        exact String.empty_append
      · rw [List.flatMap_cons, List.filterMap_append, events, resolveEvents, resolved,
          List.filterMap_cons_none resolution]
        rfl
      · rw [List.countP_cons_of_pos (by simp [fails, resolved]), failed, List.length_cons]

end Run

/-! ## Commands -/

namespace Program

/-- What a run of `resolve` prints and logs. A failure is logged last. -/
def ResolveLeaves (tables : Tables) (format : Format) (descriptors : List String)
    (t : Transcript) : Prop :=
  ∃ printed logged, Run.Reports tables format descriptors printed logged ∧
    t.stdout = String.join (printed.map (· ++ "\n")) ∧
    t.log = logged ++
      if logged = [] then []
      else [errorLine (Failure.resolve logged.length descriptors.length).message]

/-- What a run of `generate` prints and logs: the errors of all fields and how many there are, or
what else is wrong. -/
def GenerateLeaves (tables : Tables) (row : String) (pairs : List (String × String))
    (t : Transcript) : Prop :=
  (t.exit = 1 → t.stdout = "") ∧
    t.log =
      if !isIdentifier row then [errorLine (Failure.rowName row).message]
      else
        match resolveFields tables.accepts pairs with
        | .error errors =>
          errors.map (errorLine ·.message) ++ [errorLine (failureSummary errors)]
        | .ok _ =>
          if isReservedTypeName row then [errorLine (GenerateError.reservedName row).message]
          else []

/-- What a run of a command leaves behind without a log setting. -/
structure Leaves (command : Command) (t : Transcript) : Prop where
  exit : t.exit = 0 ∨ t.exit = 1
  quiet : t.exit = 0 ↔ t.log = []
  stdout : t.stdout = command.run.output
  lines : ∀ line ∈ t.log, '\n' ∉ line.toList
  told :
    match command with
    | .resolve descriptors tables format => ResolveLeaves (.ofList tables) format descriptors t
    | .generate row pairs tables _ => GenerateLeaves (.ofList tables) row pairs t

/-- The failure of a run, which is logged last. -/
def lastLine (r : Run) : List String :=
  match r.result with
  | .ok () => []
  | .error failure => [errorLine failure.message]

/-- Without a setting only errors are shown: no other event of the program is a warning or worse. -/
theorem execute_standard (command : Command) :
    execute Filter.standard command =
      ⟨exitOf command.run, command.run.output,
        command.run.events.filterMap Event.errorLine? ++ lastLine command.run⟩ := by
  have log : (eventsOf command.run).filterMap Event.errorLine? =
      command.run.events.filterMap Event.errorLine? ++ lastLine command.run := by
    rw [eventsOf, lastLine]
    cases command.run.result with
    | ok => rw [List.append_nil]
    | error failure =>
      rw [List.filterMap_append]
      rfl
  rw [execute, log_standard, log]

/-- A run of `resolve` leaves what its descriptors report. -/
theorem leaves_resolve (descriptors tables : List String) (format : Format) :
    Leaves (.resolve descriptors tables format)
      (execute Filter.standard (.resolve descriptors tables format)) := by
  obtain ⟨printed, logged, reports, output, events, failed⟩ :=
    Run.exists_reports (.ofList tables) format descriptors
  have result : (Command.resolve descriptors tables format).run.result =
      if logged = [] then .ok () else .error (.resolve logged.length descriptors.length) := by
    show (if descriptors.countP _ = 0 then _ else _) = _
    simp only [failed, List.length_eq_zero_iff]
  -- The failure of the command is logged exactly if a descriptor failed.
  have written : execute Filter.standard (.resolve descriptors tables format) =
      ⟨if logged = [] then 0 else 1, String.join (printed.map (· ++ "\n")),
        logged ++ if logged = [] then []
          else [errorLine (Failure.resolve logged.length descriptors.length).message]⟩ := by
    rw [execute_standard, exitOf, lastLine, result]
    show Transcript.mk _ (String.join _) (List.filterMap _ (List.flatMap _ _) ++ _) = _
    rw [output, events]
    by_cases none : logged = []
    · simp only [none, if_true]
    · simp only [none, if_false]
  have single := reports.newline_not_mem
  rw [written]
  by_cases none : logged = []
  · subst none
    exact ⟨.inl rfl, by simp, output.symm, by simp, printed, [], reports, rfl, rfl⟩
  · refine ⟨.inr (if_neg none), by simp [none], output.symm, ?_, printed, logged, reports, rfl, rfl⟩
    show ∀ line ∈ logged ++ if logged = [] then [] else _, _
    rw [if_neg none, List.forall_mem_append, List.forall_mem_singleton]
    exact ⟨single, newline_not_mem_errorLine (Failure.printable_message _)⟩

/-- Before it succeeds or fails, a run of `generate` logs the errors of the fields. -/
theorem errorLines_ofGenerate (tables : Tables) (language : Language) (row : String)
    (pairs : List (String × String)) :
    (Run.ofGenerate tables language row pairs).events.filterMap Event.errorLine? =
      if !isIdentifier row then []
      else
        match resolveFields tables.accepts pairs with
        | .error errors => errors.map (errorLine ·.message)
        | .ok _ => [] := by
  have fields := filterMap_ofFields tables.accepts pairs
  rw [Run.ofGenerate]
  split
  · rfl
  cases resolveFields tables.accepts pairs with
  | error errors =>
    rw [List.filterMap_append, fields, List.nil_append, List.filterMap_map]
    exact congrFun List.filterMap_eq_map errors
  | ok resolved =>
    -- The events of fields that resolve, and that of generating, are no errors.
    have told : (Event.ofFields tables.accepts pairs ++
        [Event.generating row resolved.length language]).filterMap Event.errorLine? = [] := by
      rw [List.filterMap_append, fields]
      rfl
    cases written : generate language row resolved with
    | error e => simp only [written, told]
    | ok output => simp only [written, told]

/-- What a run of `generate` that fails logs and prints. -/
theorem execute_generate_of_failure {row : String} {pairs : List (String × String)}
    {tables : List String} {language : Language} {failure : Failure}
    (failed : (Run.ofGenerate (.ofList tables) language row pairs).result = .error failure) :
    execute Filter.standard (.generate row pairs tables language) =
      ⟨1, "", (Run.ofGenerate (.ofList tables) language row pairs).events.filterMap
        Event.errorLine? ++ [errorLine failure.message]⟩ := by
  rw [execute_standard, Command.run, exitOf, lastLine, failed, Run.output_of_failure failed]

/-- A run of `generate` that fails logs the lines of its events and one more, and prints nothing. -/
theorem leaves_of_failure {row : String} {pairs : List (String × String)} {tables : List String}
    {language : Language} {failure : Failure} {logged : List String}
    (failed : (Run.ofGenerate (.ofList tables) language row pairs).result = .error failure)
    (lines : (Run.ofGenerate (.ofList tables) language row pairs).events.filterMap
      Event.errorLine? = logged) (single : ∀ line ∈ logged, '\n' ∉ line.toList)
    (told : ∀ t : Transcript, t.stdout = "" → t.log = logged ++ [errorLine failure.message] →
      GenerateLeaves (.ofList tables) row pairs t) :
    Leaves (.generate row pairs tables language)
      (execute Filter.standard (.generate row pairs tables language)) := by
  rw [execute_generate_of_failure failed, lines]
  refine ⟨.inr rfl, by simp, (Run.output_of_failure failed).symm, ?_, told _ rfl rfl⟩
  rw [List.forall_mem_append, List.forall_mem_singleton]
  exact ⟨single, newline_not_mem_errorLine failure.printable_message⟩

/-- A run of `generate` leaves bindings or what is wrong. The cases are those of the checks, in the
order in which they are made. -/
theorem leaves_generate (row : String) (pairs : List (String × String)) (tables : List String)
    (language : Language) :
    Leaves (.generate row pairs tables language)
      (execute Filter.standard (.generate row pairs tables language)) := by
  have result := Run.result_ofGenerate (.ofList tables) language row pairs
  have events := errorLines_ofGenerate (.ofList tables) language row pairs
  -- The three checks come in this order, each only if those before have passed.
  cases identifier : isIdentifier row with
  | false =>
    rw [identifier] at result events
    refine leaves_of_failure result events (List.forall_mem_nil _)
      fun t empty log => ⟨fun _ => empty, ?_⟩
    rw [identifier]
    exact log
  | true =>
    rw [identifier] at result events
    cases accepted : resolveFields (Tables.ofList tables).accepts pairs with
    | error errors =>
      rw [accepted] at result events
      refine leaves_of_failure result events ?_ fun t empty log => ⟨fun _ => empty, ?_⟩
      · intro line member
        obtain ⟨e, -, rfl⟩ := List.mem_map.1 member
        exact newline_not_mem_errorLine e.printable_message
      · rw [identifier, accepted]
        exact log
    | ok fields =>
      rw [accepted] at result events
      cases reserved : isReservedTypeName row with
      | true =>
        rw [reserved] at result
        refine leaves_of_failure result events (List.forall_mem_nil _)
          fun t empty log => ⟨fun _ => empty, ?_⟩
        rw [identifier, accepted, reserved]
        exact log
      | false =>
        rw [reserved] at result
        have written : execute Filter.standard (.generate row pairs tables language) =
            ⟨0, (Run.ofGenerate (.ofList tables) language row pairs).output, []⟩ := by
          rw [execute_standard, Command.run, exitOf, lastLine, result, events]
          rfl
        rw [written]
        refine ⟨.inl rfl, by simp, rfl, List.forall_mem_nil _, nofun, ?_⟩
        rw [identifier, accepted, reserved]
        rfl

theorem leaves_execute (command : Command) :
    Leaves command (execute Filter.standard command) := by
  cases command with
  | resolve descriptors tables format => exact leaves_resolve descriptors tables format
  | generate row pairs tables language => exact leaves_generate row pairs tables language

/-! ## Settings -/

/-- A reader answers a setting with a filter or refuses it. Without a setting nothing is read. -/
def Answers (reader : String → Filter.Reading) (setting : Option String) : Prop :=
  ∀ s ∈ setting, reader s ≠ .brokenOff

/-- The reader of this library answers wherever no directive begins with white space and has a
character that takes several bytes. -/
theorem answers_reading {setting : Option String}
    (placed : ∀ s ∈ setting, ∀ text ∈ splitAll ',' s.toList, ¬Directive.Misplaced text) :
    Answers Filter.reading setting := by
  intro s here broken
  obtain ⟨text, member, misplaced⟩ := Filter.misplaced_of_reading broken
  exact placed s here text member misplaced

/-- With a setting that its reader answers, the arguments are followed under some filter. -/
theorem run_of_answers {reader : String → Filter.Reading} {setting : Option String}
    (answers : Answers reader setting) (arguments : List String) :
    ∃ filter, run reader setting arguments = answer filter arguments := by
  cases setting with
  | none => exact ⟨Filter.standard, rfl⟩
  | some s =>
    have answered := answers s rfl
    rw [run, Option.map_some]
    cases outcome : reader s with
    | filter filter => exact ⟨filter, rfl⟩
    | refused => exact ⟨Filter.standard, rfl⟩
    | brokenOff => exact absurd outcome answered

/-- Arguments that spell a command are followed under every filter. -/
theorem answer_of_read {arguments : List String} {command : Command}
    (parsed : Arguments.read arguments = .ok command) (filter : Filter) :
    answer filter arguments = .finished (execute filter command) := by
  rw [answer, parsed]

end Program

end RowBindings
