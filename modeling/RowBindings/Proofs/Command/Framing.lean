import RowBindings.Proofs.Bindings.Outcome
import RowBindings.Proofs.Descriptor.Canonical
import RowBindings.Proofs.Text.FlatObject
import RowBindings.Proofs.Text.Printable
import RowBindings.Text.Split

/-!
# Printed lines

A run of `resolve` prints one line for each descriptor that resolves and goes on after those that do
not. Descriptors and the names of types are printed as they are, so whether the lines can be told
apart depends on what can resolve. A descriptor that resolves has nothing in it but letters, digits,
underscores, spaces and signs (`isDescriptorChar_of_resolve`). Hence a line ends at the first line
break and the descriptor in it at the first colon (`FieldType.exists_line`); `Run.ofResolve_framed`
says what follows for whole runs, and that runs can be put together.
-/

namespace RowBindings

open Text Log

/-! ## The characters of descriptors -/

/-- Whether a character may stand in a descriptor that resolves. -/
def isDescriptorChar (c : Char) : Bool :=
  isIdentifierChar c || [' ', '+', '-'].contains c

/-- The characters of identifiers may stand in a descriptor, behind `table`. -/
theorem isDescriptorChar_of_isIdentifierChar {c : Char} (h : isIdentifierChar c = true) :
    isDescriptorChar c = true := by
  rw [isDescriptorChar, h, Bool.true_or]

/-- A numeral has signs and digits only. -/
theorem isDescriptorChar_of_numeral? {s : List Char} {n : Int} (h : numeral? s = some n) :
    s.all isDescriptorChar = true := by
  have digits {sign : Sign} {digits : List Char} (h : digitsNumeral? sign digits = some n) :
      digits.all isDescriptorChar = true := by
    rw [digitsNumeral?] at h
    split at h
    · rename_i numeral
      refine List.all_eq_true.2 fun c member => ?_
      have digit : c.isDigit = true := List.all_eq_true.1 numeral.2.1 c member
      apply isDescriptorChar_of_isIdentifierChar
      apply isIdentifierChar_of_isAlphanum
      rw [Char.isAlphanum, digit, Bool.or_true]
    · cases h
  fun_cases numeral? s with
  | case1 rest => exact Bool.and_eq_true_iff.2 ⟨by decide, digits h⟩
  | case2 rest => exact Bool.and_eq_true_iff.2 ⟨by decide, digits h⟩
  | case3 => exact digits (by simpa [numeral?] using h)

/-- A descriptor that resolves is spelt with few characters, none of which ends a line or is a
colon. -/
theorem isDescriptorChar_of_resolve {tables : Tables} {descriptor : String} {t : FieldType}
    (resolved : resolve tables.accepts descriptor = .ok t) :
    descriptor.toList.all isDescriptorChar = true := by
  have append {s t : String} (h : s.toList.all isDescriptorChar = true)
      (h' : t.toList.all isDescriptorChar = true) :
      (s ++ t).toList.all isDescriptorChar = true := by
    rw [String.toList_append, List.all_append, h, h', Bool.and_self]
  cases resolve_eq_ok_iff.1 resolved with
  | address | bool | bytes | string | uint => decide
  | hash size => exact append (by decide) (isDescriptorChar_of_numeral? size)
  | fixedBytes w size => exact append (by decide) (isDescriptorChar_of_numeral? size)
  | uint256 size => exact append (by decide) (isDescriptorChar_of_numeral? size)
  | integer sign w size =>
    exact append (by cases sign <;> decide) (isDescriptorChar_of_numeral? size)
  | table _ accepted =>
    -- A table is vouched for only under a name that is an identifier.
    have identifier := (isIdentifier_iff.1 (Tables.of_accepts accepted).1).1
    refine append (by decide) (List.all_eq_true.2 fun c member => ?_)
    exact isDescriptorChar_of_isIdentifierChar (identifier.isIdentifierChar_of_mem member)

/-- A descriptor that resolves has none of the other characters. -/
theorem not_mem_of_resolve {tables : Tables} {descriptor : String} {t : FieldType} {c : Char}
    (resolved : resolve tables.accepts descriptor = .ok t) (other : isDescriptorChar c = false) :
    c ∉ descriptor.toList := by
  intro member
  rw [List.all_eq_true.1 (isDescriptorChar_of_resolve resolved) c member] at other
  cases other

/-! ## One line -/

/-- A host type that can be written stands on one line. -/
theorem newline_not_mem_hostType {f : Field} (sound : f.Sound) :
    '\n' ∉ f.type.hostType.text.toList := by
  have writable := HostFile.isWritable_hostType sound
  cases host : f.type.hostType with
  | named name =>
    rw [host] at writable
    exact newline_not_mem_of_isName writable
  | vec element =>
    rw [host] at writable
    exact newline_not_mem_append (newline_not_mem_append (by decide)
      (newline_not_mem_of_isName writable)) (by decide)

/-- The routines of a type, or a dash where it has none. -/
theorem newline_not_mem_routine {t : FieldType} {name? : Option String}
    (h : ∀ name ∈ name?, name ∈ t.encoderName?.toList ++ t.decoderName?.toList) :
    '\n' ∉ (name?.getD "-").toList := by
  cases name? with
  | none => decide
  | some name => exact newline_not_mem_of_isName (FieldType.isName_routine (h name rfl))

namespace FieldType

/-- Name and kind tell the types apart. -/
theorem eq_of_name_eq_of_kind_eq {t t' : FieldType} (named : t.name = t'.name)
    (kind : t.kind = t'.kind) : t = t' := by
  by_cases stored : t.kind ≠ .table
  · exact name_injective stored (kind ▸ stored) named
  · rw [ne_eq, not_not] at stored
    cases t with
    | table name =>
      cases t' with
      | table name' => exact congrArg table named
      | _ => cases kind
    | _ => cases stored

/-- The members of an object spell a type: under each key stands the attribute of that name. Null
stands for a routine or a width that the type does not have. -/
structure SpeltBy (t : FieldType) (members : List (String × Scalar)) : Prop where
  keys : members.map Prod.fst =
    ["name", "kind", "size", "host_type", "solidity_type", "encode_func", "decode_func",
      "codec_width"]
  name : members.lookup "name" = some (.text t.name)
  kind : members.lookup "kind" = some (.text t.kind.name)
  size : members.lookup "size" = some (.number t.size)
  hostType : members.lookup "host_type" = some (.text t.hostType.text)
  solidityType : members.lookup "solidity_type" = some (.text t.solidityType)
  encoder : members.lookup "encode_func" = some (t.encoderName?.elim .null .text)
  decoder : members.lookup "decode_func" = some (t.decoderName?.elim .null .text)
  width : members.lookup "codec_width" = some (t.codecWidth?.elim .null .number)

/-- Kinds are reported by different names. -/
theorem kind_name_injective {kind kind' : FieldKind} (same : kind.name = kind'.name) :
    kind = kind' := by
  revert same
  cases kind <;> cases kind' <;> decide

/-- Only one type is spelt by given members. -/
theorem SpeltBy.unique {t t' : FieldType} {members : List (String × Scalar)}
    (h : t.SpeltBy members) (h' : t'.SpeltBy members) : t' = t := by
  have named : Scalar.text t'.name = .text t.name := Option.some.inj (h'.name.symm.trans h.name)
  have kinds : Scalar.text t'.kind.name = .text t.kind.name :=
    Option.some.inj (h'.kind.symm.trans h.kind)
  exact eq_of_name_eq_of_kind_eq (Scalar.text.inj named)
    (kind_name_injective (Scalar.text.inj kinds))

/-- The members under which a type is reported spell it. -/
theorem speltBy_members (t : FieldType) : t.SpeltBy t.members where
  keys := rfl
  name := rfl
  kind := rfl
  size := rfl
  hostType := rfl
  solidityType := rfl
  encoder := by
    show some (Scalar.ofText? t.encoderName?) = _
    cases t.encoderName? <;> rfl
  decoder := by
    show some (Scalar.ofText? t.decoderName?) = _
    cases t.decoderName? <;> rfl
  width := by
    show some (Scalar.ofNumber? t.codecWidth?) = _
    cases t.codecWidth? <;> rfl

/-- What can be read off a line. In a text, the descriptor stands before the first colon. An object
is well formed; its keys and values spell the type and no other. -/
def ShownBy (t : FieldType) (format : Format) (descriptor line : String) : Prop :=
  match format with
  | .text => ∃ rest, splitFirst ':' line.toList = (descriptor.toList, some rest)
  | .json => ∃ members, readObject? line = some members ∧ t.SpeltBy members ∧
      ∀ t' : FieldType, t'.SpeltBy members → t' = t

variable {tables : Tables} {descriptor : String} {t : FieldType}

/-- The object of a type shows it, whatever its descriptor was. -/
theorem shownBy_json (t : FieldType) (descriptor : String) :
    t.ShownBy .json descriptor (jsonObject t.members) :=
  have spelt := speltBy_members t
  ⟨t.members, readObject?_jsonObject t.members, spelt, fun _ other => spelt.unique other⟩

/-- The text of a type that resolves is one line. -/
theorem exists_textLine (resolved : resolve tables.accepts descriptor = .ok t) :
    ∃ line, t.textLine descriptor = line ++ "\n" ∧ '\n' ∉ line.toList ∧
      t.ShownBy .text descriptor line := by
  refine ⟨_, rfl, ?_, ?_⟩
  · have sound := Field.sound_of_resolve (by decide : isIdentifier "id" = true) resolved
    have encoder := @newline_not_mem_routine t t.encoderName?
      fun name member => List.mem_append_left _ (Option.mem_toList.2 member)
    have decoder := @newline_not_mem_routine t t.decoderName?
      fun name member => List.mem_append_right _ (Option.mem_toList.2 member)
    have kind : '\n' ∉ t.kind.name.toList := by cases t.kind <;> decide
    have size := (printable_decimal t.size).newline_not_mem
    have host := newline_not_mem_hostType sound
    have solidity := (printable_quote t.solidityType).newline_not_mem
    have descriptor := not_mem_of_resolve (c := '\n') resolved (by decide)
    -- The line is a chain of labels and values, so it is taken apart from the right.
    have labelled {s label t : String} (h : '\n' ∉ s.toList) (h' : '\n' ∉ label.toList)
        (h'' : '\n' ∉ t.toList) : '\n' ∉ (s ++ label ++ t).toList :=
      newline_not_mem_append (newline_not_mem_append h h') h''
    exact labelled (labelled (labelled (labelled (labelled (labelled descriptor (by decide) kind)
      (by decide) size) (by decide) host) (by decide) solidity) (by decide) encoder) (by decide)
      decoder
  · have label : ": kind=".toList = ':' :: " kind=".toList := rfl
    have colon := not_mem_of_resolve (c := ':') resolved (by decide)
    simp only [ShownBy, String.toList_append, List.append_assoc, label, List.cons_append]
    exact ⟨_, splitFirst_append colon _⟩

/-- The line of a type that resolves ends in its only line break, and shows the type. -/
theorem exists_line (resolved : resolve tables.accepts descriptor = .ok t) (format : Format) :
    ∃ line, t.line format descriptor = line ++ "\n" ∧ '\n' ∉ line.toList ∧
      t.ShownBy format descriptor line := by
  cases format with
  | text => exact exists_textLine resolved
  | json =>
    exact ⟨jsonObject t.members, rfl, newline_not_mem_jsonObject t.members,
      shownBy_json t descriptor⟩

end FieldType

/-! ## Many lines -/

namespace Run

/-- What is printed for descriptors: a line for each that resolves, in order. -/
def pieces (tables : Tables) (format : Format) (descriptors : List String) : List String :=
  descriptors.filterMap fun descriptor =>
    (resolve tables.accepts descriptor).toOption.map (·.line format descriptor)

/-- The result of a run in which some of all descriptors have failed. -/
def verdict (failed total : Nat) : Except Failure Unit :=
  if failed = 0 then .ok () else .error (.resolve failed total)

variable (tables : Tables) (format : Format)

/-- A descriptor fails or has a type. -/
theorem fails_eq_false_iff {tables : Tables} {descriptor : String} :
    fails tables descriptor = false ↔ ∃ t, resolve tables.accepts descriptor = .ok t := by
  rw [fails]
  cases resolve tables.accepts descriptor <;> simp

/-- One descriptor adds a line to the output or is one more that fails. -/
theorem count_newline_resolvedLine (descriptor : String) :
    (resolvedLine tables format descriptor).toList.count '\n' +
      (if fails tables descriptor then 1 else 0) = 1 := by
  cases resolved : resolve tables.accepts descriptor with
  | ok t =>
    -- The one line break is the one behind the line.
    obtain ⟨line, written, single, -⟩ := FieldType.exists_line resolved format
    have newline : "\n".toList = ['\n'] := rfl
    simp only [resolvedLine, fails, resolved, written, String.toList_append, newline,
      List.count_append, List.count_eq_zero.2 single]
    rfl
  | error e =>
    simp only [resolvedLine, fails, resolved]
    rfl

/-- So the lines of the output and the failures come to as many as there are descriptors. -/
theorem count_newline_output (descriptors : List String) :
    (ofResolve tables format descriptors).output.toList.count '\n' +
      descriptors.countP (fails tables) = descriptors.length := by
  induction descriptors with
  | nil => rfl
  | cons descriptor descriptors ih =>
    have one := count_newline_resolvedLine tables format descriptor
    simp only [ofResolve] at ih ⊢
    rw [List.map_cons, String.join_cons, String.toList_append, List.count_append, List.countP_cons,
      List.length_cons]
    omega

/-- The output holds the lines of the descriptors that resolve and nothing else. -/
theorem output_eq_join (descriptors : List String) :
    (ofResolve tables format descriptors).output =
      String.join (pieces tables format descriptors) := by
  show String.join _ = _
  induction descriptors with
  | nil => rfl
  | cons descriptor descriptors ih =>
    rw [List.map_cons, String.join_cons, ih, resolvedLine, pieces, pieces, List.filterMap_cons]
    cases resolve tables.accepts descriptor with
    | ok t => exact (String.join_cons ..).symm
    | error e => exact String.empty_append

/-- A run succeeds exactly if every descriptor resolves. -/
theorem result_eq_ok_iff (descriptors : List String) :
    (ofResolve tables format descriptors).result = .ok () ↔
      ∀ descriptor ∈ descriptors, ∃ t, resolve tables.accepts descriptor = .ok t := by
  have none : (ofResolve tables format descriptors).result = .ok () ↔
      descriptors.countP (fails tables) = 0 := by
    simp only [ofResolve]
    split
    · rename_i zero
      exact iff_of_true rfl zero
    · rename_i some
      exact iff_of_false nofun some
  simp only [none, List.countP_eq_zero, Bool.not_eq_true, fails_eq_false_iff]

/-- The output of `resolve` is framed: it is made of one piece for each descriptor that resolves, in
order, and a piece ends in its only line break and shows the descriptor or its type. There are as
many lines as descriptors that do not fail. A run succeeds exactly if none fails; otherwise it says
how many fail of how many. What a run prints, tells and counts for two lists of descriptors, one
after the other, is what it prints, tells and counts for each of them. -/
theorem ofResolve_framed (descriptors : List String) :
    (ofResolve tables format descriptors).output =
      String.join (pieces tables format descriptors) ∧
    (∀ descriptor t, resolve tables.accepts descriptor = .ok t →
      ∃ line, t.line format descriptor = line ++ "\n" ∧ '\n' ∉ line.toList ∧
        t.ShownBy format descriptor line) ∧
    (ofResolve tables format descriptors).output.toList.count '\n' +
      descriptors.countP (fails tables) = descriptors.length ∧
    ((ofResolve tables format descriptors).result = .ok () ↔
      ∀ descriptor ∈ descriptors, ∃ t, resolve tables.accepts descriptor = .ok t) ∧
    (ofResolve tables format descriptors).result =
      verdict (descriptors.countP (fails tables)) descriptors.length ∧
    ∀ more,
      (ofResolve tables format (descriptors ++ more)).output =
        (ofResolve tables format descriptors).output ++ (ofResolve tables format more).output ∧
      (ofResolve tables format (descriptors ++ more)).events =
        (ofResolve tables format descriptors).events ++ (ofResolve tables format more).events ∧
      (ofResolve tables format (descriptors ++ more)).result =
        verdict (descriptors.countP (fails tables) + more.countP (fails tables))
          (descriptors.length + more.length) := by
  refine ⟨output_eq_join tables format descriptors,
    fun descriptor t resolved => FieldType.exists_line resolved format,
    count_newline_output tables format descriptors, result_eq_ok_iff tables format descriptors, rfl,
    fun more => ⟨?_, ?_, ?_⟩⟩
  · show String.join _ = String.join _ ++ String.join _
    rw [List.map_append, String.join_append]
  · exact List.flatMap_append
  · show verdict _ _ = _
    rw [List.countP_append, List.length_append]

/-- A descriptor that resolves and, after it, one that does not. -/
theorem ofResolve_framed_bytes4 :
    let t := FieldType.fixedBytes ⟨4, by decide, by decide⟩
    let run := ofResolve .empty .json ["bytes04", "bytes33"]
    resolve Tables.empty.accepts "bytes04" = .ok t ∧
      run.output = String.join (pieces .empty .json ["bytes04", "bytes33"]) ∧
      (∃ line, t.line .json "bytes04" = line ++ "\n" ∧ '\n' ∉ line.toList ∧
        t.ShownBy .json "bytes04" line) ∧
      run.result = .error (.resolve 1 2) := by
  intro t run
  have resolved : resolve Tables.empty.accepts "bytes04" = .ok t := rfl
  have failing : ["bytes04", "bytes33"].countP (fails .empty) = 1 := rfl
  obtain ⟨output, shown, -, -, result, -⟩ :=
    ofResolve_framed .empty .json ["bytes04", "bytes33"]
  rw [failing] at result
  exact ⟨resolved, output, shown _ t resolved, result⟩

end Run

end RowBindings
