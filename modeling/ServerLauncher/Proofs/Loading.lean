import ServerLauncher.Command.Basic
import ServerLauncher.Proofs.Frames
import ServerLauncher.Proofs.Results
import ServerLauncher.Proofs.Sorting

/-!
# Loading a configuration

A configuration file can hold values and keys of any kind.  Most values that a field cannot have end
the loading with a message for the user.  A few do not: what has no entries where the entries of a
section should be, keys without an order among those that are ignored, import paths without items,
a time that is no number, and a value that is nested too deep to have a text.

Nothing is assumed about what reads the documents.

## Main definitions

* `Config.Lapses`: a result is a fault that is not shown to the user.
* `Config.readingOrder`, `Config.objection?`: the fields in the order in which they are read.
* `Config.Strays`: a field has a value that ends the loading with such a fault.
* `Config.Misleads`: the entries that do.
* `Config.Baffles`: the contents of a file that do.

## Main statements

* `Config.lapses_read_iff`: a mapping of any content gives a configuration or a fault that is shown,
  unless its entries mislead.
* `Command.loadConfig_lapses`: so does a file.
-/

namespace ServerLauncher

open Command (isConfigurationFault)

theorem Value.text?_eq_some_iff {room : Nat} {v : Value} {s : String} :
    v.text? room = some s ↔ v.toText room = .ok s := by
  unfold text?
  cases v.toText room with
  | ok s' => simp [Except.toOption]
  | error issue => simp [Except.toOption]

/-! ## Results that are not shown -/

namespace Config

variable {α β : Type} {x : Except Fault α} {f : α → Except Fault β} {fault : Fault}

/-- A result is a fault that is not shown to the user. -/
def Lapses (x : Except Fault α) (fault : Fault) : Prop :=
  x = .error fault ∧ isConfigurationFault fault = false

/-- A result is no such fault. -/
def IsShown (x : Except Fault α) : Prop := ∀ fault, ¬ Lapses x fault

theorem isShown_ok (a : α) : IsShown (.ok a : Except Fault α) := fun _ h => nomatch h.1

theorem isShown_error (h : isConfigurationFault fault = true) :
    IsShown (.error fault : Except Fault α) := by
  rintro _ ⟨heq, hno⟩
  cases heq
  rw [h] at hno
  cases hno

theorem lapses_error_iff {fault' : Fault} : Lapses (.error fault' : Except Fault α) fault ↔
    fault' = fault ∧ isConfigurationFault fault = false := by
  rw [Lapses, Except.error.injEq]

theorem lapses_bind_iff :
    Lapses (x >>= f) fault ↔ Lapses x fault ∨ ∃ a, x = .ok a ∧ Lapses (f a) fault := by
  rcases x with e | a
  · simp [Lapses, bind, Except.bind]
  · simp [Lapses, bind, Except.bind]

theorem IsShown.bind (hx : IsShown x) (hf : ∀ a, IsShown (f a)) : IsShown (x >>= f) := by
  intro fault h
  rcases lapses_bind_iff.mp h with h | ⟨a, -, h⟩
  · exact hx fault h
  · exact hf a fault h

/-- What follows a result that is no such fault decides. -/
theorem IsShown.lapses_bind_iff (hx : IsShown x) :
    Lapses (x >>= f) fault ↔ ∃ a, x = .ok a ∧ Lapses (f a) fault :=
  Config.lapses_bind_iff.trans (or_iff_right (hx fault))

/-! ## Texts -/

variable {entries e : Entries} {value : Value} {rooms : Rooms} {room : Nat} {field : Field}

theorem textOf_eq_ok_iff {s : String} : textOf room value = .ok s ↔ value.toText room = .ok s := by
  unfold textOf
  split
  next s' hs' => rw [hs', Except.ok.injEq, Except.ok.injEq]
  next issue hissue => simp [hissue]

theorem textOf_eq_error_iff : textOf room value = .error fault ↔
    ∃ issue, value.toText room = .error issue ∧ fault = .unwritable issue := by
  unfold textOf
  split
  next s hs => simp [hs]
  next issue hissue => simp [hissue, eq_comm]

theorem errorOf?_textOf (room : Nat) (value : Value) :
    errorOf? (textOf room value) = (errorOf? (value.toText room)).map .unwritable := by
  unfold textOf
  split
  next s hs => rw [hs, errorOf?_ok, errorOf?_ok, Option.map_none]
  next issue hissue => rw [hissue, errorOf?_error, errorOf?_error, Option.map_some]

/-- The first of several items that has no text decides the fault. -/
theorem mapM_textOf_eq_error_iff {items : List Value} : items.mapM (textOf room) = .error fault ↔
    ∃ issue, FirstOf (fun item issue => item.toText room = .error issue) items issue ∧
      fault = .unwritable issue := by
  have hfirst : items.findSome? (fun item => errorOf? (textOf room item)) =
      (items.findSome? fun item => errorOf? (item.toText room)).map .unwritable := by
    simp only [errorOf?_textOf, List.map_findSome?, Function.comp_def]
  rw [← errorOf?_eq_some_iff, errorOf?_mapM, hfirst, Option.map_eq_some_iff]
  refine exists_congr fun issue => and_congr ?_ eq_comm
  exact findSome?_eq_some_iff_firstOf fun item _ issue => errorOf?_eq_some_iff

/-- A value without a text lapses only if it is nested too deep. -/
theorem lapses_textOf_iff : Lapses (textOf room value) fault ↔
    value.toText room = .error .tooDeep ∧ fault = .unwritable .tooDeep := by
  rw [Lapses, textOf_eq_error_iff]
  constructor
  · rintro ⟨⟨issue, hissue, rfl⟩, hno⟩
    cases issue with
    | tooLong => cases hno
    | tooDeep => exact ⟨hissue, rfl⟩
  · rintro ⟨hissue, rfl⟩
    exact ⟨⟨_, hissue, rfl⟩, rfl⟩

/-! ## Fields -/

theorem lapses_textField_iff {standard : String} :
    Lapses (textField rooms e field standard) fault ↔ ∃ value, given? e field = some value ∧
      value.toText (rooms.value field) = .error .tooDeep ∧ fault = .unwritable .tooDeep := by
  unfold textField
  split
  next hnone => simp [Lapses, hnone]
  next value hvalue => simp only [hvalue, Option.some_inj, exists_eq_left', lapses_textOf_iff]

theorem environmentField_isShown (entries : Entries) : IsShown (environmentField entries) := by
  unfold environmentField
  split
  · exact isShown_ok _
  · split
    · exact isShown_ok _
    · exact isShown_error rfl

theorem policyOfText_isShown (name : String) : IsShown (policyOfText name) := by
  unfold policyOfText
  split
  · exact isShown_ok _
  · exact isShown_error rfl

theorem lapses_policyField_iff : Lapses (policyField rooms e) fault ↔
    ∃ value, given? e .policy = some value ∧
      value.toText (rooms.value .policy) = .error .tooDeep ∧ fault = .unwritable .tooDeep := by
  unfold policyField
  split
  next hnone => simp [Lapses, hnone]
  next policy hpolicy => simp [Lapses, hpolicy, Value.toText]
  next value _ hvalue =>
    have hname : ¬∃ name, textOf (rooms.value .policy) value = .ok name ∧
        Lapses (policyOfText name) fault := fun ⟨name, _, h⟩ => policyOfText_isShown name fault h
    simp only [hvalue, Option.some_inj, exists_eq_left', ← lapses_textOf_iff]
    rw [lapses_bind_iff, or_iff_left hname]

/-- Only a value without items cannot be opened. -/
theorem itemsOf_eq_error (h : itemsOf value = .error fault) :
    isConfigurationFault fault = false := by
  unfold itemsOf at h
  split at h
  all_goals cases h
  rfl

/-- The import paths lapse where their value has no items, or where the first item that has no text
is nested too deep. -/
theorem lapses_importsField_iff : Lapses (importsField rooms e) fault ↔
    ∃ value, given? e .importPaths = some value ∧ (itemsOf value = .error fault ∨
      ∃ items, itemsOf value = .ok items ∧
        FirstOf (fun item issue => item.toText (rooms.value .importPaths) = .error issue) items
          .tooDeep ∧ fault = .unwritable .tooDeep) := by
  unfold importsField
  split
  next hnone => simp [Lapses, hnone]
  next value hvalue =>
    simp only [hvalue, Option.some_inj, exists_eq_left']
    rw [lapses_bind_iff]
    refine or_congr ⟨fun h => h.1, fun h => ⟨h, itemsOf_eq_error h⟩⟩ (exists_congr fun items =>
      and_congr_right fun _ => ?_)
    rw [Lapses, mapM_textOf_eq_error_iff]
    constructor
    · rintro ⟨⟨issue, hissue, rfl⟩, hno⟩
      cases issue with
      | tooLong => cases hno
      | tooDeep => exact ⟨hissue, rfl⟩
    · rintro ⟨hissue, rfl⟩
      exact ⟨⟨_, hissue, rfl⟩, rfl⟩

/-- The time lapses only where its value is no number, and no text either. -/
theorem lapses_timeoutField_iff : Lapses (timeoutField entries) fault ↔
    ∃ value issue, given? entries .downloadTimeout = some value ∧ value.toDouble = .error issue ∧
      (∀ shown, issue ≠ .unreadable shown) ∧ fault = .number issue := by
  unfold timeoutField
  split
  next hnone => simp [Lapses, hnone]
  next value hvalue =>
    simp only [hvalue, Option.some_inj, exists_and_left, exists_eq_left']
    split
    next x hx => simp [Lapses, hx]
    next issue hissue =>
      rw [Lapses, hissue]
      constructor
      · rintro ⟨heq, hno⟩
        cases heq
        refine ⟨issue, rfl, fun shown heq => ?_, rfl⟩
        subst heq
        cases hno
      · rintro ⟨issue', heq, hother, rfl⟩
        cases heq
        refine ⟨rfl, ?_⟩
        cases issue with
        | unreadable shown => exact absurd rfl (hother shown)
        | wrongKind kind => rfl
        | tooLarge => rfl
        | notAddable kind => rfl

/-! ## Mappings -/

/-- The order in which the fields are read; whether a download is allowed can always be read. -/
def readingOrder : List Field :=
  [.extraEnv, .policy, .serverPath, .compilerPath, .importPaths, .serverVersion, .downloadTimeout]

/-- The fault of a field whose value cannot be read. -/
def objection? (rooms : Rooms) (e : Entries) : Field → Option Fault
  | .extraEnv => errorOf? (environmentField e)
  | .policy => errorOf? (policyField rooms e)
  | .serverPath => errorOf? (textField rooms e .serverPath "")
  | .compilerPath => errorOf? (textField rooms e .compilerPath "")
  | .importPaths => errorOf? (importsField rooms e)
  | .serverVersion => errorOf? (textField rooms e .serverVersion "v0.0.1")
  | .downloadEnabled => none
  | .downloadTimeout => errorOf? (timeoutField e)

/-- A field that is read before others objects before them. -/
theorem errorOf?_bind_objection {fields : List Field} (hx : objection? rooms e field = errorOf? x)
    (hf : ∀ a, errorOf? (f a) = fields.findSome? (objection? rooms e)) :
    errorOf? (x >>= f) = (field :: fields).findSome? (objection? rooms e) := by
  rw [List.findSome?_cons, hx, errorOf?_bind hf]
  cases errorOf? x with
  | none => rfl
  | some fault => rfl

/-- The first field that objects decides the fault. -/
theorem errorOf?_ofEffective (rooms : Rooms) (e : Entries) :
    errorOf? (ofEffective rooms e) = readingOrder.findSome? (objection? rooms e) :=
  errorOf?_bind_objection rfl fun _ => errorOf?_bind_objection rfl fun _ =>
    errorOf?_bind_objection rfl fun _ => errorOf?_bind_objection rfl fun _ =>
      errorOf?_bind_objection rfl fun _ => errorOf?_bind_objection rfl fun _ =>
        errorOf?_bind_objection rfl fun _ => rfl

/-- A field has a value that ends the loading with a fault that is not shown. -/
inductive Strays (rooms : Rooms) (e : Entries) : Field → Fault → Prop where
  /-- A value that is needed as a text is nested too deep. -/
  | text {field : Field} {value : Value}
      (hfield : field ∈ [.policy, .serverPath, .compilerPath, .serverVersion])
      (hvalue : given? e field = some value)
      (hdeep : value.toText (rooms.value field) = .error .tooDeep) :
      Strays rooms e field (.unwritable .tooDeep)
  /-- The import paths have no items. -/
  | imports {value : Value} {fault : Fault} (hvalue : given? e .importPaths = some value)
      (hno : itemsOf value = .error fault) : Strays rooms e .importPaths fault
  /-- The first of the import paths that has no text is nested too deep. -/
  | import {value : Value} {items : List Value} (hvalue : given? e .importPaths = some value)
      (hitems : itemsOf value = .ok items)
      (hdeep : FirstOf (fun item issue => item.toText (rooms.value .importPaths) = .error issue)
        items .tooDeep) : Strays rooms e .importPaths (.unwritable .tooDeep)
  /-- The time for a download is no number, and no text either. -/
  | timeout {value : Value} {issue : Value.NumberIssue}
      (hvalue : given? e .downloadTimeout = some value) (hno : value.toDouble = .error issue)
      (hother : ∀ shown, issue ≠ .unreadable shown) :
      Strays rooms e .downloadTimeout (.number issue)

theorem lapses_textField_iff_strays {standard : String}
    (hfield : field ∈ [.serverPath, .compilerPath, .serverVersion]) :
    Lapses (textField rooms e field standard) fault ↔ Strays rooms e field fault := by
  rw [lapses_textField_iff]
  constructor
  · rintro ⟨value, hvalue, hdeep, rfl⟩
    exact .text (List.mem_cons_of_mem _ hfield) hvalue hdeep
  · intro h
    cases h with
    | text _ hvalue hdeep => exact ⟨_, hvalue, hdeep, rfl⟩
    | _ => exact absurd hfield (by decide)

theorem strays_iff : Strays rooms e field fault ↔
    objection? rooms e field = some fault ∧ isConfigurationFault fault = false := by
  have hlapses {α : Type} {x : Except Fault α} : errorOf? x = some fault ∧
      isConfigurationFault fault = false ↔ Lapses x fault :=
    and_congr_left' errorOf?_eq_some_iff
  cases field with
  | extraEnv =>
    rw [objection?, hlapses]
    refine iff_of_false ?_ (environmentField_isShown e fault)
    rintro ⟨hfield⟩
    exact absurd hfield (by decide)
  | policy =>
    rw [objection?, hlapses, lapses_policyField_iff]
    constructor
    · rintro ⟨_, hvalue, hdeep⟩
      exact ⟨_, hvalue, hdeep, rfl⟩
    · rintro ⟨value, hvalue, hdeep, rfl⟩
      exact .text (by decide) hvalue hdeep
  | serverPath => exact (hlapses.trans (lapses_textField_iff_strays (by decide))).symm
  | compilerPath => exact (hlapses.trans (lapses_textField_iff_strays (by decide))).symm
  | importPaths =>
    rw [objection?, hlapses, lapses_importsField_iff]
    constructor
    · intro h
      cases h with
      | text hfield => exact absurd hfield (by decide)
      | imports hvalue hno => exact ⟨_, hvalue, .inl hno⟩
      | «import» hvalue hitems hdeep => exact ⟨_, hvalue, .inr ⟨_, hitems, hdeep, rfl⟩⟩
    · rintro ⟨value, hvalue, hno | ⟨items, hitems, hdeep, rfl⟩⟩
      · exact .imports hvalue hno
      · exact .import hvalue hitems hdeep
  | serverVersion => exact (hlapses.trans (lapses_textField_iff_strays (by decide))).symm
  | downloadEnabled =>
    refine iff_of_false ?_ fun h => nomatch h.1
    rintro ⟨hfield⟩
    exact absurd hfield (by decide)
  | downloadTimeout =>
    rw [objection?, hlapses, lapses_timeoutField_iff]
    constructor
    · intro h
      cases h with
      | text hfield => exact absurd hfield (by decide)
      | timeout hvalue hno hother => exact ⟨_, _, hvalue, hno, hother, rfl⟩
    · rintro ⟨value, issue, hvalue, hno, hother, rfl⟩
      exact .timeout hvalue hno hother

/-- The loading lapses at the first field that objects, if that strays. -/
theorem lapses_ofEffective_iff : Lapses (ofEffective rooms e) fault ↔
    ∃ before field after, readingOrder = before ++ field :: after ∧ Strays rooms e field fault ∧
      ∀ earlier ∈ before, objection? rooms e earlier = none := by
  rw [Lapses, ← errorOf?_eq_some_iff, errorOf?_ofEffective, List.findSome?_eq_some_iff]
  simp only [strays_iff]
  constructor
  · rintro ⟨⟨before, field, after, horder, hobjects, hbefore⟩, hno⟩
    exact ⟨before, field, after, horder, ⟨hobjects, hno⟩, hbefore⟩
  · rintro ⟨before, field, after, horder, ⟨hobjects, hno⟩, hbefore⟩
    exact ⟨⟨before, field, after, horder, hobjects, hbefore⟩, hno⟩

/-- How the entries of a mapping end the loading with a fault that is not shown. -/
inductive Misleads (rooms : Rooms) (entries : Entries) : Fault → Prop where
  /-- The section for an editor's settings is no mapping, and not empty. -/
  | noSection {value : Value} (hvalue : Value.lookup entries (.text sectionKey) = some value)
      (hno : value.entries? = none) (htrue : value.isTrue) :
      Misleads rooms entries (.noEntries value.kind)
  /-- Keys that belong to no field have no order. -/
  | keys {e : Entries} {issue : Value.OrderIssue} (he : effective entries = .ok e)
      (hkeys : unknownKeys e = .error (.incomparable issue)) :
      Misleads rooms entries (.incomparable issue)
  /-- A field strays, and all fields before it can be read. -/
  | field {e : Entries} {before after : List Field} {field : Field} {fault : Fault}
      (he : effective entries = .ok e) (hkeys : ∃ keys, unknownKeys e = .ok keys)
      (horder : readingOrder = before ++ field :: after) (hstrays : Strays rooms e field fault)
      (hbefore : ∀ earlier ∈ before, objection? rooms e earlier = none) :
      Misleads rooms entries fault

theorem lapses_effective_iff : Lapses (effective entries) fault ↔
    ∃ value, Value.lookup entries (.text sectionKey) = some value ∧ value.entries? = none ∧
      value.isTrue ∧ fault = .noEntries value.kind := by
  unfold effective
  split
  next hnone => simp [Lapses, hnone]
  next value hvalue =>
    simp only [hvalue, Option.some_inj, exists_eq_left']
    split
    next section_ hsection => simp [Lapses, hsection]
    next hno =>
      split
      next htrue =>
        rw [Lapses, Except.error.injEq]
        constructor
        · exact fun h => ⟨hno, htrue, h.1.symm⟩
        · rintro ⟨-, -, rfl⟩
          exact ⟨rfl, rfl⟩
      next hfalse => simp [Lapses, hfalse]

/-- The keys that belong to no field. -/
def unknown (e : Entries) : List Value := (e.map (·.1)).filter fun key => !isKnown key

/-- These keys in the order in which they come to be sorted. -/
def listed (e : Entries) : List Value :=
  Value.inGrowingSlots ((Value.inGrowingSlots (e.map (·.1))).filter fun key => !isKnown key)

theorem listed_perm (e : Entries) : (listed e).Perm (unknown e) :=
  (Value.inGrowingSlots_perm _).trans ((Value.inGrowingSlots_perm _).filter _)

theorem unknownKeys_eq_ok {keys : List Value} :
    unknownKeys e = .ok keys ↔ Value.sort (listed e) = .ok keys := by
  unfold unknownKeys
  dsimp only
  split
  next keys' hsort => rw [listed, hsort, Except.ok.injEq, Except.ok.injEq]
  next issue hsort => simp [listed, hsort]

/-- The keys that are ignored cannot be listed only where they cannot be sorted. -/
theorem unknownKeys_eq_error : unknownKeys e = .error fault ↔
    ∃ issue, fault = .incomparable issue ∧ Value.sort (listed e) = .error issue := by
  unfold unknownKeys
  dsimp only
  split
  next keys' hsort => simp [listed, hsort]
  next issue hsort => simp [listed, hsort, eq_comm]

/-- A mapping of any content gives a configuration or a fault that is shown, unless its entries
mislead. -/
theorem lapses_read_iff :
    Lapses (read rooms entries).1 fault ↔ Misleads rooms entries fault := by
  constructor
  · intro h
    unfold read at h
    rcases he : effective entries with fault' | e
    · rw [he] at h
      obtain ⟨value, hvalue, hno, htrue, rfl⟩ :=
        lapses_effective_iff.mp (he ▸ lapses_error_iff.mpr (lapses_error_iff.mp h))
      exact .noSection hvalue hno htrue
    · -- The keys are sorted first, for the record of those that are ignored.
      rcases hkeys : unknownKeys e with fault' | keys
      · obtain ⟨issue, rfl, -⟩ := unknownKeys_eq_error.mp hkeys
        simp only [he, hkeys] at h
        cases h.1
        exact .keys he hkeys
      · simp only [he, hkeys] at h
        obtain ⟨before, field, after, horder, hstrays, hbefore⟩ := lapses_ofEffective_iff.mp h
        exact .field he ⟨keys, hkeys⟩ horder hstrays hbefore
  · intro h
    unfold read
    cases h with
    | noSection hvalue hno htrue =>
      have h := lapses_effective_iff.mpr ⟨_, hvalue, hno, htrue, rfl⟩
      rw [h.1]
      exact ⟨rfl, h.2⟩
    | keys he hkeys =>
      simp only [he, hkeys]
      exact ⟨rfl, rfl⟩
    | field he hkeys horder hstrays hbefore =>
      obtain ⟨keys, hkeys⟩ := hkeys
      simp only [he, hkeys]
      exact lapses_ofEffective_iff.mpr ⟨_, _, _, horder, hstrays, hbefore⟩

/-! ## Files -/

/-- The content of a file ends the loading with a fault that is not shown: the reader of documents
fails with one but does not call the document malformed, or the file holds a mapping whose entries
mislead.  The path is given in the form that messages use. -/
inductive Baffles (reader : Reader) (path : String) (bytes : List UInt8) : Fault → Prop where
  | document {fault : Fault} (h : Lapses (reader.document bytes) fault)
      (hother : fault ≠ .malformedDocument) : Baffles reader path bytes fault
  | entries {entries : Entries} {fault : Fault}
      (hentries : documentEntries reader path bytes = .ok entries)
      (h : Misleads reader.rooms entries fault) : Baffles reader path bytes fault

variable {reader : Reader} {path : String} {bytes : List UInt8}

theorem lapses_documentEntries_iff : Lapses (documentEntries reader path bytes) fault ↔
    Lapses (reader.document bytes) fault ∧ fault ≠ .malformedDocument := by
  unfold documentEntries
  split
  next hmalformed =>
    rw [hmalformed]
    constructor
    · exact fun h => absurd h (isShown_error rfl fault)
    · rintro ⟨⟨heq, -⟩, hother⟩
      cases heq
      exact absurd rfl hother
  next fault' hother hfault =>
    rw [hfault, lapses_error_iff, lapses_error_iff]
    constructor
    · rintro ⟨rfl, hno⟩
      exact ⟨⟨rfl, hno⟩, hother⟩
    · exact fun h => h.1
  next hnone => simp [Lapses, hnone]
  next hnull => simp [Lapses, hnull]
  next value hother hvalue =>
    rw [hvalue]
    refine iff_of_false ?_ fun h => isShown_ok _ fault h.1
    split
    · exact isShown_ok _ fault
    · exact isShown_error rfl fault

theorem lapses_ofBytes_iff :
    Lapses (ofBytes reader path bytes).1 fault ↔ Baffles reader path bytes fault := by
  have hdocument : Lapses (documentEntries reader path bytes) fault ↔ _ :=
    lapses_documentEntries_iff
  unfold ofBytes
  rcases hentries : documentEntries reader path bytes with fault' | entries
  · rw [hentries, lapses_error_iff] at hdocument
    rw [lapses_error_iff, hdocument]
    constructor
    · exact fun h => .document h.1 h.2
    · rintro (⟨h, hother⟩ | ⟨h, -⟩)
      · exact ⟨h, hother⟩
      · cases hentries.symm.trans h
  · rw [hentries] at hdocument
    constructor
    · exact fun h => .entries hentries (lapses_read_iff.mp h)
    · rintro (⟨h, hother⟩ | ⟨h, hmisleads⟩)
      · exact absurd (hdocument.mpr ⟨h, hother⟩) (isShown_ok entries fault)
      · cases hentries.symm.trans h
        exact lapses_read_iff.mpr hmisleads

/-! ## The machine -/

open MachineAction

theorem use_isShown (op : FileOperation) (path : Option String) (m : Machine) :
    IsShown (use op path m).1 := by
  rcases use_cases op path m with ⟨-, -, -, -, errno, -, hfails⟩ | hok
  · exact hfails ▸ isShown_error rfl
  · exact hok ▸ isShown_ok ()

theorem changeFiles_isShown {α : Type} (path : String)
    (f : FileTree → Location → Except Nat (FileTree × α)) (m : Machine) :
    IsShown (changeFiles path f m).1 := by
  unfold changeFiles
  split
  · exact isShown_error rfl
  · split
    · exact isShown_ok _
    · exact isShown_error rfl

theorem readFile_isShown (path : String) (m : Machine) : IsShown (readFile path m).1 := by
  unfold readFile
  rcases huse : use .open (some path) m with ⟨fault | _, m₁⟩
  · rw [bind_of_error huse]
    have hshown := use_isShown .open (some path) m
    rw [huse] at hshown
    exact fun fault' h => hshown fault' (lapses_error_iff.mpr (lapses_error_iff.mp h))
  · rw [bind_of_ok huse]
    exact changeFiles_isShown _ _ _

theorem opening_leads (path : String) (m : Machine) :
    m.Leads (World.StepOf {.clock, .use .open}) (use .open (some path) m).2 :=
  use_makes (by simp) (by simp) (some path) m

/-- What is read is what the path leads to. -/
theorem read_of_readFile {path : String} {m : Machine} {content : ByteArray}
    (h : (readFile path m).1 = .ok content) : m.files.read m.location path = .ok content := by
  unfold readFile at h
  have hleads := opening_leads path m
  rcases huse : use .open (some path) m with ⟨fault | _, m₁⟩
  · rw [bind_of_error huse] at h
    cases h
  · rw [bind_of_ok huse] at h
    rw [huse] at hleads
    have hfiles : m₁.files = m.files := hleads.files_eq (by simp [StepKind.location?])
    have hlocation : m₁.location = m.location := hleads.precedes.location_eq
    rw [hfiles.symm, hlocation.symm]
    rcases changeFiles_cases path (fun files l => (files.read l path).map (files, ·)) m₁ with
      ⟨fault, heq⟩ | ⟨files, content', hread, heq⟩
    · rw [heq] at h
      cases h
    · rw [heq] at h
      cases h
      rcases hcontent : m₁.files.read m₁.location path with errno | content'
      · rw [hcontent] at hread
        cases hread
      · rw [hcontent] at hread
        cases hread
        rfl

/-- A file that is read is there. -/
theorem exists_of_readFile {path : String} {m : Machine} {content : ByteArray}
    (h : (readFile path m).1 = .ok content) : m.files.exists m.location path = true := by
  obtain ⟨l, mode, hwalk, hentry⟩ := FileTree.read_eq_ok.mp (read_of_readFile h)
  rw [FileTree.exists, FileTree.find_eq_ok.mpr ⟨hwalk, hentry⟩]
  rfl

/-- Where no operation fails by itself a file is read as it is. -/
theorem readFile_of_read {path : String} {m : Machine} {content : ByteArray}
    (hfine : ∀ d ∈ m.disturbances, d.errno = none)
    (hread : m.files.read m.location path = .ok content) :
    (readFile path m).1 = .ok content := by
  have hleads := opening_leads path m
  have hok : (use .open (some path) m).1 = .ok () := by
    rcases use_cases .open (some path) m with ⟨d, hd, -, -, errno, herrno, -⟩ | hok
    · rw [hfine d hd] at herrno
      cases herrno
    · exact hok
  obtain ⟨l, mode, hwalk, -⟩ := FileTree.read_eq_ok.mp hread
  unfold readFile
  rcases huse : use .open (some path) m with ⟨result, m₁⟩
  rw [huse] at hleads hok
  cases hok
  have hfiles : m₁.files = m.files := hleads.files_eq (by simp [StepKind.location?])
  have hlocation : m₁.location = m.location := hleads.precedes.location_eq
  rw [bind_of_ok huse, changeFiles, FileTree.holdsNull_of_walk hwalk, if_neg Bool.false_ne_true,
    hfiles, hlocation, hread]
  rfl

/-- A file that is read decides the configuration. -/
theorem load_of_readFile {path : String} {m m₁ : Machine} {content : ByteArray}
    (h : readFile (Path.display path) m = (.ok content, m₁)) :
    load reader path m = ((ofBytes reader (Path.display path) content.toList).1,
      { m₁.onward with
        records := m₁.records ++ (ofBytes reader (Path.display path) content.toList).2 }) := by
  unfold load
  dsimp only
  rw [pathExists, observe_bind_apply, exists_of_readFile (congrArg Prod.fst h)]
  simp only [Bool.not_true, Bool.false_eq_true, if_false]
  rw [bind_of_ok h, change_bind_apply, settle_apply]
  rfl

/-- A file that cannot be read ends the loading with a fault that is shown. -/
theorem load_of_unread {path : String} {m m₁ : Machine} {fault' : Fault}
    (h : readFile (Path.display path) m = (.error fault', m₁)) :
    ∃ fault, (load reader path m).1 = .error fault ∧ isConfigurationFault fault = true := by
  unfold load
  dsimp only
  rw [pathExists, observe_bind_apply]
  by_cases hexists : m.files.exists m.location (Path.display path) = true
  · simp only [hexists, Bool.not_true, Bool.false_eq_true, if_false]
    rw [bind_of_error h]
    refine ⟨fault', rfl, ?_⟩
    have hshown := readFile_isShown (Path.display path) m fault'
    rwa [h, lapses_error_iff, eq_self, true_and, Bool.not_eq_false] at hshown
  · simp only [hexists, Bool.not_false, if_true]
    exact ⟨_, rfl, rfl⟩

theorem lapses_load_iff {path : String} {m : Machine} : Lapses (load reader path m).1 fault ↔
    ∃ content, (readFile (Path.display path) m).1 = .ok content ∧
      Baffles reader (Path.display path) content.toList fault := by
  rcases hread : readFile (Path.display path) m with ⟨fault' | content, m₁⟩
  · refine iff_of_false ?_ fun ⟨_, h, _⟩ => nomatch h
    obtain ⟨shown, hload, hshown⟩ := load_of_unread hread
    rw [hload]
    exact isShown_error hshown fault
  · rw [load_of_readFile hread, lapses_ofBytes_iff]
    simp

/-- A configuration that is loaded has been read in its file. -/
theorem load_fst_eq_ok {path : String} {m : Machine} {config : Config} :
    (load reader path m).1 = .ok config ↔ ∃ content,
      (readFile (Path.display path) m).1 = .ok content ∧
      (ofBytes reader (Path.display path) content.toList).1 = .ok config := by
  rcases hread : readFile (Path.display path) m with ⟨fault' | content, m₁⟩
  · refine iff_of_false ?_ fun ⟨_, h, _⟩ => nomatch h
    obtain ⟨shown, hload, -⟩ := load_of_unread hread
    rw [hload]
    exact fun h => nomatch h
  · rw [load_of_readFile hread]
    simp

/-- Loading a configuration reads a file, and tells so. -/
def loading : Set StepKind := {.clock, .use .open, .note}

theorem load_makes (reader : Reader) (path : String) : Makes loading (load reader path) := by
  have hrest : Makes loading (readFile (Path.display path) >>= fun bytes => do
      change fun m => { m with
        records := m.records ++ (ofBytes reader (Path.display path) bytes.toList).2 }
      settle (ofBytes reader (Path.display path) bytes.toList).1) := by
    refine .bind (readFile_makes (by simp [loading]) (by simp [loading]) _) fun bytes => ?_
    refine .bind (change_makes (k := .note) (by simp [loading]) (fun _ => rfl) fun m => ?_)
      fun _ => .of_settle _
    have hstep := World.Step.note (w := m.toWorld) []
      (ofBytes reader (Path.display path) bytes.toList).2 (by simp)
    rwa [List.append_nil] at hstep
  unfold load
  refine .bind (.of_observe _) fun isThere => ?_
  cases isThere with
  | false => exact .bind (.of_throw _) fun _ => hrest
  | true => exact hrest

end Config

namespace Command

open MachineAction

/-- Whatever a configuration file holds and whatever reads it, the loading gives a configuration or
fails with a message for the user, unless the content baffles. -/
theorem loadConfig_lapses (reader : Config.Reader) (choices : Choices) (path : String)
    (m : Machine) :
    ((∃ config, (loadConfig reader { choices with configPath := some path } m).1 = .ok config) ∨
      (∃ text, (loadConfig reader { choices with configPath := some path } m).1 =
        .error (.failed ("Could not load configuration: " ++ text))) ∨
      ∃ fault, (loadConfig reader { choices with configPath := some path } m).1 =
        .error (.escaped fault)) ∧
    ∀ fault, (loadConfig reader { choices with configPath := some path } m).1 =
        .error (.escaped fault) ↔
      ∃ content, (readFile (Path.display path) m).1 = .ok content ∧
        Config.Baffles reader (Path.display path) content.toList fault := by
  have hlapses (fault : Fault) : Config.Lapses (Config.load reader path m).1 fault ↔ _ :=
    Config.lapses_load_iff
  unfold loadConfig handling
  dsimp only
  rcases hload : Config.load reader path m with ⟨fault | config, m₁⟩
  · simp only [hload, Config.lapses_error_iff] at hlapses
    dsimp only
    unfold stopOf
    rcases hhandled : isConfigurationFault fault with _ | _
    · refine ⟨.inr (.inr ⟨fault, rfl⟩), fun fault' => ?_⟩
      rw [← hlapses fault']
      simp only [Bool.false_eq_true, if_false, Except.error.injEq, Stop.escaped.injEq]
      constructor
      · rintro rfl
        exact ⟨rfl, hhandled⟩
      · exact fun h => h.1
    · refine ⟨.inr (.inl ⟨fault.text, rfl⟩), fun fault' => ?_⟩
      rw [← hlapses fault']
      refine iff_of_false (fun h => nomatch h) ?_
      rintro ⟨rfl, hno⟩
      rw [hhandled] at hno
      cases hno
  · refine ⟨.inl ⟨config, rfl⟩, fun fault => ?_⟩
    rw [← hlapses fault, hload]
    exact iff_of_false (fun h => nomatch h) (Config.isShown_ok config fault)

/-- Documents with a section, keys, import paths and a time that mislead, and what they hold. -/
def strayDocuments : List (String × Value) :=
  [("capnp-ls-client: 5", .mapping [(.text "capnp-ls-client", .integer 5)]),
   ("1: a\nb: c", .mapping [(.integer 1, .text "a"), (.text "b", .text "c")]),
   ("import_paths: 5", .mapping [(.text "import_paths", .integer 5)]),
   ("download_timeout: [1]", .mapping [(.text "download_timeout", .list [.integer 1])])]

/-- A reader that knows some documents. -/
def readerOf (documents : List (String × Value)) : Config.Reader where
  document bytes :=
    match documents.find? fun document => document.1.toUTF8.toList == bytes with
    | some (_, value) => .ok (some value)
    | none => .error .malformedDocument
  rooms := .usual

/-- A machine whose configuration file holds a document. -/
def holding (document : String) : Machine :=
  { files := ({} : FileTree).put ["c"] (.file document.toUTF8 usualMode) }

/-- Whether a result is a fault that escapes. -/
def escapes {α : Type} : Except Stop α → Bool
  | .error (.escaped _) => true
  | _ => false

theorem loadConfig_strayDocuments :
    let choices : Choices := ⟨some "/c", "/i", "WARNING"⟩
    (strayDocuments.all fun (document, _) =>
      escapes (loadConfig (readerOf strayDocuments) choices (holding document)).1) = true := by
  decide +kernel

end Command

end ServerLauncher
