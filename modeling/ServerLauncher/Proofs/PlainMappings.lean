import ServerLauncher.Proofs.PlainValues
import ServerLauncher.Proofs.RoundTrip

/-!
# Mappings of plain values

What is read from a mapping whose keys are texts and whose values are plain.

The fields are read in a fixed order, and the first one that objects to its value decides the fault.
Some objections are about the kind of a value or what its text says.  One can be raised by nearly
every field: a value has no text if an integer with too many digits stands anywhere inside it, or if
it is nested deeper than there is room for.

## Main definitions

* `Config.IsPlain`: the mappings in question.
* `Config.Counts`: the entries that count.
* `Config.Objects`: a field objects to its value.
* `Config.Refuses`: how reading fails.
* `Config.Fills`: what the fields take from the entries that count.

## Main statements

* `Config.lookup_renameAll`: of the entries of a section that name one field the last counts.
* `Config.ofEffective_eq_error_iff`: the first field that objects decides the fault.
* `Config.read_plain`: what is read from every such mapping.
-/

namespace ServerLauncher

/-! ## Names of policies -/

namespace Policy

variable {s : String} {p : Policy}

theorem ofText?_eq_some_iff : ofText? s = some p ↔ Text.lowercase s = p.text := by
  unfold ofText?
  dsimp only
  constructor
  · intro h
    split at h
    next hs =>
      cases h
      exact hs
    next =>
      split at h
      next hs =>
        cases h
        exact hs
      next => cases h
  · intro h
    rw [h]
    cases p with
    | strict => exact if_pos rfl
    | fallback => exact (if_neg (by decide)).trans (if_pos rfl)

theorem ofText?_eq_none_iff : ofText? s = none ↔ ∀ p : Policy, Text.lowercase s ≠ p.text := by
  rw [Option.eq_none_iff_forall_ne_some]
  simp only [ne_eq, ofText?_eq_some_iff]

end Policy

/-! ## The entries that count -/

namespace Config

variable {entries e : Entries} {field : Field} {fault : Fault} {v : Value} {c : Config}
  {rooms : Rooms} {room : Nat}

/-- The keys of a mapping are texts, and its values are plain. -/
def IsPlain (entries : Entries) : Prop :=
  ∀ entry ∈ entries, (∃ s, entry.1 = .text s) ∧ entry.2.IsPlain

/-- The entries that count are those of the section for an editor's settings, with the keys renamed;
none, if there is something in its place that is false as a condition; and all, if there is no
section. -/
inductive Counts (entries : Entries) : Entries → Prop where
  | flat (hnone : Value.lookup entries (.text sectionKey) = none) : Counts entries entries
  | inSection {section_ : Entries}
      (hsection : Value.lookup entries (.text sectionKey) = some (.mapping section_)) :
      Counts entries (renameAll section_)
  | empty {value : Value} (hvalue : Value.lookup entries (.text sectionKey) = some value)
      (hkind : value.kind ≠ .mapping) (hfalse : value.isTrue = false) : Counts entries []

theorem IsPlain.of_lookup (h : IsPlain entries) {key : Value}
    (hvalue : Value.lookup entries key = some v) : v.IsPlain := by
  obtain ⟨entry, hfind, rfl⟩ := Option.map_eq_some_iff.mp hvalue
  exact (h entry (List.mem_of_find?_eq_some hfind)).2

theorem effective_eq_ok_iff (h : IsPlain entries) :
    effective entries = .ok e ↔ Counts entries e := by
  unfold effective
  constructor
  · intro heffective
    split at heffective
    next hnone =>
      cases heffective
      exact .flat hnone
    next value hvalue =>
      have hplain := h.of_lookup hvalue
      split at heffective
      next section_ hsection =>
        cases heffective
        exact .inSection (hplain.entries?_eq_some_iff.mp hsection ▸ hvalue)
      next hno =>
        split at heffective
        next => cases heffective
        next hfalse =>
          cases heffective
          exact .empty hvalue (hplain.entries?_eq_none_iff.mp hno)
            (Bool.eq_false_of_not_eq_true hfalse)
  · rintro (hnone | hsection | ⟨hvalue, hkind, hfalse⟩)
    · rw [hnone]
    · rw [hsection]
      rfl
    · simp only [hvalue, (h.of_lookup hvalue).entries?_eq_none_iff.mpr hkind, hfalse]
      rfl

/-- Only something else than a section in its place, which is true as a condition, is refused before
the fields are read. -/
theorem effective_eq_error_iff (h : IsPlain entries) : effective entries = .error fault ↔
    ∃ value, Value.lookup entries (.text sectionKey) = some value ∧ value.isTrue = true ∧
      value.kind ≠ .mapping ∧ fault = .noEntries value.kind := by
  unfold effective
  constructor
  · intro heffective
    split at heffective
    next => cases heffective
    next value hvalue =>
      split at heffective
      next => cases heffective
      next hno =>
        split at heffective
        next htrue =>
          cases heffective
          exact ⟨value, hvalue, htrue, (h.of_lookup hvalue).entries?_eq_none_iff.mp hno, rfl⟩
        next => cases heffective
  · rintro ⟨value, hvalue, htrue, hkind, rfl⟩
    simp only [hvalue, (h.of_lookup hvalue).entries?_eq_none_iff.mpr hkind, htrue]
    rfl

/-- Of the entries of a section that name one field the last counts. -/
theorem lookup_renameAll (section_ : Entries) (s : String) :
    Value.lookup (renameAll section_) (.text s) =
      (section_.reverse.find? fun entry => (renamed entry.1).same (.text s)).map (·.2) := by
  rw [renameAll, Value.lookup_entriesOf, ← List.map_reverse, List.find?_map, Option.map_map]
  rfl

theorem IsPlain.renameAll (h : IsPlain entries) : IsPlain (renameAll entries) := by
  unfold IsPlain Config.renameAll
  refine Value.entriesOf_forall (P := fun key => ∃ s, key = .text s) fun pair hpair => ?_
  obtain ⟨entry, hentry, rfl⟩ := List.mem_map.mp hpair
  obtain ⟨⟨s, hs⟩, hplain⟩ := h entry hentry
  refine ⟨?_, hplain⟩
  dsimp only
  rw [hs, renamed]
  split
  · exact ⟨_, rfl⟩
  · exact ⟨_, rfl⟩

/-! ## Values of fields -/

/-- A field is given by a value that is neither null nor the empty text. -/
theorem given?_eq_some_iff : given? e field = some v ↔
    Value.lookup e (.text field.name) = some v ∧ v ≠ .null ∧ v ≠ .text "" := by
  constructor
  · intro h
    have hempty := given?_ne_text_empty h
    unfold given? at h
    split at h
    next => cases h
    next => cases h
    next s hs =>
      split at h
      · cases h
      · cases h
        exact ⟨hs, nofun, hempty⟩
    next value hnull _ hvalue =>
      cases h
      exact ⟨hvalue, hnull, hempty⟩
  · rintro ⟨hlookup, hnull, hempty⟩
    exact given?_of_lookup hlookup hnull hempty

theorem IsPlain.of_given (h : IsPlain e) (hv : given? e field = some v) : v.IsPlain :=
  h.of_lookup (given?_eq_some_iff.mp hv).1

/-- A field objects to its value. -/
inductive Objects (rooms : Rooms) (e : Entries) : Field → Fault → Prop where
  /-- The extra environment is no mapping. -/
  | environment {v : Value} (hv : given? e .extraEnv = some v) (hkind : v.kind ≠ .mapping) :
      Objects rooms e .extraEnv (.problem (.environmentNotMapping v.kind) none)
  /-- The text of the policy names none. -/
  | policy {v : Value} {s : String} (hv : given? e .policy = some v)
      (hs : v.toText (rooms.value .policy) = .ok s)
      (hnone : ∀ p : Policy, Text.lowercase s ≠ p.text) :
      Objects rooms e .policy (.problem (.unknownPolicy s) none)
  /-- The import paths are a truth value or a number. -/
  | imports {v : Value} (hv : given? e .importPaths = some v)
      (hkind : v.kind = .truth ∨ v.kind = .integer ∨ v.kind = .real) :
      Objects rooms e .importPaths (.noItems v.kind)
  /-- The time for a download is no number. -/
  | timeout {v : Value} {issue : Value.NumberIssue} (hv : given? e .downloadTimeout = some v)
      (hno : v.NoNumber issue) : Objects rooms e .downloadTimeout (.number issue)
  /-- A value that is needed as a text has none. -/
  | text {field : Field} {v : Value} {issue : Value.TextIssue} (hv : given? e field = some v)
      (hlacks : v.LacksText (rooms.value field) issue)
      (hfield : field ∈ [.policy, .serverPath, .compilerPath, .serverVersion]) :
      Objects rooms e field (.unwritable issue)
  /-- One of the import paths has none, and the first that has none decides. -/
  | import {v : Value} {items : List Value} {issue : Value.TextIssue}
      (hv : given? e .importPaths = some v) (hitems : v.HasItems items)
      (hlacks : FirstOf (Value.LacksText (rooms.value .importPaths)) items issue) :
      Objects rooms e .importPaths (.unwritable issue)

/-- Only a field that is given objects. -/
theorem Objects.given_ne_none (h : Objects rooms e field fault) : given? e field ≠ none := by
  cases h with
  | environment hv => exact hv ▸ nofun
  | policy hv => exact hv ▸ nofun
  | imports hv => exact hv ▸ nofun
  | timeout hv => exact hv ▸ nofun
  | text hv => exact hv ▸ nofun
  | «import» hv => exact hv ▸ nofun

/-- What a value is taken for. -/
def Takes {α : Type} (e : Entries) (field : Field) (standard : α) (isTakenFor : Value → α → Prop)
    (a : α) : Prop :=
  match given? e field with
  | none => a = standard
  | some v => isTakenFor v a

/-- The fields are filled with what their values are taken for, or with their defaults. -/
structure Fills (rooms : Rooms) (e : Entries) (c : Config) : Prop where
  serverPath : Takes e .serverPath "" (fun v s => v.toText (rooms.value .serverPath) = .ok s)
    c.serverPath
  policy : Takes e .policy .strict (fun v p => ∃ s,
    v.toText (rooms.value .policy) = .ok s ∧ Text.lowercase s = p.text) c.policy
  compilerPath : Takes e .compilerPath ""
    (fun v s => v.toText (rooms.value .compilerPath) = .ok s) c.compilerPath
  importPaths : Takes e .importPaths [] (fun v paths => ∃ items, v.HasItems items ∧
    items.map (Value.toText (rooms.value .importPaths)) = paths.map .ok) c.importPaths
  extraEnv : Takes e .extraEnv [] (fun v entries => v = .mapping entries) c.extraEnv
  serverVersion : Takes e .serverVersion "v0.0.1"
    (fun v s => v.toText (rooms.value .serverVersion) = .ok s) c.serverVersion
  downloadEnabled : Takes e .downloadEnabled true (fun v b => v.isTrue = b) c.downloadEnabled
  downloadTimeout : Takes e .downloadTimeout (.ofNat 30) (fun v x => v.toDouble = .ok x)
    c.downloadTimeout

/-! ## Single values -/

theorem mapM_textOf_eq_ok_iff {items : List Value} {texts : List String} :
    items.mapM (textOf room) = .ok texts ↔ items.map (Value.toText room) = texts.map .ok := by
  induction items generalizing texts with
  | nil =>
    rw [List.mapM_nil, List.map_nil, List.nil_eq, List.map_eq_nil_iff]
    constructor
    · rintro ⟨⟩
      rfl
    · rintro rfl
      rfl
  | cons item items ih =>
    rw [List.mapM_cons]
    simp only [bind_eq_ok_iff, textOf_eq_ok_iff, ih, pure, Except.pure, Except.ok.injEq,
      List.map_cons]
    constructor
    · rintro ⟨s, hs, rest, hrest, rfl⟩
      rw [hs, hrest, List.map_cons]
    · intro h
      obtain ⟨s, rest, rfl, hs, hrest⟩ := List.map_eq_cons_iff.mp h.symm
      exact ⟨s, hs.symm, rest, hrest.symm, rfl⟩

/-- The extra environment from a value. -/
def environmentOf (v : Value) : Except Fault Entries :=
  match v.entries? with
  | some entries => .ok entries
  | none => .error (.problem (.environmentNotMapping v.kind) none)

/-- The policy from a value that is none itself. -/
def policyOf (room : Nat) (v : Value) : Except Fault Policy := textOf room v >>= policyOfText

/-- The import paths from a value. -/
def importsOf (room : Nat) (v : Value) : Except Fault (List String) :=
  itemsOf v >>= fun items => items.mapM (textOf room)

/-- The time for a download from a value. -/
def timeoutOf (v : Value) : Except Fault Double :=
  match v.toDouble with
  | .ok x => .ok x
  | .error issue => .error (.number issue)

theorem environmentOf_eq_ok_iff (h : v.IsPlain) : environmentOf v = .ok entries ↔
    v = .mapping entries := by
  rw [← h.entries?_eq_some_iff, environmentOf]
  split
  next es hes => rw [hes, Except.ok.injEq, Option.some_inj]
  next hno => simp [hno]

theorem environmentOf_eq_error_iff (h : v.IsPlain) : environmentOf v = .error fault ↔
    v.kind ≠ .mapping ∧ fault = .problem (.environmentNotMapping v.kind) none := by
  rw [← h.entries?_eq_none_iff, environmentOf]
  split
  next es hes => simp [hes]
  next hno => simp [hno, eq_comm]

theorem policyOfText_eq_ok_iff {s : String} {p : Policy} :
    policyOfText s = .ok p ↔ Text.lowercase s = p.text := by
  rw [← Policy.ofText?_eq_some_iff, policyOfText]
  split
  next q hq => rw [hq, Except.ok.injEq, Option.some_inj]
  next hnone => simp [hnone]

theorem policyOfText_eq_error_iff {s : String} : policyOfText s = .error fault ↔
    (∀ p : Policy, Text.lowercase s ≠ p.text) ∧ fault = .problem (.unknownPolicy s) none := by
  rw [← Policy.ofText?_eq_none_iff, policyOfText]
  split
  next q hq => simp [hq]
  next hnone => simp [hnone, eq_comm]

theorem policyOf_eq_ok_iff {p : Policy} : policyOf room v = .ok p ↔
    ∃ s, v.toText room = .ok s ∧ Text.lowercase s = p.text := by
  simp only [policyOf, bind_eq_ok_iff, textOf_eq_ok_iff, policyOfText_eq_ok_iff]

theorem policyOf_eq_error_iff : policyOf room v = .error fault ↔
    (∃ issue, v.toText room = .error issue ∧ fault = .unwritable issue) ∨
      ∃ s, v.toText room = .ok s ∧ (∀ p : Policy, Text.lowercase s ≠ p.text) ∧
        fault = .problem (.unknownPolicy s) none := by
  simp only [policyOf, bind_eq_error_iff, textOf_eq_error_iff, textOf_eq_ok_iff,
    policyOfText_eq_error_iff]

theorem itemsOf_eq_ok_iff (h : v.IsPlain) {items : List Value} :
    itemsOf v = .ok items ↔ v.HasItems items := by
  cases h with
  | text s =>
    constructor
    · rintro ⟨⟩
      exact .text s
    · rintro ⟨⟩
      rfl
  | list items =>
    constructor
    · rintro ⟨⟩
      exact .list _
    · rintro ⟨⟩
      rfl
  | mapping entries =>
    constructor
    · rintro ⟨⟩
      exact .mapping entries
    · rintro ⟨⟩
      rfl
  | _ => exact iff_of_false nofun nofun

theorem itemsOf_eq_error_iff (h : v.IsPlain) (hnull : v ≠ .null) : itemsOf v = .error fault ↔
    (v.kind = .truth ∨ v.kind = .integer ∨ v.kind = .real) ∧ fault = .noItems v.kind := by
  cases h with
  | null => exact absurd rfl hnull
  | _ => simp [itemsOf, Value.opened, Value.kind, eq_comm]

theorem importsOf_eq_ok_iff (h : v.IsPlain) {paths : List String} :
    importsOf room v = .ok paths ↔
      ∃ items, v.HasItems items ∧ items.map (Value.toText room) = paths.map .ok := by
  simp only [importsOf, bind_eq_ok_iff, itemsOf_eq_ok_iff h, mapM_textOf_eq_ok_iff]

theorem importsOf_eq_error_iff (h : v.IsPlain) (hnull : v ≠ .null) :
    importsOf room v = .error fault ↔
      (v.kind = .truth ∨ v.kind = .integer ∨ v.kind = .real) ∧ fault = .noItems v.kind ∨
        ∃ items, v.HasItems items ∧ ∃ issue,
          FirstOf (Value.LacksText room) items issue ∧ fault = .unwritable issue := by
  simp only [importsOf, bind_eq_error_iff, itemsOf_eq_error_iff h hnull, itemsOf_eq_ok_iff h,
    mapM_textOf_eq_error_iff]
  refine or_congr_right (exists_congr fun items => and_congr_right fun hitems =>
    exists_congr fun issue => and_congr_left' ?_)
  exact firstOf_congr fun item hitem _ => (hitems.isPlain h item hitem).toText_eq_error_iff

theorem timeoutOf_eq_ok_iff {x : Double} : timeoutOf v = .ok x ↔ v.toDouble = .ok x := by
  unfold timeoutOf
  split
  next x' hx' => rw [hx', Except.ok.injEq, Except.ok.injEq]
  next issue hissue => simp [hissue]

theorem timeoutOf_eq_error_iff (h : v.IsPlain) : timeoutOf v = .error fault ↔
    ∃ issue, v.NoNumber issue ∧ fault = .number issue := by
  simp only [← h.toDouble_eq_error_iff]
  unfold timeoutOf
  split
  next x hx => simp [hx]
  next issue hissue => simp [hissue, eq_comm]

/-! ## Single fields -/

/-- What is read from the value of a field, or its default. -/
def reading {α : Type} (e : Entries) (field : Field) (standard : α)
    (convert : Value → Except Fault α) : Except Fault α :=
  match given? e field with
  | none => .ok standard
  | some v => convert v

theorem environmentField_eq (e : Entries) :
    environmentField e = reading e .extraEnv [] environmentOf := by
  unfold environmentField reading
  rcases given? e .extraEnv with _ | v
  · rfl
  · rfl

theorem textField_eq (rooms : Rooms) (e : Entries) (field : Field) (standard : String) :
    textField rooms e field standard =
      reading e field standard (textOf (rooms.value field)) := rfl

theorem importsField_eq (rooms : Rooms) (e : Entries) : importsField rooms e =
    reading e .importPaths [] (importsOf (rooms.value .importPaths)) := rfl

theorem timeoutField_eq (e : Entries) :
    timeoutField e = reading e .downloadTimeout (.ofNat 30) timeoutOf := rfl

theorem policyField_eq (rooms : Rooms) (h : IsPlain e) : policyField rooms e =
    reading e .policy .strict (policyOf (rooms.value .policy)) := by
  unfold policyField reading
  rcases hgiven : given? e .policy with _ | v
  · rfl
  · cases h.of_given hgiven <;> rfl

section Reading

variable {α : Type} {standard a : α} {convert : Value → Except Fault α}

theorem reading_eq_ok_iff {isTakenFor : Value → α → Prop}
    (h : ∀ v, given? e field = some v → (convert v = .ok a ↔ isTakenFor v a)) :
    reading e field standard convert = .ok a ↔ Takes e field standard isTakenFor a := by
  unfold reading Takes
  rcases hgiven : given? e field with _ | v
  · change Except.ok standard = .ok a ↔ a = standard
    rw [Except.ok.injEq, eq_comm]
  · exact h v hgiven

theorem reading_eq_error_iff : reading e field standard convert = .error fault ↔
    ∃ v, given? e field = some v ∧ convert v = .error fault := by
  unfold reading
  split
  next hnone => simp [hnone]
  next v hv => simp [hv]

end Reading

theorem textField_eq_ok_iff {standard s : String} :
    textField rooms e field standard = .ok s ↔
      Takes e field standard (fun v s => v.toText (rooms.value field) = .ok s) s :=
  reading_eq_ok_iff fun _ _ => textOf_eq_ok_iff

theorem environmentField_eq_ok_iff (h : IsPlain e) {extra : Entries} :
    environmentField e = .ok extra ↔
      Takes e .extraEnv [] (fun v entries => v = .mapping entries) extra := by
  rw [environmentField_eq]
  exact reading_eq_ok_iff fun _ hv => environmentOf_eq_ok_iff (h.of_given hv)

theorem policyField_eq_ok_iff (h : IsPlain e) {p : Policy} : policyField rooms e = .ok p ↔
    Takes e .policy .strict (fun v p => ∃ s,
      v.toText (rooms.value .policy) = .ok s ∧ Text.lowercase s = p.text) p := by
  rw [policyField_eq rooms h]
  exact reading_eq_ok_iff fun _ _ => policyOf_eq_ok_iff

theorem importsField_eq_ok_iff (h : IsPlain e) {paths : List String} :
    importsField rooms e = .ok paths ↔
      Takes e .importPaths [] (fun v paths => ∃ items, v.HasItems items ∧
        items.map (Value.toText (rooms.value .importPaths)) = paths.map .ok) paths :=
  reading_eq_ok_iff fun _ hv => importsOf_eq_ok_iff (h.of_given hv)

theorem timeoutField_eq_ok_iff {x : Double} : timeoutField e = .ok x ↔
    Takes e .downloadTimeout (.ofNat 30) (fun v x => v.toDouble = .ok x) x :=
  reading_eq_ok_iff fun _ _ => timeoutOf_eq_ok_iff

theorem enabledField_eq_iff {b : Bool} : enabledField e = b ↔
    Takes e .downloadEnabled true (fun v b => v.isTrue = b) b := by
  unfold enabledField Takes
  rcases given? e .downloadEnabled with _ | v
  · exact eq_comm
  · exact Iff.rfl

/-! ## All fields -/

theorem gives_iff_fills (h : IsPlain e) : Gives rooms e c ↔ Fills rooms e c := by
  constructor
  · intro hc
    exact {
      serverPath := textField_eq_ok_iff.mp hc.serverPath
      policy := (policyField_eq_ok_iff h).mp hc.policy
      compilerPath := textField_eq_ok_iff.mp hc.compilerPath
      importPaths := (importsField_eq_ok_iff h).mp hc.importPaths
      extraEnv := (environmentField_eq_ok_iff h).mp hc.extraEnv
      serverVersion := textField_eq_ok_iff.mp hc.serverVersion
      downloadEnabled := enabledField_eq_iff.mp hc.downloadEnabled
      downloadTimeout := timeoutField_eq_ok_iff.mp hc.downloadTimeout }
  · intro hc
    exact {
      serverPath := textField_eq_ok_iff.mpr hc.serverPath
      policy := (policyField_eq_ok_iff h).mpr hc.policy
      compilerPath := textField_eq_ok_iff.mpr hc.compilerPath
      importPaths := (importsField_eq_ok_iff h).mpr hc.importPaths
      extraEnv := (environmentField_eq_ok_iff h).mpr hc.extraEnv
      serverVersion := textField_eq_ok_iff.mpr hc.serverVersion
      downloadEnabled := enabledField_eq_iff.mpr hc.downloadEnabled
      downloadTimeout := timeoutField_eq_ok_iff.mpr hc.downloadTimeout }

/-! ## Objections -/

theorem environmentField_objects_iff (h : IsPlain e) :
    environmentField e = .error fault ↔ Objects rooms e .extraEnv fault := by
  rw [environmentField_eq, reading_eq_error_iff]
  constructor
  · rintro ⟨v, hv, herror⟩
    obtain ⟨hkind, rfl⟩ := (environmentOf_eq_error_iff (h.of_given hv)).mp herror
    exact .environment hv hkind
  · intro hobjects
    cases hobjects with
    | environment hv hkind =>
      exact ⟨_, hv, (environmentOf_eq_error_iff (h.of_given hv)).mpr ⟨hkind, rfl⟩⟩
    | text _ _ hfield => exact absurd hfield (by decide)

theorem policyField_objects_iff (h : IsPlain e) :
    policyField rooms e = .error fault ↔ Objects rooms e .policy fault := by
  rw [policyField_eq rooms h, reading_eq_error_iff]
  simp only [policyOf_eq_error_iff]
  constructor
  · rintro ⟨v, hv, ⟨issue, hissue, rfl⟩ | ⟨s, hs, hunknown, rfl⟩⟩
    · exact .text hv ((h.of_given hv).toText_eq_error_iff.mp hissue) (by decide)
    · exact .policy hv hs hunknown
  · intro hobjects
    cases hobjects with
    | policy hv hs hunknown => exact ⟨_, hv, .inr ⟨_, hs, hunknown, rfl⟩⟩
    | text hv hlacks =>
      exact ⟨_, hv, .inl ⟨_, (h.of_given hv).toText_eq_error_iff.mpr hlacks, rfl⟩⟩

theorem textField_objects_iff (h : IsPlain e) {standard : String}
    (hfield : field ∈ [.serverPath, .compilerPath, .serverVersion]) :
    textField rooms e field standard = .error fault ↔ Objects rooms e field fault := by
  rw [textField_eq, reading_eq_error_iff]
  simp only [textOf_eq_error_iff]
  constructor
  · rintro ⟨v, hv, issue, hissue, rfl⟩
    have hlacks := (h.of_given hv).toText_eq_error_iff.mp hissue
    exact .text hv hlacks (List.mem_cons_of_mem _ hfield)
  · intro hobjects
    cases hobjects with
    | text hv hlacks => exact ⟨_, hv, _, (h.of_given hv).toText_eq_error_iff.mpr hlacks, rfl⟩
    | _ => exact absurd hfield (by decide)

theorem importsField_objects_iff (h : IsPlain e) :
    importsField rooms e = .error fault ↔ Objects rooms e .importPaths fault := by
  rw [importsField_eq, reading_eq_error_iff]
  constructor
  · rintro ⟨v, hv, herror⟩
    have hnull := (given?_eq_some_iff.mp hv).2.1
    rcases (importsOf_eq_error_iff (h.of_given hv) hnull).mp herror with
      ⟨hkind, rfl⟩ | ⟨items, hitems, issue, hlacks, rfl⟩
    · exact .imports hv hkind
    · exact .import hv hitems hlacks
  · intro hobjects
    cases hobjects with
    | imports hv hkind =>
      have hnull := (given?_eq_some_iff.mp hv).2.1
      exact ⟨_, hv, (importsOf_eq_error_iff (h.of_given hv) hnull).mpr (.inl ⟨hkind, rfl⟩)⟩
    | «import» hv hitems hlacks =>
      have hnull := (given?_eq_some_iff.mp hv).2.1
      exact ⟨_, hv, (importsOf_eq_error_iff (h.of_given hv) hnull).mpr
        (.inr ⟨_, hitems, _, hlacks, rfl⟩)⟩
    | text _ _ hfield => exact absurd hfield (by decide)

theorem timeoutField_objects_iff (h : IsPlain e) :
    timeoutField e = .error fault ↔ Objects rooms e .downloadTimeout fault := by
  rw [timeoutField_eq, reading_eq_error_iff]
  constructor
  · rintro ⟨v, hv, herror⟩
    obtain ⟨issue, hno, rfl⟩ := (timeoutOf_eq_error_iff (h.of_given hv)).mp herror
    exact .timeout hv hno
  · intro hobjects
    cases hobjects with
    | timeout hv hno =>
      exact ⟨_, hv, (timeoutOf_eq_error_iff (h.of_given hv)).mpr ⟨_, hno, rfl⟩⟩
    | text _ _ hfield => exact absurd hfield (by decide)

theorem objection?_eq_some_iff (h : IsPlain e) :
    objection? rooms e field = some fault ↔ Objects rooms e field fault := by
  cases field with
  | extraEnv => exact errorOf?_eq_some_iff.trans (environmentField_objects_iff h)
  | policy => exact errorOf?_eq_some_iff.trans (policyField_objects_iff h)
  | serverPath => exact errorOf?_eq_some_iff.trans (textField_objects_iff h (by decide))
  | compilerPath => exact errorOf?_eq_some_iff.trans (textField_objects_iff h (by decide))
  | importPaths => exact errorOf?_eq_some_iff.trans (importsField_objects_iff h)
  | serverVersion => exact errorOf?_eq_some_iff.trans (textField_objects_iff h (by decide))
  | downloadEnabled =>
    refine iff_of_false nofun fun hobjects => ?_
    cases hobjects with
    | text _ _ hfield => exact absurd hfield (by decide)
  | downloadTimeout => exact errorOf?_eq_some_iff.trans (timeoutField_objects_iff h)

/-- The first field that objects to its value decides the fault. -/
theorem ofEffective_eq_error_iff (h : IsPlain e) :
    ofEffective rooms e = .error fault ↔ FirstOf (Objects rooms e) readingOrder fault := by
  rw [← errorOf?_eq_some_iff, errorOf?_ofEffective]
  exact findSome?_eq_some_iff_firstOf fun field _ fault => objection?_eq_some_iff h

/-! ## Reading -/

/-- Texts have an order. -/
theorem IsPlain.exists_unknownKeys (h : IsPlain e) : ∃ keys, unknownKeys e = .ok keys := by
  have htexts : ∀ key ∈ listed e, key.family? = some .texts := by
    intro key hkey
    have hmem := List.mem_of_mem_filter ((listed_perm e).subset hkey)
    obtain ⟨entry, hentry, rfl⟩ := List.mem_map.mp hmem
    obtain ⟨s, hs⟩ := (h entry hentry).1
    rw [hs]
    rfl
  obtain ⟨keys, hkeys⟩ := Value.exists_sort_of_family (by decide) htexts
  exact ⟨keys, unknownKeys_eq_ok.mpr hkeys⟩

/-- The keys of the section for an editor's settings, if there is one, are texts. -/
def HasTextSection (entries : Entries) : Prop :=
  ∀ section_, Value.lookup entries (.text sectionKey) = some (.mapping section_) →
    ∀ entry ∈ section_, ∃ s, entry.1 = .text s

theorem Counts.isPlain (he : Counts entries e) (h : IsPlain entries)
    (hsection : HasTextSection entries) : IsPlain e := by
  cases he with
  | flat => exact h
  | @inSection section_ hlookup =>
    have hplain := h.of_lookup hlookup
    cases hplain with
    | mapping _ _ hvalues =>
      exact IsPlain.renameAll fun entry hentry =>
        ⟨hsection section_ hlookup entry hentry, hvalues entry hentry⟩
  | empty => exact nofun

/-- The keys that are ignored do no harm. -/
theorem IsPlain.read_fst (h : IsPlain entries) (hsection : HasTextSection entries) :
    (read rooms entries).1 = effective entries >>= ofEffective rooms := by
  unfold read
  rcases heffective : effective entries with fault | e
  · rfl
  · have hplain := ((effective_eq_ok_iff h).mp heffective).isPlain h hsection
    obtain ⟨keys, hkeys⟩ := hplain.exists_unknownKeys
    simp only [hkeys]
    rfl

/-- How reading a mapping of plain values fails. -/
inductive Refuses (rooms : Rooms) (entries : Entries) : Fault → Prop where
  /-- In the place of the section is something else that is true as a condition. -/
  | noSection {value : Value} (hvalue : Value.lookup entries (.text sectionKey) = some value)
      (htrue : value.isTrue = true) (hkind : value.kind ≠ .mapping) :
      Refuses rooms entries (.noEntries value.kind)
  /-- A field objects to its value, and no field that is read earlier does. -/
  | field {e : Entries} {fault : Fault} (he : Counts entries e)
      (hobjects : FirstOf (Objects rooms e) readingOrder fault) : Refuses rooms entries fault

/-- A mapping of plain values with texts as keys is refused in exactly the ways that are listed, and
otherwise the fields are filled from the entries that count.  In a section the last of the entries
that name one field is the one that counts. -/
theorem read_plain (rooms : Rooms) (h : IsPlain entries) (hsection : HasTextSection entries) :
    (∀ fault, (read rooms entries).1 = .error fault ↔ Refuses rooms entries fault) ∧
    (∀ c, (read rooms entries).1 = .ok c ↔ ∃ e, Counts entries e ∧ Fills rooms e c) ∧
    ∀ (section_ : Entries) (s : String), Value.lookup (renameAll section_) (.text s) =
      (section_.reverse.find? fun entry => (renamed entry.1).same (.text s)).map (·.2) := by
  refine ⟨fun fault => ?_, fun c => ?_, lookup_renameAll⟩
  · rw [h.read_fst hsection, bind_eq_error_iff, effective_eq_error_iff h]
    simp only [effective_eq_ok_iff h]
    constructor
    · rintro (⟨value, hvalue, htrue, hkind, rfl⟩ | ⟨e, he, hfault⟩)
      · exact .noSection hvalue htrue hkind
      · exact .field he ((ofEffective_eq_error_iff (he.isPlain h hsection)).mp hfault)
    · rintro (⟨hvalue, htrue, hkind⟩ | ⟨he, hobjects⟩)
      · exact .inl ⟨_, hvalue, htrue, hkind, rfl⟩
      · exact .inr ⟨_, he, (ofEffective_eq_error_iff (he.isPlain h hsection)).mpr hobjects⟩
  · rw [h.read_fst hsection, bind_eq_ok_iff]
    simp only [effective_eq_ok_iff h]
    refine exists_congr fun e => and_congr_right fun he => ?_
    rw [ofEffective_eq_ok_iff, gives_iff_fills (he.isPlain h hsection)]

/-- A section that names the path of the server twice, with a value for the import paths. -/
def plainEntries (imports : Value) : Entries :=
  [(.text sectionKey, .mapping [(.text "languageServer.path", .text "/s"),
    (.text "compiler.importPaths", imports), (.text "server_path", .list [.null])])]

theorem plainEntries_isPlain {imports : Value} (h : imports.IsPlain) :
    IsPlain (plainEntries imports) ∧ HasTextSection (plainEntries imports) := by
  constructor
  · refine List.forall_mem_singleton.mpr ⟨⟨_, rfl⟩, .mapping _ ?_ ?_⟩
    · simpa using ⟨.text _, .text _, .text _⟩
    · simpa using ⟨.text _, h, .list _ (List.forall_mem_singleton.mpr .null)⟩
  · rintro section_ ⟨⟩
    simp

/-- The keys of a mapping are import paths; a truth value is refused. -/
theorem read_plain_twice :
    (∃ e, Counts (plainEntries (.mapping [(.text "/i", .null)])) e ∧
      Fills .usual e { serverPath := "[None]", importPaths := ["/i"] }) ∧
    Refuses .usual (plainEntries (.truth true)) (.noItems .truth) := by
  have hpaths : (Value.mapping [(.text "/i", .null)]).IsPlain :=
    .mapping _ (List.forall_mem_singleton.mpr (.text _)) (List.forall_mem_singleton.mpr .null)
  obtain ⟨hplain, hsection⟩ := plainEntries_isPlain hpaths
  obtain ⟨hplain', hsection'⟩ := plainEntries_isPlain (.truth true)
  exact ⟨((read_plain .usual hplain hsection).2.1 _).mp rfl,
    ((read_plain .usual hplain' hsection').1 _).mp rfl⟩

/-- A mapping that gives nothing but the path of the server. -/
def pathEntries (v : Value) : Entries := [(.text Field.serverPath.name, v)]

theorem given?_pathEntries (hfield : field ≠ .serverPath) :
    given? (pathEntries v) field = none := by
  have hnone : Value.lookup (pathEntries v) (.text field.name) = none :=
    Value.lookup_text_eq_none_iff.mpr (List.forall_mem_singleton.mpr fun hname =>
      hfield (Field.name_injective (Value.text.inj hname)).symm)
  rw [given?, hnone]

/-- A path without a text is refused, though no other field is given and there is no section. -/
theorem read_pathEntries {issue : Value.TextIssue} (h : v.IsPlain)
    (hlacks : v.LacksText (rooms.value .serverPath) issue) (hnull : v ≠ .null)
    (hempty : v ≠ .text "") :
    (read rooms (pathEntries v)).1 = .error (.unwritable issue) := by
  have hplain : IsPlain (pathEntries v) := List.forall_mem_singleton.mpr ⟨⟨_, rfl⟩, h⟩
  have hnone : Value.lookup (pathEntries v) (.text sectionKey) = none := rfl
  rw [hplain.read_fst fun _ h => nomatch hnone.symm.trans h, effective_of_flat hnone]
  refine (ofEffective_eq_error_iff hplain).mpr ⟨[.extraEnv, .policy], .serverPath, _, rfl,
    .text (given?_of_lookup rfl hnull hempty) hlacks (by decide), ?_⟩
  intro earlier hearlier fault' hobjects
  have hother : earlier ≠ .serverPath := by
    rintro rfl
    exact absurd hearlier (by decide)
  exact hobjects.given_ne_none (given?_pathEntries hother)

/-- An integer with more digits than can be written. -/
def longInteger : Int := (16 ^ 3572 : Nat)

/-- A list in a list, and so on, for a number of levels. -/
def nested : Nat → Value
  | 0 => .null
  | n + 1 => .list [nested n]

theorem nested_isPlain (n : Nat) : (nested n).IsPlain := by
  induction n with
  | zero => exact .null
  | succ n ih => exact .list _ (List.forall_mem_singleton.mpr ih)

theorem findSome?_partsAt_nested (room n depth : Nat) :
    (Value.partsAt depth (nested n)).findSome? (Value.obstruction? room) =
      if room < depth + n then some .tooDeep else none := by
  induction n generalizing depth with
  | zero => exact List.findSome?_singleton
  | succ n ih =>
    rw [nested, Value.partsAt, Value.partsOfItems, Value.partsOfItems, List.append_nil,
      List.findSome?_cons, ih, Nat.add_right_comm, Nat.add_assoc, Value.obstruction?]
    by_cases hdeep : room < depth
    · rw [if_pos hdeep, if_pos (hdeep.trans_le (Nat.le_add_right depth (n + 1)))]
    · rw [if_neg hdeep]
      rfl

/-- Where there is less room than there are levels a nested list has no text. -/
theorem nested_lacksText {n : Nat} (h : room < n) : (nested n).LacksText room .tooDeep := by
  rw [Value.lacksText_iff, Value.parts, findSome?_partsAt_nested, Nat.zero_add, if_pos h]

/-- A path with too many digits, and one that is nested too deep, are refused, though nothing else
is given. -/
theorem read_plain_long :
    (∀ v ∈ [.integer longInteger, nested 1000], IsPlain (pathEntries v) ∧
      Value.lookup (pathEntries v) (.text sectionKey) = none ∧
      ∀ field, field ≠ .serverPath → given? (pathEntries v) field = none) ∧
    (read .usual (pathEntries (.integer longInteger))).1 = .error (.unwritable .tooLong) ∧
    (read .usual (pathEntries (nested 1000))).1 = .error (.unwritable .tooDeep) := by
  have hlong : (Value.integer longInteger).LacksText 900 .tooLong :=
    ⟨[], _, [], rfl, .tooLong (Nat.zero_le _) (by decide +kernel), nofun⟩
  have hdeep : (nested 1000).LacksText 900 .tooDeep := nested_lacksText (by decide)
  refine ⟨fun v hv => ?_, read_pathEntries (.integer _) hlong nofun nofun,
    read_pathEntries (nested_isPlain 1000) hdeep nofun nofun⟩
  have hplain : v.IsPlain := by
    simp only [List.mem_cons, List.not_mem_nil, or_false] at hv
    rcases hv with rfl | rfl
    · exact .integer _
    · exact nested_isPlain 1000
  exact ⟨List.forall_mem_singleton.mpr ⟨⟨_, rfl⟩, hplain⟩, rfl, fun _ => given?_pathEntries⟩

end Config

end ServerLauncher
