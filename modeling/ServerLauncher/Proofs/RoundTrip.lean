import ServerLauncher.Proofs.Layouts
import ServerLauncher.Proofs.Loading

/-!
# Writing a configuration back

The fields of a configuration that has been read can be written back into a mapping, in either
layout and in any order.  What is read from that is the same configuration, and no key is ignored.

A field whose value is the empty text takes its default.  That does no harm, because the only
default which is another text is the version, and the version is never empty: every value but the
empty text has a text that is not empty.

## Main definitions

* `Config.Gives`: some entries give the fields of a configuration.
* `Config.written`: the values of the fields.
* `Config.entriesFor`: the entries of a mapping with them.

## Main statements

* `Value.toText_ne_empty`: only the empty text has an empty text.
* `Config.gives_of_written`: such entries give the fields as they were written.
* `Config.read_written`: a configuration that is written back is read again.
-/

namespace ServerLauncher

/-! ## Texts that are not empty -/

namespace NumberFormat

theorem positional_ne_nil (format : NumberFormat) (d : Decimal) : format.positional d ≠ [] := by
  have hdigits : digits d.digits ≠ [] := Nat.toDigits_ne_nil
  unfold positional
  dsimp only
  split
  · simp [hdigits]
  · split
    · simp
    · simp

theorem scientific_ne_nil (d : Decimal) (leading : Int) : scientific d leading ≠ [] := by
  unfold scientific
  split
  next hnil => exact absurd hnil Nat.toDigits_ne_nil
  next => exact List.cons_ne_nil _ _

theorem layout_ne_nil (format : NumberFormat) (d : Decimal) : format.layout d ≠ [] := by
  unfold layout
  dsimp only
  split
  · exact positional_ne_nil format d
  · exact scientific_ne_nil d _

theorem render_ne_empty (format : NumberFormat) (select : Nat → Decimal) (x : Double) :
    format.render select x ≠ "" := by
  unfold render
  split
  · decide
  · split
    · decide
    · decide
  · rw [ne_eq, String.ofList_eq_empty_iff]
    split
    · exact List.cons_ne_nil _ _
    · split
      · exact List.cons_ne_nil _ _
      · exact layout_ne_nil format _

end NumberFormat

namespace Text

theorem quoted_ne_empty (s : String) : quoted s ≠ "" := by
  rw [quoted, ne_eq, String.ofList_eq_empty_iff]
  exact List.cons_ne_nil _ _

theorem quotedBytes_ne_empty (bytes : List UInt8) : quotedBytes bytes ≠ "" := by
  rw [quotedBytes, ne_eq, String.ofList_eq_empty_iff]
  exact List.cons_ne_nil _ _

end Text

theorem Date.text_ne_empty (d : Date) : d.text ≠ "" := by
  simp [Date.text]

theorem Date.shown_ne_empty (d : Date) : d.shown ≠ "" := by
  simp [Date.shown]

theorem Moment.text_ne_empty (m : Moment) : m.text ≠ "" := by
  simp [Moment.text]

theorem Moment.shown_ne_empty (m : Moment) : m.shown ≠ "" := by
  unfold Moment.shown
  simp only [ne_eq, String.append_eq_empty_iff, String.reduceEq, false_and, not_false_eq_true]

theorem Policy.label_ne_empty (p : Policy) : p.label ≠ "" := by
  cases p <;> decide

namespace Value

variable {s : String}

theorem integerText_ne_empty {n : Int} (h : integerText n = .ok s) : s ≠ "" := by
  unfold integerText at h
  split at h
  · cases h
  · cases h
    cases n with
    | ofNat n => exact Nat.repr_ne_empty
    | negSucc n => simp [toString, Int.repr]

theorem truthText_ne_empty (b : Bool) : truthText b ≠ "" := by
  cases b <;> decide

theorem bracketed_ne_empty {opening : String} (h : opening ≠ "") (closing : String)
    (parts : List String) : bracketed opening closing parts ≠ "" := by
  simp [bracketed, h]

theorem mark_ne_empty (kind : Kind) : mark kind ≠ "" := by
  cases kind <;> decide

/-- Every value is shown as something. -/
theorem shownIn_ne_empty (inside : List Nat) (room : Nat) (v : Value)
    (h : shownIn inside room v = .ok s) : s ≠ "" := by
  cases v with
  | null =>
    cases h
    decide
  | truth b => exact Except.ok.inj h ▸ truthText_ne_empty b
  | integer n => exact integerText_ne_empty h
  | real x => exact Except.ok.inj h ▸ NumberFormat.render_ne_empty _ _ x
  | text t => exact Except.ok.inj h ▸ Text.quoted_ne_empty t
  | date d => exact Except.ok.inj h ▸ d.shown_ne_empty
  | moment m => exact Except.ok.inj h ▸ m.shown_ne_empty
  | list items =>
    obtain ⟨parts, -, rfl⟩ := map_eq_ok_iff.mp h
    exact bracketed_ne_empty (by decide) _ parts
  | tuple items =>
    obtain ⟨parts, -, rfl⟩ := map_eq_ok_iff.mp h
    exact bracketed_ne_empty (by decide) _ parts
  | mapping entries =>
    obtain ⟨parts, -, rfl⟩ := map_eq_ok_iff.mp h
    exact bracketed_ne_empty (by decide) _ _
  | ordered entries =>
    obtain ⟨parts, -, rfl⟩ := map_eq_ok_iff.mp h
    split
    · decide
    · exact bracketed_ne_empty (by decide) _ _
  | bytes content => exact Except.ok.inj h ▸ Text.quotedBytes_ne_empty content
  | set items =>
    obtain ⟨parts, -, rfl⟩ := map_eq_ok_iff.mp h
    split
    · decide
    · exact bracketed_ne_empty (by decide) _ _
  | policy p =>
    rw [← Except.ok.inj h]
    simp
  | knot label content =>
    rw [shownIn] at h
    split at h
    · exact Except.ok.inj h ▸ mark_ne_empty content.kind
    · exact shownIn_ne_empty (label :: inside) room content h
  | again label kind => exact Except.ok.inj h ▸ mark_ne_empty kind

/-- Only the empty text has an empty text. -/
theorem toText_ne_empty {v : Value} {room : Nat} (hv : v ≠ .text "") (h : v.toText room = .ok s) :
    s ≠ "" := by
  unfold toText at h
  split at h
  next t => exact Except.ok.inj h ▸ fun heq => hv (congrArg Value.text heq)
  next d => exact Except.ok.inj h ▸ d.text_ne_empty
  next m => exact Except.ok.inj h ▸ m.text_ne_empty
  next p => exact Except.ok.inj h ▸ p.label_ne_empty
  next => exact shownIn_ne_empty [] room v h

end Value

theorem Policy.ofText?_text (p : Policy) : ofText? p.text = some p := by
  cases p <;> decide +kernel

theorem Policy.text_ne_empty (p : Policy) : p.text ≠ "" := by
  cases p <;> decide

namespace Config

variable {entries e es top : Entries} {c : Config} {field : Field} {key : Field → String}
  {value : Field → Value} {p : Value} {s : String} {rooms : Rooms}

/-! ## The version is not empty -/

theorem given?_ne_text_empty {v : Value} (h : given? entries field = some v) : v ≠ .text "" := by
  unfold given? at h
  rintro rfl
  split at h
  · cases h
  · cases h
  next t _ =>
    split at h
    · cases h
    next hempty =>
      cases h
      exact hempty rfl
  next hother _ =>
    cases h
    exact hother "" rfl

theorem textField_ne_empty {standard : String} (hstandard : standard ≠ "")
    (h : textField rooms entries field standard = .ok s) : s ≠ "" := by
  unfold textField at h
  split at h
  · cases h
    exact hstandard
  next v hv =>
    unfold textOf at h
    split at h
    next t ht =>
      cases h
      exact Value.toText_ne_empty (given?_ne_text_empty hv) ht
    next => cases h

/-! ## What the entries give -/

/-- Some entries give the fields of a configuration. -/
structure Gives (rooms : Rooms) (e : Entries) (c : Config) : Prop where
  extraEnv : environmentField e = .ok c.extraEnv
  policy : policyField rooms e = .ok c.policy
  serverPath : textField rooms e .serverPath "" = .ok c.serverPath
  compilerPath : textField rooms e .compilerPath "" = .ok c.compilerPath
  importPaths : importsField rooms e = .ok c.importPaths
  serverVersion : textField rooms e .serverVersion "v0.0.1" = .ok c.serverVersion
  downloadTimeout : timeoutField e = .ok c.downloadTimeout
  downloadEnabled : enabledField e = c.downloadEnabled

theorem ofEffective_eq_ok_iff : ofEffective rooms e = .ok c ↔ Gives rooms e c := by
  unfold ofEffective
  simp only [bind_eq_ok_iff, pure, Except.pure, Except.ok.injEq]
  constructor
  · rintro ⟨_, hextra, _, hpolicy, _, hpath, _, hcompiler, _, himports, _, hversion, _, htimeout,
      rfl⟩
    exact ⟨hextra, hpolicy, hpath, hcompiler, himports, hversion, htimeout, rfl⟩
  · intro h
    exact ⟨_, h.extraEnv, _, h.policy, _, h.serverPath, _, h.compilerPath, _, h.importPaths, _,
      h.serverVersion, _, h.downloadTimeout, by rw [h.downloadEnabled]⟩

/-- A configuration that is read comes from the entries that count. -/
theorem exists_gives (h : (read rooms entries).1 = .ok c) : ∃ e, Gives rooms e c := by
  unfold read at h
  split at h
  next => cases h
  next e _ =>
    split at h
    next => cases h
    next => exact ⟨e, ofEffective_eq_ok_iff.mp h⟩

theorem Gives.serverVersion_ne_empty (h : Gives rooms e c) : c.serverVersion ≠ "" :=
  textField_ne_empty (by decide) h.serverVersion

/-! ## Writing the fields -/

/-- The values of the fields of a configuration, with a value for the policy. -/
def written (c : Config) (policy : Value) : Field → Value
  | .serverPath => .text c.serverPath
  | .policy => policy
  | .compilerPath => .text c.compilerPath
  | .importPaths => .list (c.importPaths.map .text)
  | .extraEnv => .mapping c.extraEnv
  | .serverVersion => .text c.serverVersion
  | .downloadEnabled => .truth c.downloadEnabled
  | .downloadTimeout => .real c.downloadTimeout

/-- The entries of a mapping that gives each field, under its key, a value. -/
def entriesFor (key : Field → String) (value : Field → Value) : Entries :=
  Field.all.map fun field => (.text (key field), value field)

theorem mem_entriesFor (field : Field) : (.text (key field), value field) ∈ entriesFor key value :=
  List.mem_map_of_mem (Field.mem_all field)

theorem exists_of_mem {entry : Value × Value} (h : es.Perm (entriesFor key value))
    (hentry : entry ∈ es) : ∃ field, entry = (.text (key field), value field) := by
  obtain ⟨field, -, rfl⟩ := List.mem_map.mp (h.mem_iff.mp hentry)
  exact ⟨field, rfl⟩

/-- Each field has its value, in whatever order they are written. -/
theorem lookup_of_perm (hkey : key.Injective) (h : es.Perm (entriesFor key value)) (field : Field) :
    Value.lookup es (.text (key field)) = some (value field) := by
  unfold Value.lookup
  rcases hfind : es.find? (fun entry => entry.1.same (.text (key field))) with _ | entry
  · have hmem := h.mem_iff.mpr (mem_entriesFor field)
    exact absurd (Value.same_text_iff.mpr rfl) (List.find?_eq_none.mp hfind _ hmem)
  · have hsame := List.find?_some hfind
    obtain ⟨field', rfl⟩ := exists_of_mem h (List.mem_of_find?_eq_some hfind)
    rw [Value.same_text_iff, Value.text.injEq] at hsame
    rw [hfind, hkey hsame]
    rfl

/-- Different fields have different keys. -/
theorem hasDifferentKeys_of_perm (hkey : key.Injective) (h : es.Perm (entriesFor key value)) :
    HasDifferentKeys es := by
  have hfields : Field.all.Nodup := by decide
  have hnodup : (es.map (·.1)).Nodup := by
    rw [(h.map (·.1)).nodup_iff, entriesFor, List.map_map]
    exact List.pairwise_map.mpr (hfields.imp fun hne heq => hne (hkey (Value.text.inj heq)))
  refine (List.pairwise_map.mp hnodup).imp_of_mem fun hentry _ hne => ?_
  obtain ⟨field, rfl⟩ := exists_of_mem h hentry
  rw [← Bool.not_eq_true, Value.text_same_iff]
  exact fun heq => hne heq.symm

/-- A section with the keys of an editor counts as the mapping with the names of the fields. -/
theorem renameAll_of_perm (h : es.Perm (entriesFor Field.editorKey value)) :
    (renameAll es).Perm (entriesFor Field.name value) := by
  have hnames : (es.map fun entry => (renamed entry.1, entry.2)).Perm
      (entriesFor Field.name value) := by
    refine (h.map _).trans (.of_eq ?_)
    rw [entriesFor, List.map_map]
    exact List.map_congr_left fun field _ => Prod.ext (renamed_editorKey field) rfl
  rw [renameAll, (hasDifferentKeys_of_perm Field.name_injective hnames).entriesOf_eq]
  exact hnames

/-- Where every key is the name of a field none is ignored. -/
theorem unknownKeys_of_known (h : ∀ entry ∈ e, isKnown entry.1 = true) :
    unknownKeys e = .ok [] := by
  have hnone : unknown e = [] := by
    refine List.filter_eq_nil_iff.mpr fun key hkey => ?_
    obtain ⟨entry, hentry, rfl⟩ := List.mem_map.mp hkey
    rw [h entry hentry]
    decide
  have hlisted : listed e = [] := List.perm_nil.mp (hnone ▸ listed_perm e)
  rw [unknownKeys_eq_ok, hlisted]
  rfl

/-! ## Reading the fields -/

theorem given?_of_lookup {v : Value} (h : Value.lookup e (.text field.name) = some v)
    (hnull : v ≠ .null) (hempty : v ≠ .text "") : given? e field = some v := by
  unfold given?
  rw [h]
  split
  next heq => cases heq
  next heq => exact absurd (Option.some.inj heq) hnull
  next t heq =>
    cases heq
    rw [if_neg fun ht => hempty (congrArg Value.text (String.isEmpty_iff.mp ht))]
  next v' _ _ heq => rw [Option.some.inj heq]

/-- The empty text is read where it is the default. -/
theorem textField_of_text {standard : String} (hstandard : s = "" → standard = "")
    (h : Value.lookup e (.text field.name) = some (.text s)) :
    textField rooms e field standard = .ok s := by
  unfold textField
  by_cases hs : s = ""
  · subst hs
    have hgiven : given? e field = none := by
      rw [given?, h]
      rfl
    rw [hgiven, hstandard rfl]
  · rw [given?_of_lookup h nofun fun heq => hs (Value.text.inj heq)]
    rfl

theorem mapM_textOf_texts (room : Nat) (paths : List String) :
    (paths.map Value.text).mapM (textOf room) = .ok paths := by
  induction paths with
  | nil => rfl
  | cons path paths ih =>
    rw [List.map_cons, List.mapM_cons, ih]
    rfl

theorem policyField_of_lookup {policy : Policy}
    (hp : p = .policy policy ∨ p = .text policy.text)
    (h : Value.lookup e (.text Field.policy.name) = some p) : policyField rooms e = .ok policy := by
  unfold policyField
  rcases hp with rfl | rfl
  · rw [given?_of_lookup h nofun nofun]
  · rw [given?_of_lookup h nofun fun heq => policy.text_ne_empty (Value.text.inj heq)]
    change policyOfText policy.text = _
    rw [policyOfText, policy.ofText?_text]

/-- The fields of a configuration are read as they are written, provided that the version is not
empty. -/
theorem gives_of_written (hp : p = .policy c.policy ∨ p = .text c.policy.text)
    (hversion : c.serverVersion ≠ "") (h : es.Perm (entriesFor Field.name (c.written p))) :
    Gives rooms es c := by
  have hlookup := lookup_of_perm Field.name_injective h
  have hgiven : ∀ field : Field, c.written p field ≠ .null → c.written p field ≠ .text "" →
      given? es field = some (c.written p field) := fun field =>
    given?_of_lookup (hlookup field)
  refine ⟨?_, policyField_of_lookup hp (hlookup .policy), ?_, ?_, ?_, ?_, ?_, ?_⟩
  · rw [environmentField, hgiven .extraEnv nofun nofun]
    rfl
  · exact textField_of_text (fun _ => rfl) (hlookup .serverPath)
  · exact textField_of_text (fun _ => rfl) (hlookup .compilerPath)
  · rw [importsField, hgiven .importPaths nofun nofun]
    exact mapM_textOf_texts _ c.importPaths
  · exact textField_of_text (fun hempty => absurd hempty hversion) (hlookup .serverVersion)
  · rw [timeoutField, hgiven .downloadTimeout nofun nofun]
    rfl
  · rw [enabledField, hgiven .downloadEnabled nofun nofun]
    rfl

/-- Nothing but the fields of a configuration is read, and no warning is given. -/
theorem read_of_perm (heffective : effective top = .ok es)
    (hp : p = .policy c.policy ∨ p = .text c.policy.text) (hversion : c.serverVersion ≠ "")
    (h : es.Perm (entriesFor Field.name (c.written p))) : read rooms top = (.ok c, []) := by
  have hknown : unknownKeys es = .ok [] := by
    refine unknownKeys_of_known fun entry hentry => ?_
    obtain ⟨field, rfl⟩ := exists_of_mem h hentry
    rw [isKnown, Field.ofName?_name]
    rfl
  unfold read
  simp only [heffective, hknown, ofEffective_eq_ok_iff.mpr (gives_of_written hp hversion h)]
  rfl

/-- A configuration that has been read is read again from its fields, with the policy as it is or
by its name: from a mapping with their names and from a section with the keys of an editor, each in
any order, and without a warning.  However little room there is then, no nested value has to be
written as a text. -/
theorem read_written (h : (read rooms entries).1 = .ok c)
    (hp : p = .policy c.policy ∨ p = .text c.policy.text) (again : Rooms) :
    (∀ es : Entries, es.Perm (entriesFor Field.name (c.written p)) →
        read again es = (.ok c, [])) ∧
      ∀ (es top : Entries) (whole : Value), es.Perm (entriesFor Field.editorKey (c.written p)) →
        Value.lookup top (.text sectionKey) = some whole → whole.entries? = some es →
        read again top = (.ok c, []) := by
  obtain ⟨e, hgives⟩ := exists_gives h
  have hversion := hgives.serverVersion_ne_empty
  constructor
  · intro es hes
    refine read_of_perm (effective_of_flat ?_) hp hversion hes
    rw [Value.lookup_text_eq_none_iff]
    intro entry hentry
    obtain ⟨field, rfl⟩ := exists_of_mem hes hentry
    exact fun heq => field.name_ne_sectionKey (Value.text.inj heq)
  · intro es top whole hes hwhole hentries
    have heffective := effective_of_section hwhole hentries
    exact read_of_perm heffective hp hversion (renameAll_of_perm hes)

/-- Entries whose values are of other kinds than those of the fields. -/
def looseEntries : Entries :=
  [(.text "server_path_policy", .text "FallBack"), (.text "import_paths", .text "/include"),
   (.text "extra_env", .mapping [(.integer 1, .null)]), (.text "download_enabled", .list []),
   (.text "server_version", .date ⟨2024, 1, 2⟩), (.text "download_timeout", .text "nan")]

/-- The configuration that they give. -/
def looseConfig : Config where
  policy := .fallback
  importPaths := ["/include"]
  extraEnv := [(.integer 1, .null)]
  serverVersion := "2024-01-02"
  downloadEnabled := false
  downloadTimeout := .nan

theorem read_written_loose :
    (read .usual looseEntries).1 = .ok looseConfig ∧
    read .usual (entriesFor Field.name (looseConfig.written (.text "fallback"))).reverse =
      (.ok looseConfig, []) ∧
    read .usual [(.text sectionKey,
        .mapping (entriesFor Field.editorKey (looseConfig.written (.policy .fallback))).reverse)] =
      (.ok looseConfig, []) := by
  have h : (read .usual looseEntries).1 = .ok looseConfig := by rfl
  refine ⟨h, ?_, ?_⟩
  · exact (read_written h (.inr rfl) _).1 _ (List.reverse_perm _)
  · exact (read_written h (.inl rfl) _).2 _ _ (.mapping _) (List.reverse_perm _) rfl rfl

end Config

end ServerLauncher
