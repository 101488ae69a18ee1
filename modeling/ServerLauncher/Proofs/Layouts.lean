import ServerLauncher.Config.Basic

/-!
# Two layouts of a configuration

A mapping gives the fields of a configuration by their names, or it has a section in which they
stand under the keys of an editor.  The keys of an editor and the names of the fields correspond one
to one, so that a mapping can be turned into such a section; both of them give the same
configuration, with the same warning or the same fault.

## Main definitions

* `Config.HasDifferentKeys`: no two entries have one key.
* `Config.inEditorKeys`: entries with the keys of an editor in place of the names of fields.

## Main statements

* `Config.renameAll_inEditorKeys`: renaming the keys of an editor undoes this.
* `Config.read_layouts`: a section is read as the mapping from which it comes, whatever else there
  is beside it.
-/

namespace ServerLauncher

/-! ## Keys of fields -/

namespace Field

variable {f g : Field} {s : String}

theorem mem_all (f : Field) : f ∈ all := by
  cases f <;> decide

theorem ofName?_name (f : Field) : ofName? f.name = some f := by
  cases f <;> rfl

theorem ofEditorKey?_editorKey (f : Field) : ofEditorKey? f.editorKey = some f := by
  cases f <;> rfl

theorem name_of_ofName? (h : ofName? s = some f) : s = f.name := by
  have hname := List.find?_some h
  exact (eq_of_beq hname).symm

theorem editorKey_of_ofEditorKey? (h : ofEditorKey? s = some f) : s = f.editorKey := by
  have hkey := List.find?_some h
  exact (eq_of_beq hkey).symm

theorem name_injective : Function.Injective name := fun f g h =>
  Option.some.inj ((ofName?_name f).symm.trans (h ▸ ofName?_name g))

theorem editorKey_injective : Function.Injective editorKey := fun f g h =>
  Option.some.inj ((ofEditorKey?_editorKey f).symm.trans (h ▸ ofEditorKey?_editorKey g))

theorem name_ne_sectionKey (f : Field) : f.name ≠ sectionKey := by
  cases f <;> decide

end Field

/-! ## Entries with different keys -/

namespace Value

variable {entries : List (Value × Value)} {value : Value} {s : String}

/-- Only a text is equal to a text. -/
theorem text_same_iff : same (.text s) value = true ↔ value = .text s := by
  cases value with
  | text t =>
    change (s == t) = true ↔ _
    rw [beq_iff_eq, text.injEq, eq_comm]
  | _ => exact iff_of_false nofun nofun

theorem same_text_iff : same value (.text s) = true ↔ value = .text s := by
  cases value with
  | text t =>
    change (t == s) = true ↔ _
    rw [beq_iff_eq, text.injEq]
  | _ => exact iff_of_false nofun nofun

theorem lookup_text_eq_none_iff :
    lookup entries (.text s) = none ↔ ∀ entry ∈ entries, entry.1 ≠ .text s := by
  rw [lookup, Option.map_eq_none_iff, List.find?_eq_none]
  simp only [same_text_iff, ne_eq]

theorem same_text_comm (value : Value) (s : String) :
    same (.text s) value = same value (.text s) :=
  Bool.eq_iff_iff.mpr (text_same_iff.trans same_text_iff.symm)

/-- A new value under a key is found there, and nowhere else. -/
theorem lookup_replaced (entries : List (Value × Value)) (key value : Value) (s : String) :
    lookup (entries.map fun entry => if entry.1.same key then (entry.1, value) else entry)
        (.text s) =
      if key.same (.text s) then (lookup entries (.text s)).map fun _ => value
      else lookup entries (.text s) := by
  have htest : ((fun entry : Value × Value => entry.1.same (.text s)) ∘
      fun entry : Value × Value => if entry.1.same key then (entry.1, value) else entry) =
        fun entry => entry.1.same (.text s) := by
    funext entry
    dsimp only [Function.comp_apply]
    split <;> rfl
  unfold lookup
  rw [List.find?_map, htest]
  rcases hfind : entries.find? (fun entry => entry.1.same (.text s)) with _ | entry
  · rw [hfind]
    simp
  · have hsame := List.find?_some hfind
    rw [hfind, Option.map_some, Option.map_some, same_text_iff.mp hsame, same_text_comm]
    split <;> rfl

end Value

namespace Config

variable {entries e top : Entries} {key : Value}

/-- No two entries have one key. -/
def HasDifferentKeys (entries : Entries) : Prop :=
  entries.Pairwise fun entry entry' => entry.1.same entry'.1 = false

/-- A mapping that is built from different keys has its pairs as entries. -/
theorem HasDifferentKeys.entriesOf_eq (h : HasDifferentKeys entries) :
    Value.entriesOf entries = entries := by
  suffices hbehind : ∀ before : Entries, HasDifferentKeys (before ++ entries) →
      entries.foldl (fun es pair => Value.insertEntry es pair.1 pair.2) before =
        before ++ entries from
    hbehind [] h
  clear h
  induction entries with
  | nil => exact fun before _ => (List.append_nil before).symm
  | cons pair entries ih =>
    intro before h
    have hnew : before.any (fun entry => entry.1.same pair.1) = false := by
      rw [List.any_eq_false]
      exact fun entry hentry => Bool.not_eq_true _ ▸
        (List.pairwise_append.mp h).2.2 entry hentry pair List.mem_cons_self
    have hinsert : Value.insertEntry before pair.1 pair.2 = before ++ [pair] := by
      rw [Value.insertEntry, hnew, if_neg Bool.false_ne_true]
    rw [List.foldl_cons, hinsert, ih, List.append_assoc, List.singleton_append]
    rwa [List.append_assoc, List.singleton_append]

/-! ## The keys of an editor -/

/-- The name of a field as its key in an editor's settings; other keys stay. -/
def asEditorKey : Value → Value
  | .text s => match Field.ofName? s with
    | some field => .text field.editorKey
    | none => .text s
  | key => key

/-- Entries with the keys of an editor in place of the names of fields. -/
def inEditorKeys (entries : Entries) : Entries :=
  entries.map fun entry => (asEditorKey entry.1, entry.2)

/-- A key is a key of an editor. -/
def IsEditorKey (key : Value) : Prop := ∃ f : Field, key = .text f.editorKey

theorem renamed_editorKey (f : Field) : renamed (.text f.editorKey) = .text f.name := by
  rw [renamed, Field.ofEditorKey?_editorKey]

theorem renamed_of_not_isEditorKey (h : ¬IsEditorKey key) : renamed key = key := by
  unfold renamed
  split
  · split
    next f hf => exact absurd ⟨f, congrArg Value.text (Field.editorKey_of_ofEditorKey? hf)⟩ h
    next => rfl
  · rfl

/-- A key that an editor may use is the name of a field as that field's key, or has stayed. -/
theorem asEditorKey_cases (key : Value) :
    (∃ f : Field, key = .text f.name ∧ asEditorKey key = .text f.editorKey) ∨
      asEditorKey key = key := by
  unfold asEditorKey
  split
  · split
    next f hf => exact .inl ⟨f, congrArg Value.text (Field.name_of_ofName? hf), rfl⟩
    next => exact .inr rfl
  · exact .inr rfl

theorem renamed_asEditorKey (h : ¬IsEditorKey key) : renamed (asEditorKey key) = key := by
  rcases asEditorKey_cases key with ⟨f, rfl, has⟩ | has
  · rw [has, renamed_editorKey]
  · rw [has, renamed_of_not_isEditorKey h]

/-- Different keys that are none of an editor stay different. -/
theorem asEditorKey_same {key' : Value} (h : ¬IsEditorKey key) (h' : ¬IsEditorKey key')
    (hsame : key.same key' = false) : (asEditorKey key).same (asEditorKey key') = false := by
  rw [← Bool.not_eq_true] at hsame ⊢
  rcases asEditorKey_cases key with ⟨f, rfl, has⟩ | has <;>
    rcases asEditorKey_cases key' with ⟨f', rfl, has'⟩ | has' <;> rw [has, has']
  · rw [Value.text_same_iff] at hsame ⊢
    intro heq
    rw [Field.editorKey_injective (Value.text.inj heq)] at hsame
    exact hsame rfl
  · exact fun heq => h' ⟨f, Value.text_same_iff.mp heq⟩
  · exact fun heq => h ⟨f', Value.same_text_iff.mp heq⟩
  · exact hsame

theorem HasDifferentKeys.inEditorKeys (h : HasDifferentKeys e)
    (heditor : ∀ entry ∈ e, ¬IsEditorKey entry.1) : HasDifferentKeys (inEditorKeys e) := by
  refine List.pairwise_map.mpr (h.imp_of_mem fun hentry hentry' => ?_)
  exact asEditorKey_same (heditor _ hentry) (heditor _ hentry')

/-- Renaming the keys of an editor undoes their use. -/
theorem renameAll_inEditorKeys (h : HasDifferentKeys e)
    (heditor : ∀ entry ∈ e, ¬IsEditorKey entry.1) : renameAll (inEditorKeys e) = e := by
  have hback : (inEditorKeys e).map (fun entry => (renamed entry.1, entry.2)) = e := by
    rw [inEditorKeys, List.map_map, List.map_congr_left (g := id), List.map_id]
    exact fun entry hentry => Prod.ext (renamed_asEditorKey (heditor entry hentry)) rfl
  rw [renameAll, hback, h.entriesOf_eq]

/-! ## Reading either layout -/

/-- What is read depends on the entries that count alone. -/
theorem read_congr (rooms : Rooms) (h : effective entries = effective e) :
    read rooms entries = read rooms e := by
  rw [read, read, h]

theorem effective_of_flat (h : Value.lookup e (.text sectionKey) = none) :
    effective e = .ok e := by
  rw [effective, h]

theorem effective_of_section {whole : Value} (h : Value.lookup top (.text sectionKey) = some whole)
    (hentries : whole.entries? = some e) : effective top = .ok (renameAll e) := by
  rw [effective, h]
  dsimp only
  rw [hentries]

/-- A mapping without the section and without the keys of an editor is read as the section into
which it can be turned, alone or beside any other entries. -/
theorem read_layouts (rooms : Rooms) (hkeys : HasDifferentKeys e)
    (hsection : Value.lookup e (.text sectionKey) = none)
    (heditor : ∀ f : Field, Value.lookup e (.text f.editorKey) = none) :
    HasDifferentKeys (inEditorKeys e) ∧
      read rooms [(.text sectionKey, .mapping (inEditorKeys e))] = read rooms e ∧
      ∀ (top : Entries) (whole : Value), Value.lookup top (.text sectionKey) = some whole →
        whole.entries? = some (inEditorKeys e) → read rooms top = read rooms e := by
  have hnone : ∀ entry ∈ e, ¬IsEditorKey entry.1 := by
    rintro entry hentry ⟨f, hf⟩
    exact Value.lookup_text_eq_none_iff.mp (heditor f) entry hentry hf
  have hread : ∀ (top : Entries) (whole : Value),
      Value.lookup top (.text sectionKey) = some whole →
      whole.entries? = some (inEditorKeys e) → read rooms top = read rooms e := by
    intro top whole hwhole hentries
    refine read_congr rooms ?_
    rw [effective_of_section hwhole hentries, renameAll_inEditorKeys hkeys hnone,
      effective_of_flat hsection]
  exact ⟨hkeys.inEditorKeys hnone, hread _ (.mapping (inEditorKeys e)) rfl rfl, hread⟩

/-- Entries of two fields and one that belongs to no field. -/
def mixedEntries : Entries :=
  [(.text "download_timeout", .integer 10), (.text "extra", .truth true),
   (.text "server_path", .text "/s")]

/-- Their section, between entries that do not count. -/
def mixedLayout : Entries :=
  [(.text "server_path", .text "/t"), (.text sectionKey, .mapping (inEditorKeys mixedEntries)),
   (.text "other", .null)]

theorem read_layouts_mixed :
    (HasDifferentKeys mixedEntries ∧ Value.lookup mixedEntries (.text sectionKey) = none ∧
      ∀ f : Field, Value.lookup mixedEntries (.text f.editorKey) = none) ∧
    inEditorKeys mixedEntries =
      [(.text "languageServer.downloadTimeout", .integer 10), (.text "extra", .truth true),
       (.text "languageServer.path", .text "/s")] ∧
    read .usual mixedLayout = read .usual mixedEntries ∧
    (read .usual mixedEntries).2 =
      [⟨.warning, .config, "Ignoring unknown configuration keys: ['extra']"⟩] := by
  have hkeys : HasDifferentKeys mixedEntries := by
    unfold HasDifferentKeys
    decide +kernel
  have hsection : Value.lookup mixedEntries (.text sectionKey) = none := by rfl
  have heditor : ∀ f : Field, Value.lookup mixedEntries (.text f.editorKey) = none := by
    intro f
    cases f <;> rfl
  have hread := (read_layouts .usual hkeys hsection heditor).2.2 mixedLayout _ rfl rfl
  exact ⟨⟨hkeys, hsection, heditor⟩, rfl, hread, by decide +kernel⟩

end Config

end ServerLauncher
