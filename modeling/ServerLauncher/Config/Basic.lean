import ServerLauncher.Config.Field
import ServerLauncher.Fault
import ServerLauncher.Record
import ServerLauncher.Template
import ServerLauncher.Value.Order
import ServerLauncher.Value.Slots

/-!
# Configurations

A configuration says where the server is, or which release of it to download, and how to launch it.
It is read from the entries of a mapping.

The mapping gives the fields by name, or it holds a section with an editor's settings; beside a
section everything else is left out of account.  A field whose value is missing, null or the empty
text takes its default.  Keys that belong to no field are ignored with a warning.

## Main definitions

* `Config`: the configurations.
* `Config.Rooms`: how deep values may be nested where their text is needed.
* `Config.effective`: the entries that count.
* `Config.unknownKeys`: the keys that belong to no field.
* `Config.ofEffective`: the configuration that such entries give.
* `Config.read`: all of it, with the warning.
* `Config.processEnvironment?`: the extra environment of the server as texts.
-/

namespace ServerLauncher

/-- Where the server is and how to launch it. -/
structure Config where
  serverPath : String := ""
  policy : Policy := .strict
  compilerPath : String := ""
  importPaths : List String := []
  extraEnv : List (Value × Value) := []
  serverVersion : String := "v0.0.1"
  downloadEnabled : Bool := true
  downloadTimeout : Double := .ofNat 30
deriving Repr, Inhabited

namespace Config

/-- How many levels of collections a value may hold where its text is needed.  The interpreter
limits the depth of its calls, so what is left depends on how deep the place of the call is. -/
structure Rooms where
  /-- For the value of a field, or for one of several items in it. -/
  value : Field → Nat
  /-- For a key that is named in the warning. -/
  key : Nat
  /-- For a key and a value of the extra environment. -/
  environment : Nat

/-- Rooms that leave a wide margin below the depth of calls that is usually allowed. -/
def Rooms.usual : Rooms := ⟨fun _ => 900, 900, 900⟩

/-- The entries of a mapping. -/
abbrev Entries := List (Value × Value)

/-! ## The entries that count -/

/-- A key of an editor's settings as the name of its field; other keys stay. -/
def renamed : Value → Value
  | .text s => match Field.ofEditorKey? s with
    | some field => .text field.name
    | none => .text s
  | key => key

/-- The entries of a section with the keys of an editor renamed; later entries override earlier
ones. -/
def renameAll (entries : Entries) : Entries :=
  Value.entriesOf (entries.map fun entry => (renamed entry.1, entry.2))

/-- The entries that count: those of the section, if there is one. -/
def effective (entries : Entries) : Except Fault Entries :=
  match Value.lookup entries (.text sectionKey) with
  | none => .ok entries
  | some value => match value.entries? with
    | some section_ => .ok (renameAll section_)
    | none => if value.isTrue then .error (.noEntries value.kind) else .ok []

/-! ## Unknown keys -/

/-- Whether a key is the name of a field. -/
def isKnown : Value → Bool
  | .text s => (Field.ofName? s).isSome
  | _ => false

/-- The keys that belong to no field, in order.  They are taken from the set of all keys and sorted
as the set of them. -/
def unknownKeys (entries : Entries) : Except Fault (List Value) :=
  let all := Value.inGrowingSlots (entries.map (·.1))
  match Value.sort (Value.inGrowingSlots (all.filter fun key => !isKnown key)) with
  | .ok keys => .ok keys
  | .error issue => .error (.incomparable issue)

/-- The warning that names the keys that are ignored, if there are any. -/
def warning? (room : Nat) (keys : List Value) : Option Record :=
  if keys.isEmpty then none
  else some ⟨.warning, .config, "Ignoring unknown configuration keys: [" ++
    ", ".intercalate (keys.filterMap fun key => (key.shown room).toOption) ++ "]"⟩

/-! ## Values of fields -/

/-- The value of a field, unless it is missing, null or the empty text. -/
def given? (entries : Entries) (field : Field) : Option Value :=
  match Value.lookup entries (.text field.name) with
  | none | some .null => none
  | some (.text s) => if s.isEmpty then none else some (.text s)
  | some value => some value

/-- The text of a value. -/
def textOf (room : Nat) (value : Value) : Except Fault String :=
  match value.toText room with
  | .ok s => .ok s
  | .error issue => .error (.unwritable issue)

/-- The text that a field is given, or its default. -/
def textField (rooms : Rooms) (entries : Entries) (field : Field) (standard : String) :
    Except Fault String :=
  match given? entries field with
  | none => .ok standard
  | some value => textOf (rooms.value field) value

/-- The items of a value: a text is one item, a mapping has its keys as items, bytes are numbers. -/
def itemsOf (value : Value) : Except Fault (List Value) :=
  match value.opened with
  | .text s => .ok [.text s]
  | .list items | .tuple items | .set items => .ok items
  | .bytes content => .ok (content.map fun b => .integer b.toNat)
  | .mapping entries | .ordered entries => .ok (entries.map (·.1))
  | value => .error (.noItems value.kind)

/-- The extra environment. -/
def environmentField (entries : Entries) : Except Fault Entries :=
  match given? entries .extraEnv with
  | none => .ok []
  | some value => match value.entries? with
    | some entries => .ok entries
    | none => .error (.problem (.environmentNotMapping value.kind) none)

/-- The policy with a given name. -/
def policyOfText (name : String) : Except Fault Policy :=
  match Policy.ofText? name with
  | some policy => .ok policy
  | none => .error (.problem (.unknownPolicy name) none)

/-- The policy. -/
def policyField (rooms : Rooms) (entries : Entries) : Except Fault Policy :=
  match given? entries .policy with
  | none => .ok .strict
  | some (.policy policy) => .ok policy
  | some value => do policyOfText (← textOf (rooms.value .policy) value)

/-- The paths to search for imports. -/
def importsField (rooms : Rooms) (entries : Entries) : Except Fault (List String) :=
  match given? entries .importPaths with
  | none => .ok []
  | some value => do (← itemsOf value).mapM (textOf (rooms.value .importPaths))

/-- The time for a download. -/
def timeoutField (entries : Entries) : Except Fault Double :=
  match given? entries .downloadTimeout with
  | none => .ok (.ofNat 30)
  | some value => match value.toDouble with
    | .ok x => .ok x
    | .error issue => .error (.number issue)

/-- Whether a download is allowed. -/
def enabledField (entries : Entries) : Bool :=
  match given? entries .downloadEnabled with
  | none => true
  | some value => value.isTrue

/-! ## Reading -/

/-- The configuration that the entries that count give.  The first field that cannot be read
decides the fault. -/
def ofEffective (rooms : Rooms) (entries : Entries) : Except Fault Config := do
  let extraEnv ← environmentField entries
  let policy ← policyField rooms entries
  let serverPath ← textField rooms entries .serverPath ""
  let compilerPath ← textField rooms entries .compilerPath ""
  let importPaths ← importsField rooms entries
  let serverVersion ← textField rooms entries .serverVersion "v0.0.1"
  let downloadTimeout ← timeoutField entries
  return { serverPath, policy, compilerPath, importPaths, extraEnv, serverVersion,
           downloadEnabled := enabledField entries, downloadTimeout }

/-- The configuration that the entries of a mapping give, and the records written meanwhile. -/
def read (rooms : Rooms) (entries : Entries) : Except Fault Config × List Record :=
  match effective entries with
  | .error fault => (.error fault, [])
  | .ok e =>
    match unknownKeys e with
    | .error fault => (.error fault, [])
    | .ok keys => (ofEffective rooms e, (warning? rooms.key keys).toList)

/-! ## The environment of the server -/

/-- The variables of the extra environment as texts; of two keys with one text the later counts. -/
def processEnvironment? (room : Nat) (config : Config) : Except Fault Environment :=
  config.extraEnv.foldlM (fun environment entry => do
    let name ← textOf room entry.1
    let value ← textOf room entry.2
    return environment.set name value) []

end Config

end ServerLauncher
