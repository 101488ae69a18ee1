import ServerLauncher.Config.Basic
import ServerLauncher.Machine.FileActions

/-!
# Loading a configuration

A configuration file holds a document whose root is a mapping.  A file without a document counts as
one with an empty mapping.

The format of the documents is not this library's: what reads them is given from outside.

## Main definitions

* `Config.Reader`: what reads documents.
* `Config.ofBytes`: the configuration in a file with a given content.
* `Config.load`: the configuration in a file.
-/

namespace ServerLauncher.Config

open MachineAction

/-- What a configuration is read with: a reader of documents, which gives the value at the root if
there is a document at all and may fail with any fault, and the room for the texts of values. -/
structure Reader where
  document : List UInt8 → Except Fault (Option Value)
  rooms : Rooms

/-- The entries of the mapping in a configuration file. -/
def documentEntries (reader : Reader) (path : String) (bytes : List UInt8) : Except Fault Entries :=
  match reader.document bytes with
  | .error .malformedDocument => .error (.problem (.invalidDocument path) (some .malformedDocument))
  | .error fault => .error fault
  | .ok none | .ok (some .null) => .ok []
  | .ok (some value) => match value.entries? with
    | some entries => .ok entries
    | none => .error (.problem (.documentNotMapping path) none)

/-- The configuration in a file with the given content, and the records written meanwhile.  The path
of the file is given in the form that messages use. -/
def ofBytes (reader : Reader) (path : String) (bytes : List UInt8) :
    Except Fault Config × List Record :=
  match documentEntries reader path bytes with
  | .error fault => (.error fault, [])
  | .ok entries =>
    let (config, records) := read reader.rooms entries
    (config, ⟨.info, .config, "Loaded configuration from " ++ path⟩ :: records)

/-- The configuration in a file, which has to exist. -/
def load (reader : Reader) (path : String) : MachineAction Config := do
  let path := Path.display path
  if !(← pathExists path) then throw (.noConfigurationFile path)
  let bytes ← readFile path
  let (config, records) := ofBytes reader path bytes.toList
  change fun m => { m with records := m.records ++ records }
  settle config

end ServerLauncher.Config
