/-!
# The fields of a configuration

A configuration has eight fields.  Each can be given under its own name or, in the section of an
editor's settings, under the key of the editor.

## Main definitions

* `Field`, `Field.name`, `Field.editorKey`.
* `Field.ofName?`, `Field.ofEditorKey?`: the field behind a key.
* `sectionKey`: the key of the editor's section.
-/

namespace ServerLauncher

/-- The fields of a configuration. -/
inductive Field where
  | serverPath
  | policy
  | compilerPath
  | importPaths
  | extraEnv
  | serverVersion
  | downloadEnabled
  | downloadTimeout
deriving DecidableEq, Repr

namespace Field

/-- All fields. -/
def all : List Field :=
  [serverPath, policy, compilerPath, importPaths, extraEnv, serverVersion, downloadEnabled,
   downloadTimeout]

/-- The name of a field. -/
def name : Field → String
  | serverPath => "server_path"
  | policy => "server_path_policy"
  | compilerPath => "compiler_path"
  | importPaths => "import_paths"
  | extraEnv => "extra_env"
  | serverVersion => "server_version"
  | downloadEnabled => "download_enabled"
  | downloadTimeout => "download_timeout"

/-- The key of a field in an editor's settings. -/
def editorKey : Field → String
  | serverPath => "languageServer.path"
  | policy => "languageServer.pathPolicy"
  | serverVersion => "languageServer.version"
  | downloadEnabled => "languageServer.download"
  | downloadTimeout => "languageServer.downloadTimeout"
  | compilerPath => "compiler.path"
  | importPaths => "compiler.importPaths"
  | extraEnv => "server.extraEnv"

/-- The field with a given name. -/
def ofName? (s : String) : Option Field := all.find? fun f => f.name == s

/-- The field with a given key in an editor's settings. -/
def ofEditorKey? (s : String) : Option Field := all.find? fun f => f.editorKey == s

end Field

/-- The key of the section that holds an editor's settings. -/
def sectionKey : String := "capnp-ls-client"

end ServerLauncher
