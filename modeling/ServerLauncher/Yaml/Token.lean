/-!
# Tokens of a document

The tokens of block and flow collections, of scalars and of what is attached to them.
-/

namespace ServerLauncher.Yaml

/-- What a line that begins with a percent sign says. -/
inductive Directive where
  | version (major minor : Nat)
  | tag (handle uri : String)
  | other
deriving DecidableEq, Repr

/-- The tokens.  Indentation shows as the beginning and the end of blocks. -/
inductive Token where
  | directive (d : Directive)
  | documentStart
  | documentEnd
  | streamEnd
  | blockSequenceStart
  | blockMappingStart
  | blockEnd
  | sequenceStart
  | sequenceEnd
  | mappingStart
  | mappingEnd
  /-- A comma. -/
  | entry
  /-- A dash. -/
  | item
  /-- A key follows. -/
  | key
  /-- A value follows. -/
  | value
  | alias (name : String)
  | anchor (name : String)
  | tag (handle : Option String) (suffix : String)
  /-- A text; a plain one may stand for something other than a text. -/
  | scalar (text : String) (plain : Bool)
deriving DecidableEq, Repr

end ServerLauncher.Yaml
