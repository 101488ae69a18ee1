/-!
# Log records

What the library tells its user while it works.
-/

namespace ServerLauncher

/-- The importance of a log record. -/
inductive Level where
  | info
  | warning
  | error
deriving DecidableEq, Repr

/-- The name of a level. -/
def Level.text : Level → String
  | info => "INFO"
  | warning => "WARNING"
  | error => "ERROR"

/-- The part of the library that a log record comes from. -/
inductive Source where
  | config
  | download
  | acquirer
  | session
deriving DecidableEq, Repr

/-- The name of a source. -/
def Source.text : Source → String
  | config => "config"
  | download => "download"
  | acquirer => "acquirer"
  | session => "session"

/-- A log record. -/
structure Record where
  level : Level
  source : Source
  message : String
deriving DecidableEq, Repr

/-- A log record as one text. -/
def Record.text (r : Record) : String :=
  r.level.text ++ " " ++ r.source.text ++ ": " ++ r.message

end ServerLauncher
