/-!
# Log records

What the library reports while it works.
-/

namespace SchemaMigration

/-- How important a record is. -/
inductive LogLevel where
  | debug
  | info
  | warn
  deriving DecidableEq, Repr

/-- The name of a level. -/
def LogLevel.name : LogLevel → String
  | .debug => "DEBUG"
  | .info => "INFO"
  | .warn => "WARN"

/-- A record of a log. -/
structure LogRecord where
  level : LogLevel
  text : String
  deriving DecidableEq, Repr

/-- A record as one line. -/
def LogRecord.line (r : LogRecord) : String := r.level.name ++ " " ++ r.text

end SchemaMigration
