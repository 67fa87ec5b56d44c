import SqlToolkit.Debug.Entry
import SqlToolkit.Dialect.Basic
import SqlToolkit.Text.Scan

/-!
# The log

What is worth a line in the log, and how it is worded.
-/

namespace SqlToolkit

open SqlToolkit.Text

inductive LogLevel where
  | info
  | warning
  | error
  deriving Repr, DecidableEq

inductive LogEvent where
  /-- No dialect has the driver name. -/
  | unknownDriver (driver : String)
  | connected (dialect : Dialect) (database host : String)
  | statementFailed (kind : QueryKind) (reason : String)
  /-- The database refused to count the rows. -/
  | probeFailed (reason : String)
  | captured (entry : DebugEntry)

namespace LogEvent

def level : LogEvent → LogLevel
  | .unknownDriver _ | .probeFailed _ => .warning
  | .connected .. | .captured _ => .info
  | .statementFailed .. => .error

def connectionName : Dialect → String
  | .mysql => "MySQL database"
  | .postgresql => "PostgreSQL database"
  | .oracle => "Oracle service"
  | .firebird => "Firebird database"
  | .sqlite => "SQLite database"

/-- The first line of an event. The block of a captured statement follows its head line. -/
def headline : LogEvent → String
  | .unknownDriver driver => firstLine s!"No dialect for driver: {driver}"
  | .connected .sqlite database _ => firstLine s!"Connected to SQLite database {database}"
  | .connected dialect database host =>
    firstLine s!"Connected to {connectionName dialect} {database} on {host}"
  | .statementFailed kind reason => firstLine s!"{kind.name} failed: {reason}"
  | .probeFailed reason => firstLine s!"Row count probe failed, counting rows instead: {reason}"
  | .captured entry => "[" ++ entry.kind.name ++ "]"

end LogEvent

end SqlToolkit
