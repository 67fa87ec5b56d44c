import SqlToolkit.Dialect.Registry
import SqlToolkit.Facade.Basic
import SqlToolkit.Settings.OdbcString
import SqlToolkit.Settings.Url

/-!
# Connecting

From settings to a facade: the dialect is looked up, its driver opens a connection, the session is
set up, and a builder gets its debug mode. The calls made on the way and the lines logged are kept
even when connecting fails.
-/

namespace SqlToolkit

/-- The packages that open connections. -/
inductive Driver where
  | mysql
  | postgresql
  | odbc
  | sqlite
  deriving Repr, DecidableEq

inductive Availability (σ : Type) where
  /-- The driver is not installed. -/
  | missing
  /-- The driver cannot connect, and says so with an error of its own. -/
  | refuses (reason : String)
  /-- Asking for a connection ends with an error that is none of the driver's own. -/
  | breaks (reason : String)
  /-- There is a connection. Its encoding, if one is asked for, may be refused for a reason. -/
  | opens (connection : σ) (encodingRefusal : Option String := none)

inductive OpeningCall where
  /-- A connection is asked for, with values by position and by name. -/
  | open (driver : Driver) (positional : List Value) (named : List (String × Value))
  | setEncoding (charset : Value)
  | statement (call : Call)

structure Opening where
  calls : List OpeningCall := []
  log : List LogEvent := []
  /-- Lines for developers, which the log shows only where it is asked for them. -/
  details : List String := []

namespace Driver

def ofDialect : Dialect → Driver
  | .mysql => .mysql
  | .postgresql => .postgresql
  | .oracle | .firebird => .odbc
  | .sqlite => .sqlite

def paramstyle : Driver → Paramstyle
  | .mysql | .postgresql => .pyformat
  | .odbc | .sqlite => .qmark

def missingHint : Driver → String
  | .mysql => "PyMySQL is not installed. Install with: pip install dataforge-sql[mysql]"
  | .postgresql => "psycopg2 is not installed. Install with: pip install dataforge-sql[postgresql]"
  | .odbc => "pyodbc is not installed. Install with: pip install dataforge-sql[odbc]"
  | .sqlite => "sqlite3 is not installed."

/-- Whether an error that is none of the driver's own counts as a failure to connect. -/
def tellsForeignErrors : Driver → Bool
  | .sqlite => false
  | _ => true

end Driver

namespace Connecting

/-- How long a driver may try, in seconds. -/
def timeout : Value := .int 5

def filePath (settings : Settings) : Value :=
  Settings.orElse settings.database (.text ":memory:")

def odbcCall (attributes : Value.Entries) : Attempt OpeningCall := do
  return .open .odbc [.text (← OdbcString.write attributes)]
    [("timeout", timeout), ("autocommit", .bool false)]

/-- The call that asks for a connection. A connection string has to be written for it first. -/
def openCall (settings : Settings) : Dialect → Attempt OpeningCall
  | .mysql => .ok <| .open .mysql []
    [("host", settings.host), ("port", settings.portFor .mysql), ("user", settings.user),
     ("password", settings.password), ("database", settings.database),
     ("charset", Settings.orElse settings.charset (.text "utf8mb4")),
     ("connect_timeout", timeout)]
  | .postgresql => .ok <| .open .postgresql []
    [("host", settings.host), ("port", settings.portFor .postgresql), ("user", settings.user),
     ("password", settings.password), ("dbname", settings.database),
     ("connect_timeout", timeout)]
  | .oracle => do odbcCall (← OdbcString.oracleAttributes settings)
  | .firebird => do odbcCall (← OdbcString.firebirdAttributes settings)
  | .sqlite => .ok <| .open .sqlite [filePath settings] []

def encodingCalls (settings : Settings) (dialect : Dialect) : List OpeningCall :=
  match dialect with
  | .postgresql => if settings.charset.truthy then [.setEncoding settings.charset] else []
  | _ => []

/-- What the log says of a new connection: its database and host, or its file. -/
def connectedEvent (settings : Settings) : Dialect → Attempt LogEvent
  | .sqlite => do return .connected .sqlite (← (filePath settings).write Value.display) ""
  | dialect => do
    return .connected dialect (← settings.database.write Value.display)
      (← settings.host.write Value.display)

def record (calls : List OpeningCall) : Action Opening Unit :=
  modify fun opening => { opening with calls := opening.calls ++ calls }

def note (event : LogEvent) : Action Opening Unit :=
  modify fun opening => { opening with log := opening.log ++ [event] }

def explain (lines : List String) : Action Opening Unit :=
  modify fun opening => { opening with details := opening.details ++ lines }

variable {σ : Type}

def openConnection (drivers : Driver → Availability σ) (settings : Settings)
    (dialect : Dialect) : Action Opening σ := do
  let driver := Driver.ofDialect dialect
  let call ← Action.ofAttempt (openCall settings dialect)
  match drivers driver with
  | .missing => throw (.connectionFailed driver.missingHint)
  | .refuses reason =>
    record [call]
    throw (.connectionFailed reason)
  | .breaks reason =>
    record [call]
    throw (if driver.tellsForeignErrors then .connectionFailed reason else .driver reason)
  | .opens connection encodingRefusal =>
    let encoding := encodingCalls settings dialect
    record (call :: encoding)
    match encoding, encodingRefusal with
    | _ :: _, some reason => throw (.connectionFailed reason)
    | _, _ =>
      note (← Action.ofAttempt (connectedEvent settings dialect))
      return connection

def caseName : ColumnCase → String
  | .upper => "upper"
  | .lower => "lower"

def newClient (dialect : Dialect) (connection : σ) : Client σ :=
  { connection
    paramstyle := (Driver.ofDialect dialect).paramstyle
    columnCase := dialect.columnCase.map caseName }

variable [Connection σ]

def setUp (dialect : Dialect) : Action (Client σ) Unit :=
  dialect.sessionSetup.forM fun sql => do
    let _ ← Client.exec sql

/-- What developers are told of a call that sets up a session: a statement that failed is undone. -/
def callDetail? : Call → Option String
  | .rollback => some "Rolling back implicit transaction after failed statement"
  | _ => none

def clientFor (dialect : Dialect) (connection : σ) : Action Opening (Client σ) := do
  let (result, client) := (setUp dialect).perform (newClient dialect connection)
  record (client.calls.map .statement)
  explain (client.calls.filterMap callDetail?)
  Action.ofAttempt result
  return client

/-- The dialect of a driver name; an unknown name is logged. -/
def findDialect (registry : Registry) (driver : String) : Action Opening Dialect :=
  match registry.dialect driver with
  | .ok dialect => return dialect
  | .error fault => do
    note (.unknownDriver driver)
    throw fault

def connect (registry : Registry) (drivers : Driver → Availability σ) (settings : Settings)
    (debug : Value) (lap : Duration) : Action Opening (Facade σ) := do
  let driver ← Action.ofAttempt (Settings.driverName settings.driver)
  let dialect ← findDialect registry driver
  let connection ← openConnection drivers settings dialect
  let client ← clientFor dialect connection
  let database ← Action.ofAttempt (settings.database.write Value.display)
  explain [s!"Using {dialect.name} dialect for {database}"]
  let builder ← Action.ofAttempt (Builder.create dialect client debug lap)
  return { builder }

def connectUrl (registry : Registry) (drivers : Driver → Availability σ) (url : String)
    (debug : Value) (lap : Duration) : Action Opening (Facade σ) := do
  let settings ← Action.ofAttempt (Settings.ofUrl url)
  connect registry drivers settings debug lap

end Connecting

end SqlToolkit
