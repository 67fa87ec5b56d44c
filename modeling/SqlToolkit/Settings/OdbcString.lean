import SqlToolkit.Settings.Port

/-!
# ODBC connection strings

A connection string lists attributes as `KEY=value` with semicolons between them. Attributes without
a value are left out.
-/

namespace SqlToolkit.OdbcString

/-- The attributes that have a value, joined. -/
def build (attributes : Value.Entries) : String :=
  ";".intercalate ((attributes.filter fun entry => !entry.2.isUnset).map fun entry =>
    entry.1.display ++ "=" ++ entry.2.display)

/-- The connection string of attributes, if all of them can be written. -/
def write (attributes : Value.Entries) : Attempt String :=
  (Value.map (attributes.filter fun entry => !entry.2.isUnset)).write fun _ => build attributes

def driverName (settings : Settings) (dialect : Dialect) : Attempt String :=
  (Settings.orElse settings.odbcDriver (.text (dialect.odbcDriver.getD ""))).write fun name =>
    "\x7b" ++ name.display ++ "\x7d"

def oracleAttributes (settings : Settings) : Attempt Value.Entries := do
  return [(.text "DRIVER", .text (← driverName settings .oracle)),
    (.text "DBQ",
      .text ((← settings.host.write Value.display) ++ ":"
        ++ (← (settings.portFor .oracle).write Value.display) ++ "/"
        ++ (← settings.database.write Value.display))),
    (.text "UID", settings.user),
    (.text "PWD", settings.password)]

def firebirdAttributes (settings : Settings) : Attempt Value.Entries := do
  return [(.text "DRIVER", .text (← driverName settings .firebird)),
    (.text "DBNAME",
      .text ((← settings.host.write Value.display) ++ "/"
        ++ (← (settings.portFor .firebird).write Value.display) ++ ":"
        ++ (← settings.database.write Value.display))),
    (.text "UID", settings.user),
    (.text "PWD", settings.password),
    (.text "CHARSET", Settings.orElse settings.charset (.text "UTF8"))]

end SqlToolkit.OdbcString
