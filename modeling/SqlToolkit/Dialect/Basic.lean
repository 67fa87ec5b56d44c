import SqlToolkit.Limit

/-!
# Dialects

The five dialects and what is fixed for each of them: names, quoting, limits and the catalog query
for tables.
-/

namespace SqlToolkit

inductive Dialect where
  | mysql
  | postgresql
  | oracle
  | firebird
  | sqlite
  deriving Repr, DecidableEq

inductive LimitPosition where
  | afterSelect
  | atEnd
  deriving Repr, DecidableEq

inductive ColumnCase where
  | upper
  | lower
  deriving Repr, DecidableEq

namespace Dialect

def all : List Dialect := [.mysql, .postgresql, .oracle, .firebird, .sqlite]

def name : Dialect → String
  | .mysql => "mysql"
  | .postgresql => "pgsql"
  | .oracle => "oci"
  | .firebird => "firebird"
  | .sqlite => "sqlite"

/-- The result column that holds the name in a list of columns. -/
def columnNameKey : Dialect → String
  | .mysql => "Field"
  | .postgresql => "column_name"
  | .oracle => "COLUMN_NAME"
  | .firebird => "FIELD_NAME"
  | .sqlite => "name"

def supportsLastInsertId : Dialect → Bool
  | .mysql | .sqlite => true
  | .postgresql | .oracle | .firebird => false

def limitPosition : Dialect → LimitPosition
  | .firebird => .afterSelect
  | _ => .atEnd

/-- The case to which result columns are folded, if to one. -/
def columnCase : Dialect → Option ColumnCase
  | .firebird => some .upper
  | _ => none

/-- The port that is used when none is given. -/
def defaultPort : Dialect → Option Nat
  | .mysql => some 3306
  | .postgresql => some 5432
  | .oracle => some 1521
  | .firebird => some 3050
  | .sqlite => none

def quoteChar : Dialect → Char
  | .mysql => '\x60'
  | _ => '"'

/-- The ODBC driver that is used when none is given. -/
def odbcDriver : Dialect → Option String
  | .oracle => some "Oracle ODBC Driver"
  | .firebird => some "Firebird/InterBase(r) driver"
  | _ => none

def sessionSetup : Dialect → List String
  | .oracle => ["ALTER SESSION SET NLS_DATE_FORMAT = 'YYYY-MM-DD'"]
  | _ => []

def tablesSql : Dialect → String
  | .mysql => "SHOW FULL TABLES WHERE Table_Type != 'VIEW'"
  | .postgresql =>
    "\n            SELECT table_name"
      ++ "\n            FROM information_schema.tables"
      ++ "\n            WHERE table_type = 'BASE TABLE'"
      ++ "\n              AND table_schema NOT IN ('pg_catalog', 'information_schema')"
      ++ "\n        "
  | .oracle => "SELECT table_name FROM user_tables ORDER BY table_name"
  | .firebird =>
    "SELECT TRIM(RDB$RELATION_NAME) FROM RDB$RELATIONS "
      ++ "WHERE RDB$VIEW_BLR IS NULL AND (RDB$SYSTEM_FLAG IS NULL OR RDB$SYSTEM_FLAG = 0)"
  | .sqlite =>
    "SELECT name FROM sqlite_master "
      ++ "WHERE type = 'table' AND name NOT LIKE 'sqlite_%' ORDER BY name"

def limitText (dialect : Dialect) (limit : Limit) : String :=
  match dialect, limit.offset with
  | .mysql, none => s!" LIMIT {limit.count}"
  | .mysql, some offset => s!" LIMIT {offset}, {limit.count}"
  | .postgresql, none | .sqlite, none => s!" LIMIT {limit.count}"
  | .postgresql, some offset | .sqlite, some offset => s!" LIMIT {limit.count} OFFSET {offset}"
  | .oracle, none => s!" FETCH NEXT {limit.count} ROWS ONLY"
  | .oracle, some offset => s!" OFFSET {offset} ROWS FETCH NEXT {limit.count} ROWS ONLY"
  | .firebird, none => s!"FIRST {limit.count} "
  | .firebird, some offset => s!"FIRST {limit.count} SKIP {offset} "

def limitClause (dialect : Dialect) (spec : Value) : Attempt String :=
  (Limit.parse spec).map dialect.limitText

end Dialect

end SqlToolkit
