import SqlToolkit.Dialect.Basic
import SqlToolkit.Text.Quoted
import SqlToolkit.Text.Scan

/-!
# The columns of a table

Three dialects take the table name as a bound value. The other two have it in the SQL, so it must
be a plain identifier there, with or without a schema, and each of its parts is enclosed in quotes.
-/

namespace SqlToolkit

open SqlToolkit.Text

namespace Identifier

def isInitial (c : Char) : Bool := (c.toNat < 128 && c.isAlpha) || c == '_'

/-- Whether the characters are a name: an initial and then accepted characters. -/
def isName (accept : Char → Bool) : List Char → Bool
  | [] => false
  | c :: rest => isInitial c && rest.all accept

def areNames (accept : Char → Bool) (parts : List (List Char)) : Bool :=
  (parts.length == 1 || parts.length == 2) && parts.all (isName accept)

/-- The parts of an identifier that may be qualified by a schema. -/
def parts? (chars : List Char) : Option (List (List Char)) :=
  let parts := splitAtChar '.' chars
  if areNames (fun c => isWord c || c == '$') parts then some parts else none

end Identifier

structure CatalogQuery where
  sql : String
  placeholders : List (String × Value)

namespace Dialect

def quotePart (dialect : Dialect) (part : List Char) : String :=
  String.ofList (dialect.quoteChar :: (part ++ [dialect.quoteChar]))

def quoteIdentifier (dialect : Dialect) (identifier : String) : Attempt String :=
  let chars := trimChars identifier.toList
  match Identifier.parts? chars with
  | some parts => .ok (".".intercalate (parts.map dialect.quotePart))
  | none => .error (.parameter (.badIdentifier (Quoted.text (String.ofList chars))))

/-- The lines of the column query for Firebird. -/
def firebirdColumnsSql : String :=
  "\n            ".intercalate
    ["", "SELECT",
     "    TRIM(R.RDB$FIELD_NAME) AS FIELD_NAME,",
     "    TRIM(R.RDB$DEFAULT_VALUE) AS DEFAULT_VALUE,",
     "    TRIM(R.RDB$NULL_FLAG) AS NULL_FLAG,",
     "    TRIM(F.RDB$FIELD_LENGTH) AS FIELD_LENGTH,",
     "    TRIM(F.RDB$FIELD_PRECISION) AS FIELD_PRECISION,",
     "    TRIM(F.RDB$FIELD_SCALE) AS FIELD_SCALE,",
     "    TRIM(CASE F.RDB$FIELD_TYPE",
     "        WHEN 7 THEN 'SMALLINT'",
     "        WHEN 8 THEN 'INTEGER'",
     "        WHEN 10 THEN 'FLOAT'",
     "        WHEN 12 THEN 'DATE'",
     "        WHEN 13 THEN 'TIME'",
     "        WHEN 14 THEN 'CHAR'",
     "        WHEN 16 THEN 'BIGINT'",
     "        WHEN 27 THEN 'DOUBLE'",
     "        WHEN 35 THEN 'TIMESTAMP'",
     "        WHEN 37 THEN 'VARCHAR'",
     "        WHEN 261 THEN 'BLOB'",
     "        ELSE 'UNKNOWN'",
     "    END) AS FIELD_TYPE",
     "FROM RDB$RELATION_FIELDS R",
     "JOIN RDB$FIELDS F ON F.RDB$FIELD_NAME = R.RDB$FIELD_SOURCE",
     "WHERE R.RDB$RELATION_NAME = :table_name",
     "ORDER BY R.RDB$FIELD_POSITION"] ++ "\n        "

def columnsQuery (dialect : Dialect) (table : String) : Attempt CatalogQuery :=
  match dialect with
  | .mysql => do return ⟨"SHOW COLUMNS FROM " ++ (← dialect.quoteIdentifier table), []⟩
  | .sqlite => do return ⟨"PRAGMA table_info(" ++ (← dialect.quoteIdentifier table) ++ ")", []⟩
  | .postgresql =>
    .ok ⟨"\n            SELECT *"
      ++ "\n            FROM information_schema.columns"
      ++ "\n            WHERE table_name = :table_name"
      ++ "\n            ORDER BY ordinal_position"
      ++ "\n        ", [("table_name", .text (trim table))]⟩
  | .oracle =>
    .ok ⟨"\n            SELECT *"
      ++ "\n            FROM USER_TAB_COLUMNS"
      ++ "\n            WHERE TABLE_NAME = :table_name"
      ++ "\n            ORDER BY COLUMN_ID"
      ++ "\n        ", [("table_name", .text (upper (trim table)))]⟩
  | .firebird => .ok ⟨firebirdColumnsSql, [("table_name", .text (upper (trim table)))]⟩

end Dialect

end SqlToolkit
