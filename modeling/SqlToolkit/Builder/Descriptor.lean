import SqlToolkit.Condition
import SqlToolkit.Dialect.Delete
import SqlToolkit.Parameters
import SqlToolkit.Statement.ColumnKey

/-!
# Statement descriptors

A descriptor holds everything that a statement is made of, and is rendered in the words of a
dialect. Three sources give values to its markers: explicit placeholders, column values and the
WHERE clause; where two of them share a name the later one counts.
-/

namespace SqlToolkit

structure Descriptor where
  kind : QueryKind := .select
  /-- The SQL that a raw statement was given. -/
  rawSql : Value := .text ""
  fields : String := "*"
  /-- The table expression: a text, or a byte string that stands for its own text. -/
  table : Value := .text ""
  values : Value.Entries := []
  clause : Condition.Clause := {}
  parameters : Parameters := {}
  placeholders : Value.Entries := []

namespace Descriptor

/-! ## Values -/

def valuePlaceholders (descriptor : Descriptor) : Attempt (List (String × Value)) := do
  let named ← descriptor.values.mapM fun entry => do
    return (← ColumnKey.placeholder entry.1, entry.2)
  return Entries.ofList named

def asPlaceholders (named : List (String × Value)) : Value.Entries :=
  named.map fun entry => (.text entry.1, entry.2)

/-- All values to bind: explicit placeholders, then column values, then those of the condition. -/
def boundPlaceholders (descriptor : Descriptor) : Attempt Value.Entries := do
  let columns ← descriptor.valuePlaceholders
  return Entries.merge
    (Entries.merge descriptor.placeholders (asPlaceholders columns))
    (asPlaceholders descriptor.clause.placeholders)

/-! ## SQL -/

def listed (texts : List String) : String := ", ".intercalate texts

def limitText (descriptor : Descriptor) (dialect : Dialect) : Attempt String :=
  if descriptor.parameters.limit.isUnset then .ok ""
  else dialect.limitClause descriptor.parameters.limit

/-- A clause that is written if its setting counts as true. -/
def optionalClause (keyword : String) (setting : Value) : Attempt String :=
  if setting.truthy then setting.write fun setting => " " ++ keyword ++ " " ++ setting.display
  else .ok ""

def selectBody (descriptor : Descriptor) : String :=
  s!"{descriptor.fields} FROM {descriptor.table.display}{descriptor.clause.sql}"

def selectTail (descriptor : Descriptor) : Attempt String := do
  return (← optionalClause "GROUP BY" descriptor.parameters.groupBy)
    ++ (← optionalClause "ORDER BY" descriptor.parameters.orderBy)

def distinctText (descriptor : Descriptor) : String :=
  if descriptor.parameters.selectDistinct.truthy then "DISTINCT " else ""

def selectSql (descriptor : Descriptor) (dialect : Dialect) : Attempt String := do
  let limit ← descriptor.limitText dialect
  let rest := descriptor.distinctText ++ descriptor.selectBody ++ (← descriptor.selectTail)
  match dialect.limitPosition with
  | .afterSelect => return "SELECT " ++ limit ++ rest
  | .atEnd => return "SELECT " ++ rest ++ limit

def insertSql (descriptor : Descriptor) : Attempt String := do
  let named ← descriptor.valuePlaceholders
  let columns := descriptor.values.map fun entry => entry.1.display
  let markers := named.map fun entry => ":" ++ entry.1
  return s!"INSERT INTO {descriptor.table.display} ({listed columns}) VALUES ({listed markers})"

def updateSql (descriptor : Descriptor) : Attempt String := do
  let assignments ← descriptor.values.mapM fun entry => do
    return entry.1.display ++ " = :" ++ (← ColumnKey.placeholder entry.1)
  return s!"UPDATE {descriptor.table.display} SET {listed assignments}{descriptor.clause.sql}"

/-- The SQL of a DELETE. Only a text can be searched for a join. -/
def deleteSql (descriptor : Descriptor) (dialect : Dialect) : Attempt String :=
  match descriptor.table with
  | .text table => .ok (dialect.deleteSql table descriptor.clause.sql)
  | _ => .error .wrongKind

/-- The SQL that a value gives; only a text is one. -/
def statementText : Value → Attempt String
  | .text sql => .ok sql
  | _ => .error .missingAttribute

/-- The SQL of a descriptor. Every kind but a raw one needs a table. -/
def sql (descriptor : Descriptor) (dialect : Dialect) : Attempt String :=
  match descriptor.kind with
  | .raw => statementText descriptor.rawSql
  | kind =>
    if !descriptor.table.truthy then .error (.sequence (.noTable kind))
    else
      match kind with
      | .insert => descriptor.insertSql
      | .update => descriptor.updateSql
      | .delete => descriptor.deleteSql dialect
      | _ => descriptor.selectSql dialect

/-- What a count of the rows counts: the fields of a SELECT, all rows otherwise. A raw statement
says it itself. -/
def countExpression? (descriptor : Descriptor) : Option String :=
  match descriptor.kind with
  | .raw => none
  | .select =>
    if descriptor.fields == "*" then some "*"
    else some (descriptor.distinctText ++ descriptor.fields)
  | _ => some "*"

end Descriptor

end SqlToolkit
