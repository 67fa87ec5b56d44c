import SqlToolkit.Dialect.Basic
import SqlToolkit.Join

/-!
# Deleting from a join

A DELETE may name a join of two tables instead of a table; rows of the left table are deleted. A
left join keeps every left row, so it matters only when the condition names the right table;
otherwise the statement becomes a plain one. A join that does matter is kept by MySQL, becomes
`USING` in PostgreSQL, and a correlated `EXISTS` elsewhere.
-/

namespace SqlToolkit

open SqlToolkit.Text

inductive DeleteForm where
  /-- Rows of one table. -/
  | plain (table : String)
  /-- Rows of the left table of a join that is written out. -/
  | multiTable (join : Join) (expression : String)
  /-- Rows of the left table, with the right table after `USING`. -/
  | usingRight (join : Join)
  /-- Rows of the left table that have a partner in the right one. -/
  | whereExists (join : Join)
  deriving Repr, DecidableEq

def DeleteForm.sql (whereSql : String) : DeleteForm → String
  | .plain table => s!"DELETE FROM {table}{whereSql}"
  | .multiTable join expression => s!"DELETE {join.leftTable} FROM {expression}{whereSql}"
  | .usingRight join =>
    s!"DELETE FROM {join.leftTable} USING {join.rightTable} "
      ++ s!"WHERE {join.condition}{Condition.fold whereSql}"
  | .whereExists join =>
    s!"DELETE FROM {join.leftTable} WHERE EXISTS "
      ++ s!"(SELECT * FROM {join.rightTable} WHERE {join.condition}{Condition.fold whereSql})"

namespace Dialect

def joinDeleteForm (dialect : Dialect) (expression : String) (join : Join) : DeleteForm :=
  match dialect with
  | .mysql => .multiTable join expression
  | .postgresql => .usingRight join
  | .oracle | .firebird | .sqlite => .whereExists join

/-- Whether a join has no influence on which left rows are deleted. -/
def joinIsIdle (join : Join) (whereSql : String) : Bool :=
  join.kind == .left && !Condition.references whereSql join.rightTable

/-- The form of the DELETE for a table or a join of two tables. -/
def deleteForm (dialect : Dialect) (table whereSql : String) : DeleteForm :=
  match Join.find? table with
  | none => .plain (trim table)
  | some join =>
    if joinIsIdle join whereSql then .plain join.leftTable
    else dialect.joinDeleteForm (trim table) join

def deleteSql (dialect : Dialect) (table whereSql : String) : String :=
  (dialect.deleteForm table whereSql).sql whereSql

end Dialect

end SqlToolkit
