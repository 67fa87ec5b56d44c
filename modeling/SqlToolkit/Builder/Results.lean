import SqlToolkit.Builder.Execute
import SqlToolkit.Statement.CountProbe

/-!
# Results of the last statement

Fetching rows, counting them, and asking for the id of an inserted row. A read is counted by the
database, with a statement made for it, if it has one and the database accepts it; otherwise it runs
again and its rows are counted.
-/

namespace SqlToolkit.Builder

variable {σ : Type}

/-! ## Rows -/

/-- Runs a fetch on the rows of the last executed statement, if there are any. -/
def fetchWith {α : Type} (nothing : α)
    (fetch : PreparedStatement → Attempt α × PreparedStatement) : Action (Builder σ) α := do
  match (← get).result with
  | none => return nothing
  | some statement =>
    let (result, statement) := fetch statement
    modify fun builder => { builder with result := some statement }
    Action.ofAttempt result

def fetch (mode : FetchMode) : Action (Builder σ) Value := do
  let client := (← get).client
  fetchWith .null fun statement => statement.fetch client.foldCase mode

def fetchAll (mode : FetchMode) : Action (Builder σ) (List Value) := do
  let client := (← get).client
  fetchWith [] fun statement => statement.fetchAll client.foldCase mode

def dropResult : Action (Builder σ) Unit :=
  modify fun builder => { builder with result := none }

def firstColumn : Value → Value
  | .tuple (first :: _) => first
  | _ => .null

/-! ## Counting -/

def lastDescriptor? (builder : Builder σ) : Option Descriptor :=
  match builder.last.descriptor with
  | .none => none
  | .current => some builder.descriptor
  | .retired descriptor => some descriptor

def probe? (builder : Builder σ) (sql : String) : Option String :=
  Statement.countProbe? sql (builder.lastDescriptor?.bind Descriptor.countExpression?)

variable [Connection σ]

def countAgain (sql : String) (placeholders : Value.Entries) : Action (Builder σ) Int := do
  let builder ← get
  guarded .raw builder.debugMode sql placeholders do
    let statement ← onClient (PreparedStatement.run sql placeholders)
    let (rows, _) := statement.fetchAll builder.client.foldCase .num
    return (← Action.ofAttempt rows).length

/-- The number that a counting statement gave. -/
def countOf (row : Value) : Attempt Int :=
  match row with
  | .tuple (first :: _) => first.toInteger
  | _ => .ok 0

def runProbe (probe : String) (placeholders : Value.Entries) : Action (Builder σ) Value := do
  let statement ← onClient (PreparedStatement.run probe placeholders)
  let (row, _) := statement.fetch (← get).client.foldCase .num
  Action.ofAttempt row

def countRead (sql : String) (placeholders : Value.Entries) : Action (Builder σ) Int := do
  let builder ← get
  match builder.probe? sql with
  | none => countAgain sql placeholders
  | some probe =>
    match ← Action.attempt (runProbe probe placeholders) with
    | .ok row =>
      capture builder.debugMode probe placeholders
        { kind := .raw, sql := probe, elapsed := builder.lap }
      Action.ofAttempt (countOf row)
    | .error fault =>
      if fault.isToolkit then throw fault
      note (.probeFailed fault.message)
      countAgain sql placeholders

/-- The number of rows that the last read returned or the last write affected. -/
def numRows : Action (Builder σ) Int := do
  let last := (← get).last
  match last.sql with
  | none => throw (.sequence .nothingExecuted)
  | some sql => if last.wasRead then countRead sql last.placeholders else return last.affected

/-! ## Inserted rows and greatest values -/

def lastInsertId (builder : Builder σ) : Attempt Value :=
  if !builder.last.wasInsert then .error (.sequence .noInsert)
  else if !builder.dialect.supportsLastInsertId then .error (.noLastInsertId builder.dialect.name)
  else .ok builder.last.insertId

def maximum (table column : Value) : Action (Builder σ) Value := do
  let column ← Action.ofAttempt (column.write Value.display)
  select (.text s!"MAX({column})")
  fromTable table
  let _ ← executeQuery
  return firstColumn (← fetch .num)

/-! ## Explicit transactions -/

def beginTransaction : Action (Builder σ) Unit := onClient Client.beginTransaction

def commitTransaction : Action (Builder σ) Unit := onClient Client.commit

def rollbackTransaction : Action (Builder σ) Unit := onClient Client.rollback

end SqlToolkit.Builder
