import SqlToolkit.Builder.Compose
import SqlToolkit.Statement.Interpolation
import SqlToolkit.Statement.Keyword

/-!
# Executing a statement

Statements that return rows run as they are. Writes run inside a transaction that the builder opens
and ends itself, unless one is open already or the database would end it. In debug mode an own
transaction is always rolled back, and a write that could not have one is captured but not sent.
-/

namespace SqlToolkit.Builder

variable {σ : Type}

def note (event : LogEvent) : Action (Builder σ) Unit :=
  modify fun builder => { builder with log := builder.log ++ [event] }

/-! ## Capturing statements -/

/-- Captures a statement if the mode asks for it, and logs it unless the mode is silent. The entry
is given without its SQL and values. One that cannot be written stays captured. -/
def capture (mode : DebugMode) (sql : String) (placeholders : Value.Entries) (entry : DebugEntry) :
    Action (Builder σ) Unit := do
  if mode.enabled then
    let shown ← Action.ofAttempt (Interpolation.interpolate sql placeholders)
    let entry := { entry with sql := shown, placeholders }
    modify fun builder => { builder with entries := builder.entries ++ [entry] }
    if mode = .on then
      if !entry.isWritable then throw .badValue
      note (.captured entry)

def forgetEntries : Action (Builder σ) Unit :=
  modify fun builder => { builder with entries := [] }

/-- Logs and captures a failed statement; the result is the fault to raise. -/
def executionFault (kind : QueryKind) (mode : DebugMode) (sql : String)
    (placeholders : Value.Entries) (reason : String) : Action (Builder σ) Fault := do
  let shown ← Action.ofAttempt (Interpolation.interpolate sql placeholders)
  note (.statementFailed kind reason)
  let lap := (← get).lap
  capture mode sql placeholders { kind, sql, elapsed := lap, error := some reason }
  return .execution reason shown placeholders

/-- Runs an action. A fault that is not the toolkit's own becomes an execution fault. -/
def guarded {α : Type} (kind : QueryKind) (mode : DebugMode) (sql : String)
    (placeholders : Value.Entries) (action : Action (Builder σ) α) : Action (Builder σ) α := do
  match ← Action.attempt action with
  | .ok result => return result
  | .error fault =>
    if fault.isToolkit then throw fault
    else throw (← executionFault kind mode sql placeholders fault.message)

/-! ## Transactions -/

variable [Connection σ]

def onClient {α : Type} (action : Action (Client σ) α) : Action (Builder σ) α :=
  Action.on clientPart action

/-- Rolls an own transaction back after a fault, if it is still open. -/
def abandon (owned : Bool) : Action (Builder σ) Unit := do
  if owned && (← get).client.inTransaction then onClient Client.rollback

def conclude (owned rollbackOnly : Bool) : Action (Builder σ) Unit := do
  if owned then onClient (if rollbackOnly then Client.rollback else Client.commit)

/-- Runs a body that is one write. An owned guard begins a transaction, rolls it back when the body
fails or asks for it, and commits it otherwise. A guard that is not owned leaves transactions alone.
The body runs on a larger state of which the builder is a part. -/
def transactionScope {S α : Type} (part : Part S (Builder σ)) (owned : Bool)
    (body : Action S (α × Bool)) : Action S α := do
  if owned then Action.on part (onClient Client.beginTransaction)
  match ← Action.attempt body with
  | .error fault =>
    Action.on part (abandon owned)
    throw fault
  | .ok (result, rollbackOnly) =>
    Action.on part (conclude owned rollbackOnly)
    return result

/-! ## Execution -/

def remember (statement : PreparedStatement) (last : LastRun) : Action (Builder σ) Unit :=
  modify fun builder => { builder with result := some statement, last, debugOnce := none }

def executeQuery : Action (Builder σ) ExecutionResult := do
  let builder ← get
  let kind := builder.descriptor.kind
  let mode := builder.debugMode
  let sql ← Action.ofAttempt builder.sql
  let placeholders ← Action.ofAttempt builder.placeholders
  let statement ← guarded kind mode sql placeholders
    (onClient (PreparedStatement.run sql placeholders))
  remember statement
    { builder.last with
      descriptor := .current, sql := some sql, placeholders, wasRead := true, wasInsert := false }
  capture mode sql placeholders { kind, sql, elapsed := builder.lap }
  return { kind, sql, elapsed := builder.lap, isRead := true }

def insertsRows (parser : SqlParser) (kind : QueryKind) (sql : String) : Bool :=
  kind == .insert || (kind == .raw && parser.isInsert sql)

def captureOnly (kind : QueryKind) (mode : DebugMode) (sql : String)
    (placeholders : Value.Entries) : Action (Builder σ) ExecutionResult := do
  capture mode sql placeholders { kind, sql, simulated := true, executed := false }
  modify fun builder => { builder with debugOnce := none }
  return { kind, sql, simulated := true }

/-- What a write that was sent gave: the statement, and the id of an inserted row. -/
def sendWrite (sql : String) (placeholders : Value.Entries) (wantsId rollbackOnly : Bool) :
    Action (Builder σ) ((PreparedStatement × Value) × Bool) := do
  let statement ← onClient (PreparedStatement.run sql placeholders)
  let client := (← get).client
  return ((statement, if wantsId then client.lastRowId else .null), rollbackOnly)

/-- Whether a write gets a transaction of its own: none is open, and the database would not end
it. -/
def ownsTransaction (builder : Builder σ) (sql : String) : Bool :=
  !builder.client.inTransaction && !Statement.commitsImplicitly sql

/-- Remembers and captures a write that the builder sent; the result is what it gave. -/
def rememberWrite (builder : Builder σ) (sql : String) (placeholders : Value.Entries)
    (statement : PreparedStatement) (insertId : Value) : Action (Builder σ) ExecutionResult := do
  let kind := builder.descriptor.kind
  let mode := builder.debugMode
  let affected := statement.rowCount
  remember statement
    { descriptor := .current, sql := some sql, placeholders, wasRead := false
      wasInsert := insertsRows (Connection.parser σ) kind sql
      affected := max affected 0
      insertId }
  capture mode sql placeholders
    { kind, sql, elapsed := builder.lap, affectedRows := some affected,
      simulated := mode.enabled }
  return {
    kind, sql, affectedRows := max affected 0, lastInsertId := insertId, elapsed := builder.lap
    simulated := mode.enabled }

/-- Runs the current statement as a write. -/
def executeStatement : Action (Builder σ) ExecutionResult := do
  let builder ← get
  let kind := builder.descriptor.kind
  let mode := builder.debugMode
  let sql ← Action.ofAttempt builder.sql
  let placeholders ← Action.ofAttempt builder.placeholders
  let owned := builder.ownsTransaction sql
  if mode.enabled && !owned then captureOnly kind mode sql placeholders
  else
    let wantsId :=
      insertsRows (Connection.parser σ) kind sql && builder.dialect.supportsLastInsertId
    let (statement, insertId) ← guarded kind mode sql placeholders
      (transactionScope Part.whole owned (sendWrite sql placeholders wantsId mode.enabled))
    builder.rememberWrite sql placeholders statement insertId

def isRead (parser : SqlParser) (descriptor : Descriptor) : Bool :=
  match descriptor.kind with
  | .select => true
  | .raw => descriptor.rawSql.text?.any parser.isRead
  | _ => false

def execute : Action (Builder σ) ExecutionResult := do
  if isRead (Connection.parser σ) (← get).descriptor then executeQuery else executeStatement

end SqlToolkit.Builder
