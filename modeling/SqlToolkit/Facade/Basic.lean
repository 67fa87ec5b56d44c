import SqlToolkit.Builder.Results
import SqlToolkit.Facade.ColumnCache
import SqlToolkit.Facade.CountFields

/-!
# The database facade

One call for each common statement. Every call composes a statement on the builder, chooses the
debug mode and executes it. A debug mode that was set for one call is used up by the first call that
gets as far as choosing its mode.
-/

namespace SqlToolkit

structure Facade (σ : Type) where
  builder : Builder σ
  cache : ColumnCache := {}
  /-- The debug mode of the next call. -/
  pendingDebug : Option DebugMode := none
  /-- The time by the clock of the cache, in microseconds. -/
  now : Int := 0

namespace Facade

variable {σ : Type}

def builderPart : Part (Facade σ) (Builder σ) :=
  ⟨Facade.builder, fun builder facade => { facade with builder }⟩

def onBuilder {α : Type} (action : Action (Builder σ) α) : Action (Facade σ) α :=
  Action.on builderPart action

def advance (span : Int) : Action (Facade σ) Unit :=
  modify fun facade => { facade with now := facade.now + span }

def setDebugOnce (mode : Value) : Action (Facade σ) Unit := do
  let mode ← Action.ofAttempt (DebugMode.ofValue mode)
  modify fun facade => { facade with pendingDebug := some mode }

/-- The debug mode of this call: the one set for it, unless the call brings its own. -/
def takeDebug (debug : Value) : Action (Facade σ) Value := do
  let pending := (← get).pendingDebug
  modify fun facade => { facade with pendingDebug := none }
  match pending with
  | none => return debug
  | some mode =>
    let own ← Action.ofAttempt (DebugMode.ofValue debug)
    return if own.enabled then debug else .debugMode mode

variable [Connection σ]

/-- Composes a statement, chooses the debug mode and executes. -/
def runWith (compose : Action (Builder σ) Unit) (debug : Value) :
    Action (Facade σ) ExecutionResult := do
  onBuilder compose
  let mode ← takeDebug debug
  onBuilder (Builder.setDebugOnce mode)
  onBuilder Builder.execute

/-! ## Raw statements -/

def query (sql placeholders debug : Value) : Action (Facade σ) ExecutionResult :=
  runWith (do
    Builder.rawQuery sql
    Builder.addPlaceholders placeholders) debug

def fetch (mode : FetchMode) : Action (Facade σ) Value := onBuilder (Builder.fetch mode)

def fetchAll (mode : FetchMode) : Action (Facade σ) (List Value) :=
  onBuilder (Builder.fetchAll mode)

def queryRow (sql placeholders : Value) (mode : FetchMode) (debug : Value) :
    Action (Facade σ) Value := do
  let _ ← query sql placeholders debug
  fetch mode

def queryValue (sql placeholders debug : Value) : Action (Facade σ) Value := do
  return Builder.firstColumn (← queryRow sql placeholders .num debug)

/-! ## Selecting -/

/-- What is selected, from where, under which condition and with which parameters. -/
structure Selection where
  table : Value
  fields : Value := .text "*"
  condition : Value := .null
  parameters : Value := .null

def select (selection : Selection) (debug : Value) : Action (Facade σ) ExecutionResult :=
  runWith (do
    Builder.select selection.fields
    Builder.fromTable selection.table
    Builder.filter selection.condition
    Builder.setParameters selection.parameters) debug

def allRows : Value := .map [(.text "*", .text "rowsCount")]

/-- The row of counts that the fields list, or null. -/
def selectCount (selection : Selection) (debug : Value) (mode : FetchMode) :
    Action (Facade σ) Value := do
  let fields := match selection.fields with
    | .null => allRows
    | fields => fields
  let counts ← Action.ofAttempt (fields.write CountFields.sql)
  let _ ← select { selection with fields := .text counts } debug
  fetch mode

/-- The first row of a SELECT that is limited to one row, or null. -/
def selectRow (selection : Selection) (mode : FetchMode) (debug : Value) :
    Action (Facade σ) Value := do
  let parameters ← Action.ofAttempt (Builder.settingEntries selection.parameters)
  let limited := Value.map (Entries.insert (.text "limit") (.int 1) parameters)
  let _ ← select { selection with parameters := limited } debug
  fetch mode

def selectValue (selection : Selection) (debug : Value) : Action (Facade σ) Value := do
  return Builder.firstColumn (← selectRow selection .num debug)

/-! ## Writing -/

def insert (table values debug : Value) : Action (Facade σ) Int := do
  return (← runWith (Builder.insert table values) debug).affectedRows

def update (table values condition debug : Value) : Action (Facade σ) Int := do
  return (← runWith (Builder.update table values condition) debug).affectedRows

def delete (table condition debug : Value) : Action (Facade σ) Int := do
  return (← runWith (Builder.delete table condition) debug).affectedRows

/-! ## The catalog -/

def columns (table : String) (mode : FetchMode) (debug : Value) :
    Action (Facade σ) (List Value) := do
  let facade ← get
  let catalog ← Action.ofAttempt (facade.builder.dialect.columnsQuery table)
  let _ ← query (.text catalog.sql) (.map (Descriptor.asPlaceholders catalog.placeholders)) debug
  fetchAll mode

def cacheKey (table : String) : String := Text.lower (Text.trim table)

def namesIn (dialect : Dialect) (rows : List Value) : Attempt (List Value) :=
  rows.mapM fun row => Rows.field row (.text dialect.columnNameKey)

/-- The column names of a table, from the cache if they are there. -/
def columnNames (table : String) : Action (Facade σ) (List Value) := do
  let facade ← get
  match facade.cache.find? facade.now (cacheKey table) with
  | some entry =>
    modify fun facade => { facade with cache := facade.cache.touch entry }
    return entry.names
  | none =>
    let rows ← columns table .assoc (.bool false)
    let names ← Action.ofAttempt (namesIn facade.builder.dialect rows)
    let cache ← Action.ofAttempt ((← get).cache.store facade.now (cacheKey table) names)
    modify fun facade => { facade with cache }
    return names

def forgetColumns (table : Option String) : Action (Facade σ) Unit :=
  modify fun facade =>
    { facade with
      cache := match table with
        | none => facade.cache.clear
        | some table => facade.cache.erase (cacheKey table) }

def tables (debug : Value) : Action (Facade σ) (List Value) := do
  let facade ← get
  let _ ← query (.text facade.builder.dialect.tablesSql) .null debug
  fetchAll .column

/-! ## Transactions -/

/-- Runs a body as one transaction: committed when the body completes, rolled back when a fault
leaves it. The body runs on a larger state of which the facade is a part. -/
def transaction {S α : Type} (part : Part S (Facade σ)) (body : Action S α) : Action S α := do
  Action.on part (onBuilder Builder.beginTransaction)
  match ← Action.attempt body with
  | .error fault =>
    Action.on part (onBuilder Builder.rollbackTransaction)
    throw fault
  | .ok result =>
    Action.on part (onBuilder Builder.commitTransaction)
    return result

end Facade

end SqlToolkit
