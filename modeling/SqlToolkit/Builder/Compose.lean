import SqlToolkit.Builder.State
import SqlToolkit.Rows

/-!
# Composing a statement

Each entry point starts a new statement and forgets the last one; the setters fill it in. A refused
value may leave a statement half started: what was set before it stays set.
-/

namespace SqlToolkit.Builder

open SqlToolkit.Text

variable {σ : Type}

/-! ## Starting a statement -/

/-- The descriptor of the last executed statement when a new one is started. -/
def LastRun.retire (last : LastRun) (descriptor : Descriptor) : LastRun :=
  match last.descriptor with
  | .current => { last with descriptor := .retired descriptor }
  | _ => last

def cleared (builder : Builder σ) : Builder σ :=
  { builder with
    descriptor := {}
    debugOnce := none
    result := none
    last := LastRun.retire builder.last builder.descriptor }

def edit (change : Descriptor → Descriptor) : Action (Builder σ) Unit :=
  modify fun builder => { builder with descriptor := change builder.descriptor }

def clear : Action (Builder σ) Unit := modify cleared

def rawQuery (sql : Value) : Action (Builder σ) Unit := do
  clear
  edit fun descriptor => { descriptor with kind := .raw, rawSql := sql }

/-- The fields of a SELECT: a text, or a list of texts. -/
def fieldList (fields : Value) : Attempt String := do
  let items ←
    match fields with
    | .text content => pure [.text content]
    | fields => Rows.items fields
  let written :=
    Descriptor.listed (← items.mapM fun item => item.write fun item => trim item.display)
  return if written.isEmpty then "*" else written

def select (fields : Value) : Action (Builder σ) Unit := do
  clear
  edit fun descriptor => { descriptor with kind := .select }
  let fields ← Action.ofAttempt (fieldList fields)
  edit fun descriptor => { descriptor with fields }

/-- Sets the condition. The names of the column values are not used again for it. -/
def filter (condition : Value) : Action (Builder σ) Unit := do
  let descriptor := (← get).descriptor
  let reserved ← Action.ofAttempt descriptor.valuePlaceholders
  let (result, clause) := descriptor.clause.set condition (Entries.keys reserved)
  edit fun descriptor => { descriptor with clause }
  Action.ofAttempt result

/-- The entries of the column values; only a map has them. -/
def columnValues : Value → Attempt Value.Entries
  | .map entries => .ok (Value.formattedEntries entries)
  | _ => .error .missingAttribute

/-- A table expression, a text or a byte string, without the blanks around it. -/
def tableExpression : Value → Attempt Value
  | .text table => .ok (.text (trim table))
  | .bytes table => .ok (.bytes (trimBytes table))
  | _ => .error .missingAttribute

def fromTable (table : Value) : Action (Builder σ) Unit := do
  let table ← Action.ofAttempt (tableExpression table)
  edit fun descriptor => { descriptor with table }

/-- Starts a statement that writes column values to a table, unless there are none. -/
def startWrite (kind : QueryKind) (nothing : String → Fault) (table values : Value) :
    Action (Builder σ) Unit := do
  clear
  if !values.truthy then throw (nothing (← Action.ofAttempt (table.write Value.display)))
  edit fun descriptor => { descriptor with kind }
  fromTable table
  let values ← Action.ofAttempt (columnValues values)
  edit fun descriptor => { descriptor with values }

def insert (table values : Value) : Action (Builder σ) Unit := do
  startWrite .insert .nothingToInsert table values
  let _ ← Action.ofAttempt (← get).descriptor.valuePlaceholders

def update (table values condition : Value) : Action (Builder σ) Unit := do
  startWrite .update .nothingToUpdate table values
  filter condition

def delete (table condition : Value) : Action (Builder σ) Unit := do
  clear
  edit fun descriptor => { descriptor with kind := .delete }
  fromTable table
  filter condition

/-! ## Filling in a statement -/

def editParameters (change : Parameters → Parameters) : Action (Builder σ) Unit :=
  edit fun descriptor => { descriptor with parameters := change descriptor.parameters }

def distinct (flag : Value) : Action (Builder σ) Unit :=
  editParameters fun parameters => { parameters with selectDistinct := flag }

def groupBy (grouping : Value) : Action (Builder σ) Unit :=
  editParameters fun parameters => { parameters with groupBy := grouping }

def orderBy (order : Value) : Action (Builder σ) Unit :=
  editParameters fun parameters => { parameters with orderBy := order }

def checkLimit (limit : Value) : Attempt Unit :=
  if limit.isUnset then .ok () else (Limit.parse limit).map fun _ => ()

def limit (limit : Value) : Action (Builder σ) Unit := do
  Action.ofAttempt (checkLimit limit)
  editParameters fun parameters => { parameters with limit }

def pairEntry (pair : Value) : Attempt (Value × Value) := do
  match ← Rows.items pair with
  | [key, value] => if key.isKey then return (key, value) else throw .wrongKind
  | _ => throw .badValue

/-- The entries of settings that may be missing: those of a map or of a collection of pairs. -/
def settingEntries (settings : Value) : Attempt Value.Entries :=
  match settings with
  | .map entries => .ok entries
  | settings =>
    if settings.truthy then do
      return Entries.ofList (← (← Rows.items settings).mapM pairEntry)
    else .ok []

/-- Sets several parameters, unless the limit among them cannot be read. -/
def setParameters (settings : Value) : Action (Builder σ) Unit := do
  let entries ← Action.ofAttempt (settingEntries settings)
  Action.ofAttempt (checkLimit ((Entries.get? (.text "limit") entries).getD .null))
  let (result, parameters) := (← get).descriptor.parameters.update entries
  editParameters fun _ => parameters
  Action.ofAttempt result

/-- Values with their positions, counted from one. -/
def numbered (values : List Value) : Value.Entries :=
  values.zipIdx.map fun (value, index) => (.int (Int.ofNat (index + 1)), value.formatted)

/-- Values for markers: by name or position in a map, by position in a list. -/
def placeholderEntries (placeholders : Value) : Attempt Value.Entries :=
  match placeholders with
  | .null => .ok []
  | .map entries => .ok (Value.formattedEntries entries)
  | values => (Rows.items values).map numbered

def addPlaceholders (placeholders : Value) : Action (Builder σ) Unit := do
  let entries ← Action.ofAttempt (placeholderEntries placeholders)
  edit fun descriptor =>
    { descriptor with placeholders := Entries.merge descriptor.placeholders entries }

/-! ## Debug modes -/

def setDebugOnce (mode : Value) : Action (Builder σ) Unit := do
  let mode ← Action.ofAttempt (DebugMode.ofValue mode)
  modify fun builder => { builder with debugOnce := some mode }

def setDebug (mode : Value) : Action (Builder σ) Unit := do
  let mode ← Action.ofAttempt (DebugMode.ofValue mode)
  modify fun builder => { builder with debugDefault := mode }

/-! ## Looking at the statement -/

def sql (builder : Builder σ) : Attempt String := builder.descriptor.sql builder.dialect

/-- The SQL of the current statement as it can be looked at. That of a raw statement is what was
given, even if it is no text. -/
def written (builder : Builder σ) : Attempt Value :=
  match builder.descriptor.kind with
  | .raw => .ok builder.descriptor.rawSql
  | _ => builder.sql.map .text

def placeholders (builder : Builder σ) : Attempt Value.Entries :=
  builder.descriptor.boundPlaceholders

end SqlToolkit.Builder
