import SqlToolkit.Client.Basic
import SqlToolkit.Entries
import SqlToolkit.Value.Binding

/-!
# Prepared statements

A statement with the values bound to it and, once it was run, the rows that have not been fetched
yet. Rows are delivered once and in order, in the shape that the fetch mode asks for.
-/

namespace SqlToolkit

structure Cursor where
  columns : Option (List String)
  /-- The rows that were not fetched yet. -/
  pending : List (List Value)
  affected : Int

/-- A statement on its way: bound values, and rows once it was run. -/
structure PreparedStatement where
  sql : String
  bindings : Value.Entries := []
  cursor : Option Cursor := none

def FetchMode.shape (mode : FetchMode) (columns : List String) (row : List Value) : Attempt Value :=
  match mode with
  | .num => .ok (.tuple row)
  | .column =>
    match row with
    | first :: _ => .ok first
    | [] => .error .missingPosition
  | .assoc =>
    .ok (.map ((Entries.ofList (columns.zip row)).map fun field => (.text field.1, field.2)))
  | .object => .ok (.object (Entries.ofList (columns.zip row)))

namespace PreparedStatement

/-! ## Binding -/

/-- A binding key as it is stored: a name without the colons at its front. -/
def bindingKey : Value → Value
  | .text name => .text (String.ofList (name.toList.dropWhile (· == ':')))
  | key => key

def bind (statement : PreparedStatement) (key value : Value) (hint : ParamType) :
    Attempt PreparedStatement := do
  let coerced ← value.coerce hint
  if key.isKey then
    return { statement with bindings := Entries.insert (bindingKey key) coerced statement.bindings }
  else throw .wrongKind

/-- Binds every value under its own type hint, up to the first that is refused. -/
def bindAll (statement : PreparedStatement) (placeholders : Value.Entries) :
    Attempt PreparedStatement :=
  placeholders.foldlM (fun bound entry => bound.bind entry.1 entry.2 entry.2.paramType) statement

def bound? (bindings : Value.Entries) (key : MarkerKey) : Option Value :=
  Entries.get? key.toValue bindings

/-- The values for the markers of a statement, in the form that the driver takes. A driver that
takes names gets each name once. -/
def arguments (style : Paramstyle) (bindings : Value.Entries) (keys : List MarkerKey) :
    Attempt Arguments :=
  match keys.filter fun key => (bound? bindings key).isNone with
  | [] =>
    if style.takesNames then
      .ok (.named (Entries.ofList
        (keys.map fun key => (key.argumentName, (bound? bindings key).getD .null))))
    else .ok (.positional (keys.map fun key => (bound? bindings key).getD .null))
  | missing => .error (.parameter (.unbound (missing.map fun key => key.toValue.display)))

/-! ## Running -/

variable {σ : Type} [Connection σ]

def execute (statement : PreparedStatement) : Action (Client σ) PreparedStatement := do
  let style := (← get).paramstyle
  let (sql, keys) := (Connection.parser σ).restyle statement.sql style
  let arguments ←
    if keys.isEmpty then pure none
    else some <$> Action.ofAttempt (arguments style statement.bindings keys)
  let result ← Client.run sql arguments
  return { statement with cursor := some ⟨result.columns, result.rows, result.affected⟩ }

/-- Prepares a statement, binds the values and runs it. -/
def run (sql : String) (placeholders : Value.Entries) : Action (Client σ) PreparedStatement := do
  let statement ← Action.ofAttempt (bindAll { sql } placeholders)
  statement.execute

def rowCount (statement : PreparedStatement) : Int :=
  match statement.cursor with
  | some cursor => cursor.affected
  | none => 0

/-! ## Fetching -/

/-- The next row, or null when there is none. -/
def fetch (statement : PreparedStatement) (fold : String → String) (mode : FetchMode) :
    Attempt Value × PreparedStatement :=
  match statement.cursor with
  | some ⟨some columns, row :: rest, affected⟩ =>
    (mode.shape (columns.map fold) row,
      { statement with cursor := some ⟨some columns, rest, affected⟩ })
  | _ => (.ok .null, statement)

def fetchAll (statement : PreparedStatement) (fold : String → String) (mode : FetchMode) :
    Attempt (List Value) × PreparedStatement :=
  match statement.cursor with
  | some ⟨some columns, rows, affected⟩ =>
    (rows.mapM (mode.shape (columns.map fold)),
      { statement with cursor := some ⟨some columns, [], affected⟩ })
  | _ => (.ok [], statement)

end PreparedStatement

end SqlToolkit
