import SqlToolkit.Action
import SqlToolkit.Connection.Basic
import SqlToolkit.Statement.Marker
import SqlToolkit.Text.CaseMap

/-!
# Clients

A client runs statements on a connection and keeps transactions. Outside an explicit transaction
every statement is settled at once: committed when it succeeded, rolled back when it failed. The
client keeps the list of the calls that it made.
-/

namespace SqlToolkit

open SqlToolkit.Text

structure Client (σ : Type) where
  connection : σ
  paramstyle : Paramstyle := .qmark
  /-- The names `upper` and `lower` fold the names of result columns; others leave them alone. -/
  columnCase : Option String := none
  inTransaction : Bool := false
  /-- The row id that the last statement reported. -/
  lastRowId : Value := .null
  /-- The calls made so far, the last one at the end. -/
  calls : List Call := []

namespace Client

variable {σ : Type}

def foldCase (client : Client σ) (name : String) : String :=
  match client.columnCase with
  | some "upper" => upper name
  | some "lower" => lower name
  | _ => name

def folds (client : Client σ) : Bool :=
  client.columnCase == some "upper" || client.columnCase == some "lower"

/-- A value in the case that the client asks for; only a text has one. -/
def foldName (client : Client σ) (name : Value) : Attempt Value :=
  match name with
  | .text name => .ok (.text (client.foldCase name))
  | name => if client.folds then .error .missingAttribute else .ok name

variable [Connection σ]

/-! ## Calls -/

/-- Makes a call. It is recorded whether it succeeds or not. -/
def send {α : Type} (call : Call) (step : σ → Except String α × σ) : Action (Client σ) α :=
  fun client =>
    let (result, connection) := step client.connection
    let client := { client with connection, calls := client.calls ++ [call] }
    match result with
    | .ok value => .ok value client
    | .error message => .error (.driver message) client

def sendCommit : Action (Client σ) Unit := send .commit Connection.commit

def sendRollback : Action (Client σ) Unit := send .rollback Connection.rollback

def sendStatement (sql : String) (arguments : Option Arguments) : Action (Client σ) ResultSet :=
  send (.execute sql arguments) (Connection.execute sql arguments)

/-! ## Statements -/

/-- Settles a statement outside an explicit transaction, if there is work to settle. -/
def settle (ending : Action (Client σ) Unit) : Action (Client σ) Unit := do
  let client ← get
  if !client.inTransaction && Connection.hasOpenWork client.connection then ending

/-- Runs a statement and settles it: a success is committed and a failure rolled back, unless a
transaction is open. A failure to settle takes the place of the statement's own outcome. -/
def run (sql : String) (arguments : Option Arguments) : Action (Client σ) ResultSet := do
  match ← Action.attempt (sendStatement sql arguments) with
  | .ok result =>
    modify fun client => { client with lastRowId := result.rowId.getD .null }
    settle sendCommit
    return result
  | .error fault =>
    settle sendRollback
    throw fault

/-- Runs a statement without values; the result is the number of rows it affected. -/
def exec (sql : String) : Action (Client σ) Int := do
  return (← run sql none).affected

/-! ## Transactions -/

def beginTransaction : Action (Client σ) Unit := do
  if (← get).inTransaction then throw (.transaction .alreadyActive)
  modify fun client => { client with inTransaction := true }

/-- Ends the transaction with a call. It is over even if the call fails. -/
def endTransaction (ending : Action (Client σ) Unit) : Action (Client σ) Unit := do
  if !(← get).inTransaction then throw (.transaction .noneActive)
  let result ← Action.attempt ending
  modify fun client => { client with inTransaction := false }
  Action.ofAttempt result

def commit : Action (Client σ) Unit := endTransaction sendCommit

def rollback : Action (Client σ) Unit := endTransaction sendRollback

def close : Action (Client σ) Unit :=
  send .close fun connection => (.ok (), Connection.close connection)

end Client

end SqlToolkit
