import SqlToolkit.Builder.Descriptor
import SqlToolkit.Client.Statement
import SqlToolkit.Log

/-!
# The state of a query builder

A builder composes one statement at a time, on one client and in one dialect, and keeps what it
needs to know about the last statement that was executed.
-/

namespace SqlToolkit

/-- The descriptor of the last executed statement: the current one as long as no new statement was
started, and the one it was then. -/
inductive LastDescriptor where
  | none
  | current
  | retired (descriptor : Descriptor)

structure LastRun where
  descriptor : LastDescriptor := .none
  sql : Option String := .none
  placeholders : Value.Entries := []
  wasRead : Bool := false
  wasInsert : Bool := false
  affected : Int := 0
  insertId : Value := .null

structure Builder (σ : Type) where
  client : Client σ
  dialect : Dialect
  /-- The debug mode in force when none is set for one statement only. -/
  debugDefault : DebugMode := .off
  /-- The debug mode of the next execution. -/
  debugOnce : Option DebugMode := none
  descriptor : Descriptor := {}
  /-- The rows of the last executed statement. -/
  result : Option PreparedStatement := none
  entries : List DebugEntry := []
  last : LastRun := {}
  /-- What one run of a statement takes by the builder's clock. -/
  lap : Duration := {}
  log : List LogEvent := []

structure ExecutionResult where
  kind : QueryKind
  sql : String
  affectedRows : Int := 0
  lastInsertId : Value := .null
  elapsed : Duration := {}
  isRead : Bool := false
  /-- The write was rolled back or not sent, because of the debug mode. -/
  simulated : Bool := false

/-- A read counts as true, and a write that affected a row. -/
def ExecutionResult.truthy (result : ExecutionResult) : Bool :=
  result.isRead || result.affectedRows > 0

namespace Builder

variable {σ : Type}

def clientPart : Part (Builder σ) (Client σ) :=
  ⟨Builder.client, fun client builder => { builder with client }⟩

def create (dialect : Dialect) (client : Client σ) (debug : Value) (lap : Duration) :
    Attempt (Builder σ) := do
  return { client, dialect, debugDefault := ← DebugMode.ofValue debug, lap }

def debugMode (builder : Builder σ) : DebugMode :=
  match builder.debugOnce with
  | some mode => if mode.enabled then mode else builder.debugDefault
  | none => builder.debugDefault

end Builder

end SqlToolkit
