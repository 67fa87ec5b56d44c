import SqlToolkit.Connection.Basic

/-!
# Scripted connections

A connection that answers from a list. Each statement takes the next response, and an empty
response when none is left. Commits and rollbacks take their failures from lists of their own.
-/

namespace SqlToolkit

structure Response where
  failure : Option String := none
  /-- The statement begins work that has to be settled. -/
  opens : Bool := false
  result : ResultSet := {}

/-- A connection that answers from a script. -/
structure Scripted where
  responses : List Response := []
  commitFailures : List (Option String) := []
  rollbackFailures : List (Option String) := []
  /-- Whether the connection tells about open work. -/
  tellsWork : Bool := false
  working : Bool := false
  /-- Whether a failed statement aborts the transaction. -/
  abortsOnFailure : Bool := false
  aborted : Bool := false

namespace Scripted

def abortedMessage : String := "current transaction is aborted"

def execute (connection : Scripted) : Except String ResultSet × Scripted :=
  if connection.aborted then (.error abortedMessage, connection)
  else
    let response := connection.responses.headD {}
    let rest := { connection with responses := connection.responses.tail }
    match response.failure with
    | some message => (.error message, { rest with aborted := rest.abortsOnFailure })
    | none =>
      (.ok response.result,
        { rest with working := rest.working || (response.opens && rest.tellsWork) })

/-- Ends the transaction, unless the script lets the commit fail. -/
def commit (connection : Scripted) : Except String Unit × Scripted :=
  let rest := { connection with commitFailures := connection.commitFailures.tail }
  match connection.commitFailures.headD none with
  | some message => (.error message, rest)
  | none => (.ok (), { rest with working := false })

/-- Undoes the transaction, unless the script lets the rollback fail. -/
def rollback (connection : Scripted) : Except String Unit × Scripted :=
  let rest := { connection with rollbackFailures := connection.rollbackFailures.tail }
  match connection.rollbackFailures.headD none with
  | some message => (.error message, rest)
  | none => (.ok (), { rest with working := false, aborted := false })

instance : Connection Scripted where
  execute _ _ connection := connection.execute
  commit := commit
  rollback := rollback
  close := id
  hasOpenWork connection := !connection.tellsWork || connection.working

end Scripted

end SqlToolkit
