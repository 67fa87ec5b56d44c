import SqlToolkit.Statement.Parser
import SqlToolkit.Value.Basic

/-!
# Connections

What a database connection can do. A connection runs statements, ends transactions and can be
closed; each of these may fail with a message. Some connections tell whether a transaction holds
work that is not settled yet; the others are taken to hold some always. With the connection comes
the package that reads the SQL sent over it.
-/

namespace SqlToolkit

inductive Arguments where
  | positional (values : List Value)
  | named (values : List (String × Value))

/-- What a statement gave: the names of its columns if it has rows, the rows, the number of rows it
affected, and the id of the row it inserted if the connection reports one. -/
structure ResultSet where
  columns : Option (List String) := none
  rows : List (List Value) := []
  affected : Int := 0
  rowId : Option Value := none

/-- A database connection with states of type `σ`, and the package that reads its SQL. -/
class Connection (σ : Type) where
  parser : SqlParser := .standard
  /-- Runs a statement, with values if it has markers. -/
  execute : String → Option Arguments → σ → Except String ResultSet × σ
  commit : σ → Except String Unit × σ
  rollback : σ → Except String Unit × σ
  close : σ → σ
  /-- Whether there may be work that a commit or a rollback would settle. -/
  hasOpenWork : σ → Bool

inductive Call where
  | execute (sql : String) (arguments : Option Arguments)
  | commit
  | rollback
  | close

def Call.settles : Call → Bool
  | .commit | .rollback => true
  | .execute _ _ | .close => false

end SqlToolkit
