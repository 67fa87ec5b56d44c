import SqlToolkit.Dialect.Basic
import SqlToolkit.Settings.Basic

/-!
# Ports

A connection uses the port of its settings. If they give none, or one that counts as false such as
zero, it is the port that belongs to the dialect.
-/

namespace SqlToolkit.Settings

/-- The port of a connection in a dialect; null if the dialect has none either. -/
def portFor (settings : Settings) (dialect : Dialect) : Value :=
  orElse settings.port
    ((dialect.defaultPort.map fun port => Value.int (Int.ofNat port)).getD .null)

end SqlToolkit.Settings
