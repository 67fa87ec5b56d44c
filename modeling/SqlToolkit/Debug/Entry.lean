import SqlToolkit.Entries
import SqlToolkit.Fault
import SqlToolkit.Text.CaseMap

/-!
# Captured statements

In debug mode every statement is captured with its values, its time and its outcome. An entry is
shown as a block of lines.
-/

namespace SqlToolkit

open SqlToolkit.Text

/-- A span of time in microseconds. -/
structure Duration where
  microseconds : Nat := 0
  deriving Repr, DecidableEq

def Duration.seconds (duration : Duration) : String :=
  toString (duration.microseconds / 1000000) ++ "."
    ++ padded 6 (duration.microseconds % 1000000)

namespace DebugMode

def enabled (mode : DebugMode) : Bool := mode != .off

/-- The mode that a value asks for: a mode, a truth value, or the word `silent` in any case. -/
def ofValue (value : Value) : Attempt DebugMode :=
  let refused : Attempt DebugMode := value.refuse fun shown => .parameter (.badDebugMode shown)
  match value with
  | .debugMode mode => .ok mode
  | .bool true => .ok .on
  | .bool false => .ok .off
  | .text word => if lower word == "silent" then .ok .silent else refused
  | _ => refused

end DebugMode

structure DebugEntry where
  kind : QueryKind
  /-- The statement with its values in place. -/
  sql : String
  placeholders : Value.Entries := []
  elapsed : Duration := {}
  error : Option String := none
  affectedRows : Option Int := none
  /-- The statement has no lasting effect. -/
  simulated : Bool := false
  /-- The statement was sent to the connection. -/
  executed : Bool := true

namespace DebugEntry

def simulationNotice : String :=
  "DEBUG mode enabled. The INSERT, UPDATE and DELETE queries are only simulated."

def notExecutedNotice : String := "No query was executed."

def valueLines (entry : DebugEntry) : List String :=
  if entry.placeholders.isEmpty then []
  else "PARAMS:" :: entry.placeholders.map fun value =>
    "  " ++ value.1.display ++ " = " ++ value.2.shown

def outcomeLines (entry : DebugEntry) : List String :=
  if !entry.executed then [notExecutedNotice]
  else
    match entry.affectedRows with
    | some count => [s!"AFFECTED ROWS: {count}"]
    | none => []

/-- Whether the keys, the values and the count of an entry can be written. -/
def isWritable (entry : DebugEntry) : Bool :=
  (entry.placeholders.all fun value => value.1.isWritable && value.2.isWritable)
    && entry.affectedRows.all Numeral.isWritable

/-- The lines of an entry. The SQL is laid out by the given function. -/
def lines (layout : String → String) (entry : DebugEntry) : List String :=
  (if entry.simulated then [simulationNotice] else [])
    ++ ((entry.error.filter (!·.isEmpty)).toList.map fun reason => "ERROR: " ++ reason)
    ++ ["TIMER: " ++ entry.elapsed.seconds ++ " s", "SQL:", layout entry.sql]
    ++ entry.valueLines ++ entry.outcomeLines

def render (layout : String → String) (entry : DebugEntry) : String :=
  "\n".intercalate (entry.lines layout)

/-- The blocks of several entries, an empty line between neighbours. -/
def renderAll (layout : String → String) (entries : List DebugEntry) : String :=
  "\n\n".intercalate (entries.map (render layout))

end DebugEntry

end SqlToolkit
