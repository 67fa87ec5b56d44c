import SqlToolkit.Value.Printing

/-!
# Faults

Why an operation was refused or failed. A fault of the toolkit states its cause; `message` is the
only place that words it. The remaining faults come from outside: the connection, the caller's own
code inside a transaction block, or a value of the wrong kind.
-/

namespace SqlToolkit

open SqlToolkit.Text

inductive QueryKind where
  | raw
  | select
  | insert
  | update
  | delete
  deriving Repr, DecidableEq

def QueryKind.name : QueryKind → String
  | .raw => "RAW"
  | .select => "SELECT"
  | .insert => "INSERT"
  | .update => "UPDATE"
  | .delete => "DELETE"

/-- Why a WHERE condition was refused. Values are given by their texts. -/
inductive ConditionFault where
  | unsupportedType (typeName : String)
  | badEntry (entry : String)
  | badKey (key : String)
  | rawNotText (typeName : String)
  | noColumn (key : String)
  | namesExhausted (base : String)
  deriving Repr, DecidableEq

/-- Why a parameter was refused. Values are given by their texts. -/
inductive ParameterFault where
  | unknownParameter (name : String)
  | unknownOptions (names : List String)
  | unknownParamstyle (name : String)
  | badLimit (spec : String)
  | badIdentifier (identifier : String)
  | badColumnName (key : String)
  | badDebugMode (value : String)
  | badPageSize (value : String)
  | unbound (keys : List String)
  | driverNotSet (setting : String)
  | badPort (port : String)
  | notAUrl (url : String)
  deriving Repr, DecidableEq

inductive SequenceFault where
  | noTable (kind : QueryKind)
  | nothingExecuted
  | noInsert
  deriving Repr, DecidableEq

inductive TransactionFault where
  | alreadyActive
  | noneActive
  deriving Repr, DecidableEq

inductive Fault where
  | unsupportedDriver (name : String)
  /-- The driver is not there or could not connect. -/
  | connectionFailed (reason : String)
  | condition (cause : ConditionFault)
  | parameter (cause : ParameterFault)
  /-- The connection rejected a statement. -/
  | execution (reason : String) (sql : String) (placeholders : Value.Entries)
  /-- The dialect cannot report the last insert id. -/
  | noLastInsertId (dialect : String)
  | sequence (cause : SequenceFault)
  | nothingToInsert (table : String)
  | nothingToUpdate (table : String)
  | transaction (cause : TransactionFault)
  | countFailed (cause : Fault)
  | countMissing
  /-- The current page could not be fetched. -/
  | pageFailed (cause : Fault)
  /-- The connection raised an error. -/
  | driver (message : String)
  /-- The caller's own code raised an error. -/
  | caller (message : String)
  /-- A value has the wrong kind for the operation. -/
  | wrongKind
  /-- A value has the right kind but cannot be used. -/
  | badValue
  /-- A row has no field under the key. -/
  | missingKey
  /-- A row has no field at the position. -/
  | missingPosition
  /-- An object has no such attribute. -/
  | missingAttribute
  /-- A number is too large. -/
  | overflow
  deriving Repr

def parameterNames : List String := ["select_distinct", "group_by", "order_by", "limit"]

def ConditionFault.message : ConditionFault → String
  | .unsupportedType typeName => s!"Unsupported condition type: {typeName}"
  | .badEntry entry => s!"Invalid condition entry: {entry}"
  | .badKey key => s!"Invalid condition key: {key}"
  | .rawNotText typeName => s!"Raw condition fragment must be a string, got {typeName}"
  | .noColumn key => s!"No column name in condition key: {key}"
  | .namesExhausted base => s!"No free placeholder name left for column: {base}"

def ParameterFault.message : ParameterFault → String
  | .unknownParameter name =>
    "Invalid parameter '" ++ name ++ "'. Expected one of: " ++ Value.commaJoined parameterNames
  | .unknownOptions names => "Unknown pagination option(s): " ++ Value.commaJoined names
  | .unknownParamstyle name => s!"Unknown DB-API paramstyle: {name}"
  | .badLimit spec => s!"Invalid limit: {spec}"
  | .badIdentifier identifier => s!"Invalid identifier: {identifier}"
  | .badColumnName key => s!"Invalid column name: {key}"
  | .badDebugMode value => s!"Invalid debug mode: {value}. Expected True, False or 'silent'"
  | .badPageSize value => s!"Invalid records per page: {value}"
  | .unbound keys => "No value bound for placeholder(s): " ++ Value.commaJoined keys
  | .driverNotSet setting => s!"{setting} is not set"
  | .badPort port => s!"Invalid port: {port}"
  | .notAUrl url => s!"Not a connection URL: {url}"

def SequenceFault.message : SequenceFault → String
  | .noTable kind => s!"{kind.name} statement has no table"
  | .nothingExecuted => "num_rows() requires an executed query"
  | .noInsert => "get_last_insert_id() requires an executed INSERT statement"

def TransactionFault.message : TransactionFault → String
  | .alreadyActive => "There is already an active transaction"
  | .noneActive => "There is no active transaction"

/-- The wording of a fault. A value that is of no use to an operation has no wording of its own. -/
def Fault.message : Fault → String
  | .unsupportedDriver name => s!"Unsupported driver: {name}"
  | .connectionFailed reason => s!"Database Connection Error: {reason}"
  | .condition cause => cause.message
  | .parameter cause => cause.message
  | .execution reason sql _ =>
    if sql.isEmpty then s!"Database error: {reason}" else s!"Database error: {reason}\n{sql}"
  | .noLastInsertId dialect =>
    s!"The {dialect} driver does not support last insert id. "
      ++ "Use get_maximum_value(table, field) instead."
  | .sequence cause => cause.message
  | .nothingToInsert table =>
    s!"Failed to insert data into table {table}. "
      ++ "The array of values to be inserted cannot be empty."
  | .nothingToUpdate table =>
    s!"Failed to update data in table {table}. "
      ++ "The array of values to be updated cannot be empty."
  | .transaction cause => cause.message
  | .countFailed cause => s!"Error getting the total number of records: {cause.message}"
  | .countMissing => "Error getting the total number of records"
  | .pageFailed cause => s!"Error getting the current page records: {cause.message}"
  | .driver message => message
  | .caller message => message
  | .wrongKind | .badValue | .missingKey | .missingPosition | .missingAttribute | .overflow => ""

def Fault.isToolkit : Fault → Bool
  | .driver _ | .caller _ | .wrongKind | .badValue | .missingKey | .missingPosition
  | .missingAttribute | .overflow => false
  | _ => true

/-- The result of a step that may be refused. -/
abbrev Attempt := Except Fault

/-- The numeral of a whole number, unless it has too many digits. -/
def Numeral.write (value : Int) : Attempt String :=
  if Numeral.isWritable value then .ok (toString value) else .error .badValue

namespace Value

/-- A text of a value, such as `display`, unless the value cannot be written. -/
def write (value : Value) (text : Value → String) : Attempt String :=
  if value.isWritable then .ok (text value) else .error .badValue

/-- Refuses a value with a fault that shows it. -/
def refuse {α : Type} (value : Value) (fault : String → Fault) : Attempt α :=
  if value.isWritable then .error (fault value.shown) else .error .badValue

@[simp] theorem write_text (content : String) (text : Value → String) :
    (Value.text content).write text = .ok (text (.text content)) := rfl

@[simp] theorem refuse_text {α : Type} (content : String) (fault : String → Fault) :
    (Value.text content).refuse fault = (.error (fault (Quoted.text content)) : Attempt α) := rfl

theorem write_of_isWritable {value : Value} (h : value.isWritable = true)
    (text : Value → String) : value.write text = .ok (text value) := if_pos h

theorem write_of_not_isWritable {value : Value} (h : value.isWritable = false)
    (text : Value → String) : value.write text = .error .badValue := by
  rw [write, h]
  rfl

/-- What is written of a value, and of which values. -/
theorem write_eq_ok {value : Value} {text : Value → String} {written : String} :
    value.write text = .ok written ↔ value.isWritable = true ∧ written = text value := by
  unfold write
  split <;> simp [*, eq_comm]

theorem refuse_ne_ok {α : Type} {value : Value} {fault : String → Fault} {result : α} :
    value.refuse fault ≠ .ok result := by
  unfold refuse
  split <;> exact nofun

end Value

end SqlToolkit
