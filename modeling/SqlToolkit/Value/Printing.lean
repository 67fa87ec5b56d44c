import SqlToolkit.Number.Numeral
import SqlToolkit.Text.CaseMap
import SqlToolkit.Text.Quoted
import SqlToolkit.Value.Basic

/-!
# The text of a value

A value has two texts. `shown` is the one that messages give, with texts in quotes and dates by
their parts. `display` is the plain one: the characters of a text, a date as `2024-01-31`. Inside a
collection values are always shown in the first form. A whole number of too many digits has no text
at all, and neither has a collection with one in it.
-/

namespace SqlToolkit

open SqlToolkit.Text

def padded (width n : Nat) : String :=
  let digits := toString n
  String.ofList (List.replicate (width - digits.length) '0') ++ digits

/-- A day as year, month and day with dashes. -/
def Date.iso (day : Date) : String :=
  padded 4 day.year ++ "-" ++ padded 2 day.month ++ "-" ++ padded 2 day.day

/-- A day as it is written into SQL. The year is not padded. -/
def Date.sqlText (day : Date) : String :=
  toString day.year ++ "-" ++ padded 2 day.month ++ "-" ++ padded 2 day.day

def Date.parts (day : Date) : List Nat := [day.year, day.month, day.day]

def ClockTime.toSecond (time : ClockTime) : String :=
  padded 2 time.hour ++ ":" ++ padded 2 time.minute ++ ":" ++ padded 2 time.second

/-- The time of day; a fraction is written only if it is not zero. -/
def ClockTime.iso (time : ClockTime) : String :=
  if time.microsecond = 0 then time.toSecond
  else time.toSecond ++ "." ++ padded 6 time.microsecond

/-- The parts of a time of day that are written: hour and minute always, the second and the
microsecond only up to the last one that is not zero. -/
def ClockTime.parts (time : ClockTime) : List Nat :=
  if time.microsecond = 0 then
    if time.second = 0 then [time.hour, time.minute]
    else [time.hour, time.minute, time.second]
  else [time.hour, time.minute, time.second, time.microsecond]

def FetchMode.name : FetchMode → String
  | .object => "object"
  | .assoc => "assoc"
  | .num => "num"
  | .column => "column"

def DebugMode.name : DebugMode → String
  | .off => "off"
  | .on => "on"
  | .silent => "silent"

namespace Value

def commaJoined (texts : List String) : String := ", ".intercalate texts

mutual

/-- The text of a value in messages. -/
def shown : Value → String
  | .null => "None"
  | .bool true => "True"
  | .bool false => "False"
  | .int value => toString value
  | .float spelling => spelling
  | .text content => Quoted.text content
  | .bytes content => Quoted.bytes content
  | .date day => "datetime.date(" ++ commaJoined (day.parts.map toString) ++ ")"
  | .datetime day time =>
    "datetime.datetime(" ++ commaJoined ((day.parts ++ time.parts).map toString) ++ ")"
  | .list items => "[" ++ commaJoined (shownAll items) ++ "]"
  | .tuple [item] => "(" ++ shown item ++ ",)"
  | .tuple items => "(" ++ commaJoined (shownAll items) ++ ")"
  | .set [] => "set()"
  | .set items => "\x7b" ++ commaJoined (shownAll items) ++ "\x7d"
  | .map entries => "\x7b" ++ commaJoined (shownEntries entries) ++ "\x7d"
  | .object fields => "namespace(" ++ commaJoined (shownFields fields) ++ ")"
  | .fetchMode mode => "<FetchMode." ++ upper mode.name ++ ": " ++ Quoted.text mode.name ++ ">"
  | .debugMode mode => "<DebugMode." ++ upper mode.name ++ ": " ++ Quoted.text mode.name ++ ">"
  | .foreign kind => "<" ++ kind ++ ">"

def shownAll : List Value → List String
  | [] => []
  | item :: rest => shown item :: shownAll rest

def shownEntries : List (Value × Value) → List String
  | [] => []
  | (key, value) :: rest => (shown key ++ ": " ++ shown value) :: shownEntries rest

def shownFields : List (String × Value) → List String
  | [] => []
  | (name, value) :: rest => (name ++ "=" ++ shown value) :: shownFields rest

end

/-- The plain text of a value. -/
def display : Value → String
  | .text content => content
  | .date day => day.iso
  | .datetime day time => day.iso ++ " " ++ time.iso
  | .fetchMode mode => "FetchMode." ++ upper mode.name
  | .debugMode mode => "DebugMode." ++ upper mode.name
  | value => shown value

@[simp] theorem display_text (content : String) : (Value.text content).display = content := rfl

/-! ## Values that can be written -/

mutual

/-- Whether every whole number in a value has so few digits that it is written. -/
def isWritable : Value → Bool
  | .int value => Numeral.isWritable value
  | .list items | .tuple items | .set items => areWritable items
  | .map entries => entriesWritable entries
  | .object fields => fieldsWritable fields
  | _ => true

def areWritable : List Value → Bool
  | [] => true
  | item :: rest => isWritable item && areWritable rest

def entriesWritable : List (Value × Value) → Bool
  | [] => true
  | (key, value) :: rest => isWritable key && isWritable value && entriesWritable rest

def fieldsWritable : List (String × Value) → Bool
  | [] => true
  | (_, value) :: rest => isWritable value && fieldsWritable rest

end

@[simp] theorem isWritable_text (content : String) : (Value.text content).isWritable = true := rfl

end Value

end SqlToolkit
