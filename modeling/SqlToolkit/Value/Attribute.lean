import SqlToolkit.Value.Printing

/-!
# What values offer under a name

The parts of a value, the limits of its kind, and the operations on it. An operation is no value:
only its kind can be told.
-/

namespace SqlToolkit

/-- The names of the operations that texts and byte strings share. -/
def textOperations : List String :=
  ["capitalize", "center", "count", "endswith", "expandtabs", "find", "index", "isalnum", "isalpha",
   "isascii", "isdigit", "islower", "isspace", "istitle", "isupper", "join", "ljust", "lower",
   "lstrip", "maketrans", "partition", "removeprefix", "removesuffix", "replace", "rfind", "rindex",
   "rjust", "rpartition", "rsplit", "rstrip", "split", "splitlines", "startswith", "strip",
   "swapcase", "title", "translate", "upper", "zfill"]

/-- The names of the operations that days and points of time share. -/
def dateOperations : List String :=
  ["ctime", "fromisocalendar", "fromisoformat", "fromordinal", "fromtimestamp", "isocalendar",
   "isoformat", "isoweekday", "replace", "strftime", "timetuple", "today", "toordinal", "weekday"]

namespace Value

def operations : Value → List String
  | .bool _ | .int _ =>
    ["as_integer_ratio", "bit_count", "bit_length", "conjugate", "from_bytes", "to_bytes"]
  | .float _ => ["as_integer_ratio", "conjugate", "fromhex", "hex", "is_integer"]
  | .text _ =>
    ["casefold", "encode", "format", "format_map", "isdecimal", "isidentifier", "isnumeric",
     "isprintable"] ++ textOperations
  | .bytes _ => ["decode", "fromhex", "hex"] ++ textOperations
  | .date _ => dateOperations
  | .datetime _ _ =>
    ["astimezone", "combine", "date", "dst", "now", "strptime", "time", "timestamp", "timetz",
     "tzname", "utcfromtimestamp", "utcnow", "utcoffset", "utctimetuple"] ++ dateOperations
  | .list _ =>
    ["append", "clear", "copy", "count", "extend", "index", "insert", "pop", "remove", "reverse",
     "sort"]
  | .tuple _ => ["count", "index"]
  | .set _ =>
    ["add", "clear", "copy", "difference", "difference_update", "discard", "intersection",
     "intersection_update", "isdisjoint", "issubset", "issuperset", "pop", "remove",
     "symmetric_difference", "symmetric_difference_update", "union", "update"]
  | .map _ =>
    ["clear", "copy", "fromkeys", "get", "items", "keys", "pop", "popitem", "setdefault", "update",
     "values"]
  | .null | .object _ | .fetchMode _ | .debugMode _ | .foreign _ => []

/-- The first and the last day that can be told, by the names of these limits. -/
def dayLimit? : String → Option Date
  | "min" => some ⟨1, 1, 1⟩
  | "max" => some ⟨9999, 12, 31⟩
  | _ => none

/-- The first and the last time of a day, by the names of these limits. -/
def timeLimit? : String → Option ClockTime
  | "min" => some ⟨0, 0, 0, 0⟩
  | "max" => some ⟨23, 59, 59, 999999⟩
  | _ => none

def dayPart? (day : Date) : String → Option Value
  | "year" => some (.int day.year)
  | "month" => some (.int day.month)
  | "day" => some (.int day.day)
  | "resolution" => some (.foreign "timedelta")
  | _ => none

/-- A part of a time of day. There is no time zone, and no hour occurs twice. -/
def timePart? (time : ClockTime) : String → Option Value
  | "hour" => some (.int time.hour)
  | "minute" => some (.int time.minute)
  | "second" => some (.int time.second)
  | "microsecond" => some (.int time.microsecond)
  | "fold" => some (.int 0)
  | "tzinfo" => some .null
  | _ => none

/-- A part of a whole number, read as a fraction or as a complex number. -/
def intPart? (value : Int) : String → Option Value
  | "real" | "numerator" => some (.int value)
  | "imag" => some (.int 0)
  | "denominator" => some (.int 1)
  | _ => none

/-- The name of a mode in capitals, its value, and the other modes by their names. -/
def modePart? (own : String) (others : List (String × Value)) : String → Option Value
  | "name" | "_name_" => some (.text (Text.upper own))
  | "value" | "_value_" => some (.text own)
  | name => others.lookup name

def fetchModes : List (String × Value) :=
  [FetchMode.object, .assoc, .num, .column].map fun mode => (Text.upper mode.name, .fetchMode mode)

def debugModes : List (String × Value) :=
  [DebugMode.off, .on, .silent].map fun mode => (Text.upper mode.name, .debugMode mode)

def part? (value : Value) (name : String) : Option Value :=
  match value with
  | .bool value => intPart? (if value then 1 else 0) name
  | .int value => intPart? value name
  | .float spelling =>
    match name with
    | "real" => some (.float spelling)
    | "imag" => some (.float "0.0")
    | _ => none
  | .date day => ((dayLimit? name).map .date).or (dayPart? day name)
  | .datetime day time =>
    match dayLimit? name, timeLimit? name with
    | some day, some time => some (.datetime day time)
    | _, _ => (dayPart? day name).or (timePart? time name)
  | .object fields => fields.lookup name
  | .fetchMode mode => modePart? mode.name fetchModes name
  | .debugMode mode =>
    match name with
    | "enabled" => some (.bool (mode != .off))
    | "coerce" => some (.foreign "method")
    | name => modePart? mode.name debugModes name
  | _ => none

/-- What a value offers under a name: one of its parts, or an operation on it. -/
def attribute? (value : Value) (name : String) : Option Value :=
  match value.part? name with
  | some part => some part
  | none =>
    if value.operations.contains name then some (.foreign "builtin_function_or_method") else none

end Value

end SqlToolkit
