import SqlToolkit.Entries
import SqlToolkit.Fault
import SqlToolkit.Number.Numeral

/-!
# Values on their way to the connection

Dates become text before they are bound, and every value gets a type hint. `literal` writes a value
into SQL for people to read; what is sent to the connection is always bound instead.
-/

namespace SqlToolkit

open SqlToolkit.Text

inductive ParamType where
  | int
  | bool
  | null
  | str
  deriving Repr, DecidableEq

def ParamType.name : ParamType → String
  | .int => "int"
  | .bool => "bool"
  | .null => "null"
  | .str => "str"

namespace Value

def paramType : Value → ParamType
  | .bool _ => .bool
  | .int _ => .int
  | .null => .null
  | _ => .str

/-- Dates and times become their SQL text, to the second; other values stay as they are. -/
def formatted : Value → Value
  | .date day => .text day.sqlText
  | .datetime day time => .text (day.sqlText ++ " " ++ time.toSecond)
  | value => value

def formattedEntries (entries : Entries) : Entries := Entries.mapValues formatted entries

/-- A text in single quotes, the quotes inside it doubled. -/
def quotedLiteral (content : String) : String :=
  String.ofList ('\'' :: (content.toList.flatMap fun c => if c = '\'' then ['\'', '\''] else [c])
    ++ ['\''])

mutual

/-- A value as an SQL literal. The items of a collection are listed with commas. -/
def literal : Value → String
  | .null => "NULL"
  | .bool value => if value then "1" else "0"
  | .int value => toString value
  | .float spelling => spelling
  | .list items | .tuple items | .set items => ",".intercalate (literals items)
  | value => quotedLiteral value.formatted.display

def literals : List Value → List String
  | [] => []
  | item :: rest => literal item :: literals rest

end

/-- The whole number that a value stands for: a number toward zero, or a text that is a numeral. -/
def toInteger : Value → Attempt Int
  | .bool value => .ok (if value then 1 else 0)
  | .int value => .ok value
  | .float spelling =>
    match Binary64.ofText spelling with
    | .nan => .error .badValue
    | .infinite _ => .error .overflow
    | number => (number.truncate?.map Except.ok).getD (.error .badValue)
  | .text content => ((Numeral.parse? content).map Except.ok).getD (.error .badValue)
  | .bytes content =>
    let chars := content.map fun byte => Char.ofNat byte.toNat
    if chars.all (·.toNat < 128) then
      ((Numeral.parse? (String.ofList chars)).map Except.ok).getD (.error .badValue)
    else .error .badValue
  | _ => .error .wrongKind

def coerce (hint : ParamType) (value : Value) : Attempt Value :=
  match hint with
  | .null => .ok .null
  | .bool => .ok (.bool value.truthy)
  | .int => value.toInteger.map .int
  | .str => .ok value.formatted

/-- A value is bound under its own hint without loss, dates apart. -/
theorem coerce_paramType (value : Value) : coerce value.paramType value = .ok value.formatted := by
  cases value <;> simp [paramType, coerce, formatted, toInteger, truthy, Except.map]

end Value

end SqlToolkit
