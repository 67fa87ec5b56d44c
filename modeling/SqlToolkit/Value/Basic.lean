import SqlToolkit.Number.Binary64

/-!
# Values

What is bound to a statement, read from a row or given as a setting. Numbers, texts and byte
strings, dates, and collections of values. A fetch mode or a debug mode is a value too, because
both may be given where any value is accepted.
-/

namespace SqlToolkit

structure Date where
  year : Nat
  month : Nat
  day : Nat
  deriving Repr, DecidableEq

structure ClockTime where
  hour : Nat
  minute : Nat
  second : Nat
  microsecond : Nat
  deriving Repr, DecidableEq

inductive FetchMode where
  /-- Fields by name, as an object. -/
  | object
  /-- Values under their column names. -/
  | assoc
  /-- Values in column order. -/
  | num
  /-- The value of the first column only. -/
  | column
  deriving Repr, DecidableEq

/-- Whether executed statements are captured, and whether they are logged as well. -/
inductive DebugMode where
  | off
  | on
  | silent
  deriving Repr, DecidableEq

/-- A value. A number that is not whole is given by its shortest decimal text. -/
inductive Value where
  | null
  | bool (value : Bool)
  | int (value : Int)
  | float (spelling : String)
  | text (content : String)
  | bytes (content : List UInt8)
  | date (day : Date)
  | datetime (day : Date) (time : ClockTime)
  | list (items : List Value)
  | tuple (items : List Value)
  | set (items : List Value)
  | map (entries : List (Value × Value))
  | object (fields : List (String × Value))
  | fetchMode (mode : FetchMode)
  | debugMode (mode : DebugMode)
  /-- Something that a value offers under a name and that is no value itself, such as an operation.
  Only its kind is known. -/
  | foreign (kind : String)
  deriving Repr, Inhabited

namespace Value

/-- Key and value pairs in the order in which the keys were first given. -/
abbrev Entries := List (Value × Value)

def typeName : Value → String
  | .null => "NoneType"
  | .bool _ => "bool"
  | .int _ => "int"
  | .float _ => "float"
  | .text _ => "str"
  | .bytes _ => "bytes"
  | .date _ => "date"
  | .datetime _ _ => "datetime"
  | .list _ => "list"
  | .tuple _ => "tuple"
  | .set _ => "set"
  | .map _ => "dict"
  | .object _ => "SimpleNamespace"
  | .fetchMode _ => "FetchMode"
  | .debugMode _ => "DebugMode"
  | .foreign kind => kind

/-- Whether the value counts as true: not null, zero or empty. -/
def truthy : Value → Bool
  | .null => false
  | .bool value => value
  | .int value => value != 0
  | .float spelling => !(Binary64.ofText spelling).isZero
  | .text content => !content.isEmpty
  | .bytes content => !content.isEmpty
  | .list items | .tuple items | .set items => !items.isEmpty
  | .map entries => !entries.isEmpty
  | .date _ | .datetime _ _ | .object _ | .fetchMode _ | .debugMode _ | .foreign _ => true

/-- Null or an empty text: the setting is not given. -/
def isUnset : Value → Bool
  | .null => true
  | .text content => content.isEmpty
  | _ => false

/-- Null or an empty text or collection. Zero and `false` are not empty. -/
def isEmpty : Value → Bool
  | .null => true
  | .text content => content.isEmpty
  | .bytes content => content.isEmpty
  | .list items | .tuple items | .set items => items.isEmpty
  | .map entries => entries.isEmpty
  | _ => false

def text? : Value → Option String
  | .text content => some content
  | _ => none

/-- The number that a value is, if it is one. The truth values count as one and zero. -/
def number? : Value → Option Binary64
  | .bool value => some (.ofInt (if value then 1 else 0))
  | .int value => some (.ofInt value)
  | .float spelling => some (.ofText spelling)
  | _ => none

/-! ## Keys -/

mutual

/-- Whether a value can be a key: collections that can change cannot. -/
def isKey : Value → Bool
  | .list _ | .set _ | .map _ | .object _ => false
  | .tuple items => areKeys items
  | _ => true

def areKeys : List Value → Bool
  | [] => true
  | item :: rest => isKey item && areKeys rest

end

mutual

/-- Whether two values are one key. Numbers are compared by value, so `1`, `true` and `1.0` are one
key; everything else is compared part by part within one kind. What is no value itself is never the
same key. -/
def sameKey : Value → Value → Bool
  | .null, .null => true
  | .text a, .text b => a == b
  | .bytes a, .bytes b => a == b
  | .date a, .date b => a == b
  | .datetime a s, .datetime b t => a == b && s == t
  | .list a, .list b => sameKeys a b
  | .tuple a, .tuple b => sameKeys a b
  | .set a, .set b => sameKeys a b
  | .fetchMode a, .fetchMode b => a == b
  | .debugMode a, .debugMode b => a == b
  | a, b =>
    match a.number?, b.number? with
    | some x, some y => x.eq y
    | _, _ => false

def sameKeys : List Value → List Value → Bool
  | [], [] => true
  | a :: as, b :: bs => sameKey a b && sameKeys as bs
  | _, _ => false

end

/-- Values are told apart as keys. -/
instance : BEq Value := ⟨sameKey⟩

end Value

end SqlToolkit
