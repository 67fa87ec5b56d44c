import SqlToolkit.Fault
import SqlToolkit.Text.Scan
import SqlToolkit.Value.Binding

/-!
# WHERE conditions

A condition is a text, a map of keys to values, or a list of texts and pairs. A text key names a
column, possibly with an operator, and its value is bound under a generated placeholder name. A
whole number as key marks a raw fragment, which is taken as it is. Entries with an empty value are
left out, and the others are joined by `AND`.

A placeholder name is a letter, an underscore and the column name with every character that is no
word character turned into an underscore. The letter is the first one whose name is free: not used
by this clause, not remembered from the clause before it, and not reserved by the statement.
-/

namespace SqlToolkit.Condition

open SqlToolkit.Text

/-- A compiled condition: its SQL, its placeholders, and the names used by the last clause that had
any. -/
structure Clause where
  sql : String := ""
  placeholders : List (String × Value) := []
  remembered : List String := []

abbrev Entry := Value × Value

/-! ## Placeholder names -/

/-- The letters that make placeholder names differ. -/
def letters : List Char := "abcdefghijklmnopqrstuvwxyz".toList

def nameWith (base : String) (letter : Char) : String :=
  String.ofList (letter :: '_' :: base.toList)

def Clause.takes (clause : Clause) (reserved : List String) (name : String) : Bool :=
  (Entries.keys clause.placeholders).contains name || clause.remembered.contains name
    || reserved.contains name

def Clause.freeName? (clause : Clause) (reserved : List String) (base : String) : Option String :=
  (letters.map (nameWith base)).find? fun name => !clause.takes reserved name

theorem Clause.not_takes_freeName {clause : Clause} {reserved : List String} {base name : String}
    (h : clause.freeName? reserved base = some name) : clause.takes reserved name = false := by
  simpa using List.find?_some h

/-! ## Entries -/

/-- Where the column name of a key ends. -/
def endsColumn (c : Char) : Bool := isBlank c || c == '=' || c == '<' || c == '>' || c == '!'

def column (key : String) : List Char :=
  (dropBlanks key.toList).takeWhile fun c => !endsColumn c

/-- The column as the base of a placeholder name. -/
def baseOf (column : List Char) : String :=
  String.ofList (column.map fun c => if isWord c then c else '_')

/-- The text of a keyed entry: equality unless the key brings an operator. -/
def fragment (key : String) (column : List Char) (name : String) : String :=
  let written := trim key
  if written.toList = column then written ++ " = :" ++ name else written ++ " :" ++ name

/-- Adds an entry whose key names a column; answers with its text. -/
def Clause.addKeyed (clause : Clause) (reserved : List String) (key : String) (value : Value) :
    Attempt (String × Clause) :=
  let column := column key
  if column.isEmpty then .error (.condition (.noColumn (Quoted.text key)))
  else
    match clause.freeName? reserved (baseOf column) with
    | none => .error (.condition (.namesExhausted (baseOf column)))
    | some name =>
      .ok (fragment key column name,
        { clause with placeholders := clause.placeholders ++ [(name, value.formatted)] })

def Clause.addEntry (clause : Clause) (reserved : List String) (entry : Entry) :
    Attempt (String × Clause) :=
  match entry.1 with
  | .text key => clause.addKeyed reserved key entry.2
  | .int _ =>
    match entry.2 with
    | .text raw => .ok (trim raw, clause)
    | value => .error (.condition (.rawNotText value.typeName))
  | key => key.refuse fun shown => .condition (.badKey shown)

/-- Adds the entries in order, up to the first that is refused. Entries with an empty value are
passed over. -/
def Clause.addEntries (clause : Clause) (reserved : List String) :
    List Entry → Attempt (List String) × Clause
  | [] => (.ok [], clause)
  | entry :: rest =>
    if entry.2.isEmpty then clause.addEntries reserved rest
    else
      match clause.addEntry reserved entry with
      | .error fault => (.error fault, clause)
      | .ok (text, grown) =>
        let (texts, final) := grown.addEntries reserved rest
        (texts.map (text :: ·), final)

/-- An item of a list condition as an entry. A text alone is a raw fragment. -/
def entryOf : Value → Attempt Entry
  | .text raw => .ok (.int 0, .text raw)
  | .tuple [key, value] => .ok (key, value)
  | item => item.refuse fun shown => .condition (.badEntry shown)

/-! ## Clauses -/

/-- Forgets the SQL and the placeholders, but remembers the names if there were any. -/
def Clause.retire (clause : Clause) : Clause :=
  { remembered :=
      if clause.placeholders.isEmpty then clause.remembered
      else Entries.keys clause.placeholders }

def joined (texts : List String) : String :=
  if texts.isEmpty then "" else " WHERE " ++ " AND ".intercalate texts

/-- Compiles entries into a clause that has none. A refused entry leaves the placeholders of the
entries before it and no SQL. -/
def Clause.compileEntries (clause : Clause) (reserved : List String) (entries : List Entry) :
    Attempt Unit × Clause :=
  match clause.addEntries reserved entries with
  | (.ok texts, filled) => (.ok (), { filled with sql := joined texts })
  | (.error fault, filled) => (.error fault, filled)

def Clause.set (clause : Clause) (condition : Value) (reserved : List String) :
    Attempt Unit × Clause :=
  let clause := clause.retire
  match condition with
  | .null => (.ok (), clause)
  | .text raw =>
    let raw := trim raw
    (.ok (), if raw.isEmpty then clause else { clause with sql := " WHERE " ++ raw })
  | .map entries => clause.compileEntries reserved entries
  | .list items | .tuple items =>
    match items.mapM entryOf with
    | .ok entries => clause.compileEntries reserved entries
    | .error fault => (.error fault, clause)
  | value => (.error (.condition (.unsupportedType value.typeName)), clause)

end SqlToolkit.Condition
