import SqlToolkit.Dialect.Columns

/-!
# Column keys

The key of a column value in an INSERT or UPDATE is a column name, with or without its table. Its
placeholder is the name with every dot and dash turned into an underscore.
-/

namespace SqlToolkit.ColumnKey

open SqlToolkit.Text

/-- A character of a column name after the first one. -/
def isColumnChar (c : Char) : Bool := isWord c || c == '-'

/-- Whether the characters are a column name that may be qualified. -/
def isColumn (chars : List Char) : Bool :=
  Identifier.areNames isColumnChar (splitAtChar '.' chars)

def flatten (chars : List Char) : List Char :=
  chars.map fun c => if c = '.' ∨ c = '-' then '_' else c

def placeholder (key : Value) : Attempt String :=
  let refused : Attempt String := key.refuse fun shown => .parameter (.badColumnName shown)
  match key with
  | .text content =>
    let chars := trimChars content.toList
    if isColumn chars then .ok (String.ofList (flatten chars)) else refused
  | _ => refused

end SqlToolkit.ColumnKey
