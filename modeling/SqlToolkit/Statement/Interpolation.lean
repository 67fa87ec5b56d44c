import SqlToolkit.Rows
import SqlToolkit.Text.Scan
import SqlToolkit.Value.Binding
import SqlToolkit.Value.Order

/-!
# SQL with its values

The text of a statement with literals in the place of its markers, for people to read. Named values
go in first, those with the longest names before the others, so that a name never takes the place
of a longer one that begins with it. Then the values with a position fill the `?` markers that are
left, in the order of their positions.
-/

namespace SqlToolkit.Interpolation

open SqlToolkit.Text

/-- The characters of a key without the colons at its front. -/
def bareName (key : String) : List Char := key.toList.dropWhile (· == ':')

/-- Reads the marker `:name`, unless a word goes on after it. -/
def dropMarker? (name : List Char) (chars : List Char) : Option (List Char) :=
  match dropText? (':' :: name) chars with
  | some rest => if startsWithWord rest then none else some rest
  | none => none

/-- Puts a literal in the place of every marker with the name. -/
def replaceNamed (key : String) (literal : String) (sql : List Char) : List Char :=
  substitute (replacing literal.toList (dropMarker? (bareName key))) 0 sql

def textEntries (placeholders : Value.Entries) : List (String × Value) :=
  placeholders.filterMap fun entry => entry.1.text?.map fun key => (key, entry.2)

/-- The named entries, those with longer keys first and otherwise in their order. -/
def namedEntries (placeholders : Value.Entries) : List (String × Value) :=
  (textEntries placeholders).mergeSort fun a b => b.1.length ≤ a.1.length

def positionalEntries (placeholders : Value.Entries) : Value.Entries :=
  placeholders.filter fun entry => entry.1.text?.isNone

def fillNamed (sql : List Char) (entries : List (String × Value)) : List Char :=
  entries.foldl (fun text entry => replaceNamed entry.1 entry.2.literal text) sql

/-- Puts each value in the place of the first `?` that is left. -/
def fillPositional (sql : List Char) (values : List Value) : List Char :=
  values.foldl (fun text value => replaceFirst '?' value.literal.toList text) sql

/-- The values with a position, in the order of their positions; `none` if these have no order. -/
def orderedValues? (entries : Value.Entries) : Option (List Value) :=
  (Insertion.sort? (fun a b => Value.before? a.1 b.1) entries).map fun sorted => sorted.map (·.2)

def checkLiterals (values : List Value) : Attempt Unit :=
  if values.all Value.isWritable then .ok () else .error .badValue

/-- The statement with its values. Positions that have no order are of the wrong kind. -/
def interpolate (sql : String) (placeholders : Value.Entries) : Attempt String := do
  checkLiterals ((textEntries placeholders).map (·.2))
  match orderedValues? (positionalEntries placeholders) with
  | none => throw .wrongKind
  | some values =>
    checkLiterals values
    return String.ofList
      (fillPositional (fillNamed sql.toList (namedEntries placeholders)) values)

/-- An item of a collection that is no map, under a key. A text is no key of such a collection, and
the literal of the item is written at once. -/
def itemEntry (collection key : Value) : Attempt (Value × Value) := do
  let value ← Rows.field collection key
  checkLiterals [value]
  return (key, value)

/-- The values of a collection that is no map, each under the key that it is itself. -/
def itemEntries (collection : Value) : Attempt Value.Entries := do
  let keys ← Rows.items collection
  if keys.any fun key => key.text?.isSome then throw .wrongKind
  match Insertion.sort? Value.before? keys with
  | none => throw .wrongKind
  | some keys => keys.mapM (itemEntry collection)

/-- The statement with the values of a map, or with none if there is nothing to take them from. The
items of any other collection are positions in the collection itself. -/
def interpolateFrom (sql : String) (placeholders : Value) : Attempt String :=
  match placeholders with
  | .map entries => interpolate sql entries
  | collection =>
    if collection.truthy then do
      let entries ← itemEntries collection
      return String.ofList (fillPositional sql.toList (entries.map (·.2)))
    else .ok sql

end SqlToolkit.Interpolation
