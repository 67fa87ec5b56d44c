import SqlToolkit.Entries
import SqlToolkit.Fault
import SqlToolkit.Value.Attribute

/-!
# Flattened rows

Rows become a list of one field, or a map from one field to another. The fields of a map are its
entries. A sequence numbers its fields from zero or, with negative numbers, from the end, and every
other field is what the row offers under a name.
-/

namespace SqlToolkit.Rows

def itemAt (items : List Value) (position : Int) : Attempt Value :=
  let index := if position < 0 then position + items.length else position
  if index < 0 then .error .missingPosition
  else
    match items[index.toNat]? with
    | some item => .ok item
    | none => .error .missingPosition

def fieldAt (row : Value) (position : Int) : Attempt Value :=
  match row with
  | .list items | .tuple items => itemAt items position
  | .text content => itemAt (content.toList.map fun c => .text (String.ofList [c])) position
  | .bytes content => itemAt (content.map fun byte => .int byte.toNat) position
  | _ => .error .wrongKind

/-- What a row that is no map offers under a name. -/
def fieldNamed (row : Value) (name : String) : Attempt Value :=
  match row.attribute? name with
  | some value => .ok value
  | none => .error .missingAttribute

def field (row name : Value) : Attempt Value :=
  match row with
  | .map entries =>
    if name.isKey then
      match Entries.get? name entries with
      | some value => .ok value
      | none => .error .missingKey
    else .error .wrongKind
  | row =>
    match name with
    | .int position => fieldAt row position
    | .bool position => fieldAt row (if position then 1 else 0)
    | .text name => fieldNamed row name
    | _ => .error .wrongKind

def items : Value → Attempt (List Value)
  | .list items | .tuple items | .set items => .ok items
  | .map entries => .ok (Entries.keys entries)
  | .text content => .ok (content.toList.map fun c => .text (String.ofList [c]))
  | .bytes content => .ok (content.map fun byte => .int byte.toNat)
  | _ => .error .wrongKind

/-- One entry of the map from a key field to a value field. -/
def keyed (row valueField keyField : Value) : Attempt (Value × Value) := do
  let key ← field row keyField
  let value ← field row valueField
  if key.isKey then .ok (key, value) else .error .wrongKind

/-- The rows as a list of one field or, with a key field, as a map. -/
def flatten (rows valueField keyField : Value) : Attempt Value := do
  let rows ← items rows
  match keyField with
  | .null => return .list (← rows.mapM fun row => field row valueField)
  | keyField =>
    return .map (Entries.ofList (← rows.mapM fun row => keyed row valueField keyField))

end SqlToolkit.Rows
