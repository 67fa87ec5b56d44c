import SqlToolkit.Fault

/-!
# Statement parameters

The settings of a SELECT beside its fields, table and condition: DISTINCT, GROUP BY, ORDER BY and
the limit. Any value may be set; the statement decides what it makes of it.
-/

namespace SqlToolkit

/-- DISTINCT flag, GROUP BY, ORDER BY and limit. -/
structure Parameters where
  selectDistinct : Value := .bool false
  groupBy : Value := .null
  orderBy : Value := .null
  limit : Value := .null

namespace Parameters

def get? (parameters : Parameters) (name : String) : Option Value :=
  match name with
  | "select_distinct" => some parameters.selectDistinct
  | "group_by" => some parameters.groupBy
  | "order_by" => some parameters.orderBy
  | "limit" => some parameters.limit
  | _ => none

/-- The parameters with one setting replaced, if the name is known. -/
def set? (parameters : Parameters) (name : String) (value : Value) : Option Parameters :=
  match name with
  | "select_distinct" => some { parameters with selectDistinct := value }
  | "group_by" => some { parameters with groupBy := value }
  | "order_by" => some { parameters with orderBy := value }
  | "limit" => some { parameters with limit := value }
  | _ => none

def unknown (name : String) : Fault := .parameter (.unknownParameter name)

def get (parameters : Parameters) (name : String) : Attempt Value :=
  match parameters.get? name with
  | some value => .ok value
  | none => .error (unknown name)

def set (parameters : Parameters) (name : String) (value : Value) : Attempt Parameters :=
  match parameters.set? name value with
  | some changed => .ok changed
  | none => .error (unknown name)

/-- The parameters with the setting replaced that a key names. -/
def setKey (parameters : Parameters) (key value : Value) : Attempt Parameters := do
  parameters.set (← key.write Value.display) value

theorem set_of_setKey {parameters changed : Parameters} {key value : Value}
    (h : parameters.setKey key value = .ok changed) :
    parameters.set key.display value = .ok changed := by
  unfold setKey at h
  cases hkey : key.write Value.display with
  | error fault => rw [hkey] at h; cases h
  | ok name =>
    obtain ⟨-, rfl⟩ := Value.write_eq_ok.mp hkey
    rw [hkey] at h
    exact h

/-- Replaces several settings in order. An unknown name ends the update; the settings before it
stay replaced. -/
def update (parameters : Parameters) : Value.Entries → Attempt Unit × Parameters
  | [] => (.ok (), parameters)
  | (key, value) :: rest =>
    match parameters.setKey key value with
    | .ok changed => changed.update rest
    | .error fault => (.error fault, parameters)

/-- Replaces the settings of a map. What counts as false brings none, and nothing else has any. -/
def updateFrom (parameters : Parameters) (settings : Value) : Attempt Unit × Parameters :=
  match settings with
  | .map entries => parameters.update entries
  | settings =>
    if settings.truthy then (.error .missingAttribute, parameters) else (.ok (), parameters)

def toEntries (parameters : Parameters) : List (String × Value) :=
  [("select_distinct", parameters.selectDistinct), ("group_by", parameters.groupBy),
   ("order_by", parameters.orderBy), ("limit", parameters.limit)]

/-- The names of the settings are the parameter names. -/
theorem keys_toEntries (parameters : Parameters) :
    parameters.toEntries.map (·.1) = parameterNames := rfl

end Parameters

end SqlToolkit
