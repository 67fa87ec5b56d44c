import SqlToolkit.Proofs.Builder.Sound
import SqlToolkit.Proofs.Facade.Call

/-!
# What a selection composes

The statement that a selection composes does not depend on the builder: it starts from an empty one.
A selection that cannot be composed is refused for the first of its parts that is not accepted.
-/

namespace SqlToolkit

variable {σ : Type}

def Descriptor.rendered (descriptor : Descriptor) (dialect : Dialect) :
    Attempt (String × Value.Entries) := do
  let sql ← descriptor.sql dialect
  return (sql, ← descriptor.boundPlaceholders)

namespace Builder

/-- The action composes a statement out of nothing, or refuses to. -/
def Composes (compose : Action (Builder σ) Unit) (composed : Attempt Descriptor) : Prop :=
  ∀ builder, compose.outcome builder = composed.map (fun _ => ()) ∧
    ∀ descriptor, composed = .ok descriptor →
      compose.after builder = { builder.cleared with descriptor }

section Reads

variable [Connection σ] {compose : Action (Builder σ) Unit} {composed : Attempt Descriptor}

/-- The action composes a read out of nothing, or refuses to. The values that it is given for
markers are under names and positions. -/
structure ComposesRead (compose : Action (Builder σ) Unit) (composed : Attempt Descriptor) :
    Prop where
  composes : Composes compose composed
  isRead : ∀ descriptor, composed = .ok descriptor →
    Builder.isRead (Connection.parser σ) descriptor = true
  keys : ∀ descriptor, composed = .ok descriptor →
    ∀ key ∈ Entries.keys descriptor.placeholders, key.isMarkerKey = true

/-- A read that was composed and written can be captured if what it binds can be written. -/
theorem ComposesRead.captures (h : ComposesRead compose composed) {dialect : Dialect}
    {sql : String} {placeholders : Value.Entries}
    (hr : composed >>= (·.rendered dialect) = .ok (sql, placeholders)) {builder : Builder σ}
    (hwritten : builder.debugMode.enabled = true →
      ∀ entry ∈ placeholders, entry.1.isWritable = true ∧ entry.2.isWritable = true) :
    builder.Captures placeholders := by
  obtain ⟨descriptor, hd, hrendered⟩ := Action.of_attempts_ok hr
  obtain ⟨_, -, hrendered⟩ := Action.of_attempts_ok hrendered
  obtain ⟨bound, hbound, hrendered⟩ := Action.of_attempts_ok hrendered
  cases hrendered
  intro hmode
  obtain ⟨values, hvalues⟩ := Interpolation.orderedValues?_returns
    (Descriptor.boundPlaceholders_keys (h.keys descriptor hd) hbound)
  exact ⟨⟨fun entry hentry => (hwritten hmode entry hentry).2, by rw [hvalues]; rfl⟩,
    fun _ => ⟨fun entry hentry => (hwritten hmode entry hentry).1, rfl⟩⟩

end Reads

/-- A SELECT that is started has its fields and nothing else. -/
theorem select_eq (fields : Value) (builder : Builder σ) :
    select fields builder = match fieldList fields with
      | .ok written => .ok () { builder.cleared with descriptor := { fields := written } }
      | .error fault => .error fault { builder.cleared with descriptor := {} } := by
  unfold select
  cases fieldList fields <;> rfl

theorem fromTable_eq (table : Value) (builder : Builder σ) :
    fromTable table builder = match tableExpression table with
      | .ok table =>
        .ok () { builder with descriptor := { builder.descriptor with table } }
      | .error fault => .error fault builder := by
  unfold fromTable
  cases tableExpression table <;> rfl

/-- The condition of a statement without column values may use every name. -/
theorem filter_eq (condition : Value) (builder : Builder σ)
    (h : builder.descriptor.values = []) :
    let given := builder.descriptor.clause.set condition []
    filter condition builder = match given.1 with
      | .ok _ =>
        .ok () { builder with descriptor := { builder.descriptor with clause := given.2 } }
      | .error fault =>
        .error fault { builder with descriptor := { builder.descriptor with clause := given.2 } }
    := by
  intro given
  have hreserved : builder.descriptor.valuePlaceholders = .ok [] := by
    unfold Descriptor.valuePlaceholders
    rw [h]
    rfl
  unfold filter
  rw [Action.get_bind, hreserved]
  rcases hgiven : builder.descriptor.clause.set condition [] with ⟨_ | _, clause⟩
  all_goals
    simp only [given, hgiven]
    simp only [bind, EStateM.bind, Action.ofAttempt, Entries.keys, List.map_nil, hgiven]
    rfl

theorem setParameters_of_refused {settings : Value} {fault : Fault}
    (h : settingEntries settings = .error fault) (builder : Builder σ) :
    setParameters settings builder = .error fault builder := by
  unfold setParameters
  rw [h]
  rfl

theorem setParameters_of_unread {settings : Value} {entries : Value.Entries} {fault : Fault}
    (h : settingEntries settings = .ok entries)
    (hlimit : checkLimit ((Entries.get? (.text "limit") entries).getD .null) = .error fault)
    (builder : Builder σ) :
    setParameters settings builder = .error fault builder := by
  unfold setParameters
  rw [h]
  show (Action.ofAttempt (checkLimit _) >>= _ : Action (Builder σ) Unit) builder = _
  rw [hlimit]
  rfl

theorem setParameters_of_checked {settings : Value} {entries : Value.Entries}
    (h : settingEntries settings = .ok entries)
    (hlimit : checkLimit ((Entries.get? (.text "limit") entries).getD .null) = .ok ())
    (builder : Builder σ) :
    let changed := builder.descriptor.parameters.update entries
    setParameters settings builder = match changed.1 with
      | .ok _ =>
        .ok () { builder with descriptor := { builder.descriptor with parameters := changed.2 } }
      | .error fault =>
        .error fault
          { builder with descriptor := { builder.descriptor with parameters := changed.2 } } := by
  intro changed
  unfold setParameters
  rw [h]
  show (Action.ofAttempt (checkLimit _) >>= _ : Action (Builder σ) Unit) builder = _
  rw [hlimit, Action.ofAttempt_ok_bind, Action.get_bind]
  rcases hchanged : builder.descriptor.parameters.update entries with ⟨_ | _, parameters⟩
  all_goals
    simp only [changed, hchanged]
    rfl

end Builder

namespace Facade

def Selection.composed (selection : Selection) : Attempt Descriptor := do
  let fields ← Builder.fieldList selection.fields
  let table ← Builder.tableExpression selection.table
  let condition := Condition.Clause.set {} selection.condition []
  condition.1
  let entries ← Builder.settingEntries selection.parameters
  Builder.checkLimit ((Entries.get? (.text "limit") entries).getD .null)
  let parameters := ({} : Parameters).update entries
  parameters.1
  return { fields, table, clause := condition.2, parameters := parameters.2 }

/-- What the parts of a selection give, if all of them are accepted. -/
structure Selection.Gives (selection : Selection) (entries : Value.Entries)
    (descriptor : Descriptor) : Prop where
  fields : Builder.fieldList selection.fields = .ok descriptor.fields
  table : Builder.tableExpression selection.table = .ok descriptor.table
  clause : Condition.Clause.set {} selection.condition [] = (.ok (), descriptor.clause)
  settings : Builder.settingEntries selection.parameters = .ok entries
  limit : Builder.checkLimit ((Entries.get? (.text "limit") entries).getD .null) = .ok ()
  parameters : ({} : Parameters).update entries = (.ok (), descriptor.parameters)
  kind : descriptor.kind = .select
  values : descriptor.values = []
  placeholders : descriptor.placeholders = []

theorem Selection.gives_of_composed {selection : Selection} {descriptor : Descriptor}
    (h : selection.composed = .ok descriptor) :
    ∃ entries, selection.Gives entries descriptor := by
  obtain ⟨fields, hfields, h⟩ := Action.of_attempts_ok h
  obtain ⟨table, htable, h⟩ := Action.of_attempts_ok h
  obtain ⟨⟨⟩, haccepted, h⟩ := Action.of_attempts_ok h
  obtain ⟨entries, hsettings, h⟩ := Action.of_attempts_ok h
  obtain ⟨⟨⟩, hlimit, h⟩ := Action.of_attempts_ok h
  obtain ⟨⟨⟩, hupdate, h⟩ := Action.of_attempts_ok h
  cases h
  exact ⟨entries, hfields, htable, Prod.ext haccepted rfl, hsettings, hlimit,
    Prod.ext hupdate rfl, rfl, rfl, rfl⟩

theorem Selection.compose_composes (selection : Selection) :
    Builder.Composes (selection.compose : Action (Builder σ) Unit) selection.composed := by
  intro builder
  unfold Selection.compose Selection.composed Action.outcome Action.after
  simp only [bind, EStateM.bind, Builder.select_eq]
  cases Builder.fieldList selection.fields with
  | error fault => exact ⟨rfl, fun descriptor h => by cases h⟩
  | ok fields =>
  simp only [Builder.fromTable_eq]
  cases Builder.tableExpression selection.table with
  | error fault => exact ⟨rfl, fun descriptor h => by cases h⟩
  | ok table =>
  simp only [Builder.filter_eq selection.condition
    { builder.cleared with descriptor := { fields, table } } rfl]
  cases (Condition.Clause.set {} selection.condition []).1 with
  | error fault => exact ⟨rfl, fun descriptor h => by cases h⟩
  | ok accepted =>
  cases hentries : Builder.settingEntries selection.parameters with
  | error fault =>
    simp only [Builder.setParameters_of_refused hentries]
    exact ⟨rfl, fun descriptor h => by cases h⟩
  | ok entries =>
  cases hlimit : Builder.checkLimit ((Entries.get? (.text "limit") entries).getD .null) with
  | error fault =>
    simp only [Builder.setParameters_of_unread hentries hlimit]
    simp only [Except.bind, hlimit]
    exact ⟨rfl, fun descriptor h => by cases h⟩
  | ok checked =>
  simp only [Builder.setParameters_of_checked hentries hlimit]
  simp only [Except.bind, hlimit]
  cases (({} : Parameters).update entries).1 with
  | error fault => exact ⟨rfl, fun descriptor h => by cases h⟩
  | ok updated => exact ⟨rfl, fun descriptor h => by cases h; rfl⟩

theorem Selection.compose_read [Connection σ] (selection : Selection) :
    Builder.ComposesRead (selection.compose : Action (Builder σ) Unit) selection.composed where
  composes := selection.compose_composes
  isRead descriptor h := by
    obtain ⟨entries, hgives⟩ := gives_of_composed h
    rw [Builder.isRead, hgives.kind]
  keys descriptor h := by
    obtain ⟨entries, hgives⟩ := gives_of_composed h
    rw [hgives.placeholders]
    exact fun _ hkey => by cases hkey

/-! ## Raw statements -/

/-- The statement that a text and the values for its markers compose. -/
def composedRaw (sql placeholders : Value) : Attempt Descriptor := do
  let entries ← Builder.placeholderEntries placeholders
  return { kind := .raw, rawSql := sql, placeholders := Entries.merge [] entries }

theorem composeRaw_composes (sql placeholders : Value) :
    Builder.Composes (composeRaw sql placeholders : Action (Builder σ) Unit)
      (composedRaw sql placeholders) := by
  intro builder
  unfold composedRaw composeRaw Builder.addPlaceholders
  cases Builder.placeholderEntries placeholders with
  | error fault => exact ⟨rfl, fun descriptor h => by cases h⟩
  | ok entries => exact ⟨rfl, fun descriptor h => by cases h; rfl⟩

theorem composeRaw_read [Connection σ] {sql : String}
    (h : (Connection.parser σ).isRead sql = true) {placeholders : Value}
    (hkeys : placeholders.IsKeyedByMarkers) :
    Builder.ComposesRead (composeRaw (.text sql) placeholders : Action (Builder σ) Unit)
      (composedRaw (.text sql) placeholders) where
  composes := composeRaw_composes (.text sql) placeholders
  isRead descriptor hd := by
    obtain ⟨entries, -, hd⟩ := Action.of_attempts_ok hd
    cases hd
    unfold Builder.isRead
    exact Option.any_some.trans h
  keys descriptor hd := by
    obtain ⟨entries, hentries, hd⟩ := Action.of_attempts_ok hd
    cases hd
    exact Entries.forall_keys_merge (fun _ hkey => by cases hkey)
      (Builder.placeholderEntries_keys hkeys hentries)

end Facade

end SqlToolkit
