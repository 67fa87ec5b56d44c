import SqlToolkit.Proofs.Builder.Execute
import SqlToolkit.Proofs.Builder.Modes
import SqlToolkit.Proofs.Session.Layers

/-!
# The calls of a facade

A call of the facade that sends a statement makes a *request* of its arguments: what is to be
composed on the builder, and the debug mode that the call brings along. Every call prepares its
request, executes what was composed, and is finished with what that gave; or it refuses its
arguments and does nothing. The search for a greatest value takes no debug mode at all.
-/

namespace SqlToolkit.Facade

open SqlToolkit.Action (Keeps)

variable {σ α : Type}

/-- A call that builds a statement and runs it, with the type of its result. -/
inductive Call : Type → Type where
  | query (sql placeholders debug : Value) : Call ExecutionResult
  | queryRow (sql placeholders : Value) (mode : FetchMode) (debug : Value) : Call Value
  | queryValue (sql placeholders debug : Value) : Call Value
  | select (selection : Selection) (debug : Value) : Call ExecutionResult
  | selectCount (selection : Selection) (debug : Value) (mode : FetchMode) : Call Value
  | selectRow (selection : Selection) (mode : FetchMode) (debug : Value) : Call Value
  | selectValue (selection : Selection) (debug : Value) : Call Value
  | insert (table values debug : Value) : Call Int
  | update (table values condition debug : Value) : Call Int
  | delete (table condition debug : Value) : Call Int
  | columns (table : String) (mode : FetchMode) (debug : Value) : Call (List Value)
  | tables (debug : Value) : Call (List Value)
  | maximum (table column : Value) : Call Value

/-! ## Requests -/

/-- What a call composes, and the debug mode that it brings along if it takes one. -/
structure Request (σ : Type) where
  compose : Action (Builder σ) Unit
  debug : Option Value
  starting : Builder.Starting compose

def Request.prepare (request : Request σ) : Action (Facade σ) Unit :=
  match request.debug with
  | some debug => Facade.prepare request.compose debug
  | none => onBuilder request.compose

def rawRequest (sql placeholders debug : Value) : Request σ where
  compose := composeRaw sql placeholders
  debug := some debug
  starting := composeRaw_starting sql placeholders

def Selection.request (selection : Selection) (debug : Value) : Request σ where
  compose := selection.compose
  debug := some debug
  starting := selection.compose_starting

/-- A search for the greatest value of a column, which is given by its text. -/
def maximumRequest (table : Value) (column : String) : Request σ where
  compose := do
    Builder.select (.text s!"MAX({column})")
    Builder.fromTable table
  debug := none
  starting := (Builder.select_starting _).bind fun _ => Builder.fromTable_composing table

/-- A selection that counts what its fields list, unless they cannot be written. -/
def Selection.counting (selection : Selection) : Attempt Selection := do
  let fields := match selection.fields with
    | .null => allRows
    | fields => fields
  return { selection with fields := .text (← fields.write CountFields.sql) }

/-- A selection of one row at most, unless its parameters cannot be read. -/
def Selection.single (selection : Selection) : Attempt Selection := do
  let parameters ← Builder.settingEntries selection.parameters
  return { selection with
    parameters := .map (Entries.insert (.text "limit") (.int 1) parameters) }

namespace Call

/-- The request that a call makes of its arguments, unless it refuses them. -/
def request (dialect : Dialect) : Call α → Attempt (Request σ)
  | .query sql placeholders debug | .queryRow sql placeholders _ debug
  | .queryValue sql placeholders debug => .ok (rawRequest sql placeholders debug)
  | .select selection debug => .ok (selection.request debug)
  | .selectCount selection debug _ => selection.counting.map (·.request debug)
  | .selectRow selection _ debug | .selectValue selection debug =>
    selection.single.map (·.request debug)
  | .insert table values debug =>
    .ok ⟨Builder.insert table values, some debug, Builder.insert_starting table values⟩
  | .update table values condition debug =>
    .ok ⟨Builder.update table values condition, some debug,
      Builder.update_starting table values condition⟩
  | .delete table condition debug =>
    .ok ⟨Builder.delete table condition, some debug, Builder.delete_starting table condition⟩
  | .columns table _ debug =>
    (dialect.columnsQuery table).map fun catalog =>
      rawRequest (.text catalog.sql) (.map (Descriptor.asPlaceholders catalog.placeholders)) debug
  | .tables debug => .ok (rawRequest (.text dialect.tablesSql) .null debug)
  | .maximum table column => (column.write Value.display).map (maximumRequest table)

/-- What a call makes of the result of its statement. -/
def finish : Call α → ExecutionResult → Action (Facade σ) α
  | .query _ _ _, result | .select _ _, result => pure result
  | .queryRow _ _ mode _, _ | .selectCount _ _ mode, _ | .selectRow _ mode _, _ => fetch mode
  | .queryValue _ _ _, _ | .selectValue _ _, _ | .maximum _ _, _ => do
    return Builder.firstColumn (← fetch .num)
  | .insert _ _ _, result | .update _ _ _ _, result | .delete _ _ _, result =>
    pure result.affectedRows
  | .columns _ mode _, _ => fetchAll mode
  | .tables _, _ => fetchAll .column

variable [Connection σ]

def run : Call α → Action (Facade σ) α
  | .query sql placeholders debug => Facade.query sql placeholders debug
  | .queryRow sql placeholders mode debug => Facade.queryRow sql placeholders mode debug
  | .queryValue sql placeholders debug => Facade.queryValue sql placeholders debug
  | .select selection debug => Facade.select selection debug
  | .selectCount selection debug mode => Facade.selectCount selection debug mode
  | .selectRow selection mode debug => Facade.selectRow selection mode debug
  | .selectValue selection debug => Facade.selectValue selection debug
  | .insert table values debug => Facade.insert table values debug
  | .update table values condition debug => Facade.update table values condition debug
  | .delete table condition debug => Facade.delete table condition debug
  | .columns table mode debug => Facade.columns table mode debug
  | .tables debug => Facade.tables debug
  | .maximum table column => onBuilder (Builder.maximum table column)

end Call

section Run

variable [Connection σ]

def Request.run (request : Request σ) : Action (Facade σ) ExecutionResult := do
  request.prepare
  onBuilder Builder.execute

theorem Request.run_of_debug {request : Request σ} {debug : Value}
    (h : request.debug = some debug) : request.run = runWith request.compose debug := by
  unfold Request.run Request.prepare
  rw [h]
  exact (runWith_eq request.compose debug).symm

theorem rawRequest_run (sql placeholders debug : Value) :
    (rawRequest sql placeholders debug : Request σ).run = query sql placeholders debug :=
  Request.run_of_debug rfl

theorem Selection.request_run (selection : Selection) (debug : Value) :
    (selection.request debug : Request σ).run = Facade.select selection debug :=
  Request.run_of_debug rfl

namespace Call

theorem selectRow_eq (selection : Selection) (mode : FetchMode) (debug : Value) :
    (Facade.selectRow selection mode debug : Action (Facade σ) Value) = (do
      let single ← Action.ofAttempt selection.single
      let _ ← Facade.select single debug
      fetch mode) := by
  unfold Facade.selectRow Selection.single
  cases Builder.settingEntries selection.parameters <;> rfl

theorem selectCount_eq (selection : Selection) (debug : Value) (mode : FetchMode) :
    (Facade.selectCount selection debug mode : Action (Facade σ) Value) = (do
      let counting ← Action.ofAttempt selection.counting
      let _ ← Facade.select counting debug
      fetch mode) := by
  unfold Facade.selectCount Selection.counting
  dsimp only
  cases (match selection.fields with
    | .null => allRows
    | fields => fields).write CountFields.sql <;> rfl

/-- The greatest value is searched for by a SELECT, which is executed as a read. -/
theorem maximum_eq (table : Value) {column : Value} (h : column.isWritable = true) :
    (onBuilder (Builder.maximum table column) : Action (Facade σ) Value) = (do
      let _ ← (maximumRequest table column.display).run
      return Builder.firstColumn (← fetch .num)) := by
  have hbuilder : (Builder.maximum table column : Action (Builder σ) Value) = (do
      (maximumRequest table column.display).compose
      let _ ← Builder.execute
      return Builder.firstColumn (← Builder.fetch .num)) := by
    funext builder
    rw [Builder.maximum_eq, Builder.askMaximum_of_isWritable h]
    unfold maximumRequest
    dsimp only
    rw [bind_assoc, bind_assoc]
    refine Action.bind_congr_at fun _ _ => Action.bind_congr_at fun _ _ => ?_
    have hread : Builder.isRead (Connection.parser σ) ((Builder.fromTable table).after
        ((Builder.select (.text s!"MAX({column.display})")).after builder)).descriptor = true := by
      refine (Builder.fromTable_view (Builder.isRead (Connection.parser σ)) (fun _ _ => rfl) table
        _).symm.trans ?_
      dsimp only
      rw [Builder.isRead, Builder.kind_select]
    show EStateM.bind _ _ _ = EStateM.bind _ _ _
    unfold EStateM.bind
    rw [Builder.execute_of_read hread]
    rfl
  have hparts {β γ : Type} (action : Action (Builder σ) β) (next : β → Action (Builder σ) γ) :
      onBuilder (action >>= next) = onBuilder action >>= fun result => onBuilder (next result) :=
    Action.on_bind builderPart (fun _ _ => rfl) (fun _ _ _ => rfl) action next
  rw [hbuilder]
  simp only [hparts]
  exact (bind_assoc (onBuilder (maximumRequest table column.display).compose)
    (fun _ => onBuilder Builder.execute) _).symm

theorem maximum_of_not_isWritable (table : Value) {column : Value} (h : column.isWritable = false) :
    (onBuilder (Builder.maximum table column) : Action (Facade σ) Value) = throw .badValue := by
  rw [Builder.maximum_eq, Builder.askMaximum_of_not_isWritable h]
  rfl

/-- A call runs its request and is finished with what that gave. -/
theorem run_of_request {call : Call α} {facade : Facade σ} {request : Request σ}
    (h : call.request facade.builder.dialect = .ok request) :
    call.run facade = (request.run >>= call.finish) facade := by
  cases call with
  | query sql placeholders debug =>
    cases h
    rw [rawRequest_run]
    exact (congrFun (bind_pure (Facade.query sql placeholders debug)) facade).symm
  | select selection debug =>
    cases h
    rw [Selection.request_run]
    exact (congrFun (bind_pure (Facade.select selection debug)) facade).symm
  | queryRow | tables =>
    cases h
    rw [rawRequest_run]
    rfl
  | selectCount selection debug mode =>
    have h : selection.counting.map (·.request debug) = .ok request := h
    show Facade.selectCount selection debug mode facade = _
    rw [selectCount_eq]
    cases hs : selection.counting with
    | error fault => rw [hs] at h; cases h
    | ok counting => rw [hs] at h; cases h; rw [Selection.request_run]; rfl
  | insert | update | delete =>
    cases h
    rw [Request.run_of_debug rfl]
    rfl
  | queryValue sql placeholders debug =>
    cases h
    rw [rawRequest_run]
    exact congrFun (bind_assoc (Facade.query sql placeholders debug) _ _) facade
  | selectRow selection mode debug =>
    have h : selection.single.map (·.request debug) = .ok request := h
    show Facade.selectRow selection mode debug facade = _
    rw [selectRow_eq]
    cases hs : selection.single with
    | error fault => rw [hs] at h; cases h
    | ok single => rw [hs] at h; cases h; rw [Selection.request_run]; rfl
  | selectValue selection debug =>
    have h : selection.single.map (·.request debug) = .ok request := h
    show Facade.selectValue selection debug facade = _
    rw [Facade.selectValue, selectRow_eq]
    cases hs : selection.single with
    | error fault => rw [hs] at h; cases h
    | ok single =>
      rw [hs] at h
      cases h
      rw [Selection.request_run]
      exact congrFun (bind_assoc (Facade.select single debug) _ _) facade
  | columns table mode debug =>
    have h : (facade.builder.dialect.columnsQuery table).map _ = .ok request := h
    show Facade.columns table mode debug facade = _
    unfold Facade.columns
    rw [Action.get_bind]
    cases hc : facade.builder.dialect.columnsQuery table with
    | error fault => rw [hc] at h; cases h
    | ok catalog => rw [hc] at h; cases h; rw [rawRequest_run]; rfl
  | maximum table column =>
    have h : (column.write Value.display).map (maximumRequest table) = .ok request := h
    cases hwritable : column.isWritable with
    | false => rw [Value.write_of_not_isWritable hwritable] at h; cases h
    | true =>
      rw [Value.write_of_isWritable hwritable] at h
      cases h
      exact congrFun (maximum_eq table hwritable) facade

/-- A call that refuses its arguments does nothing. -/
theorem run_of_refused {call : Call α} {facade : Facade σ} {fault : Fault}
    (h : call.request (σ := σ) facade.builder.dialect = .error fault) :
    call.run facade = .error fault facade := by
  cases call with
  | selectRow selection mode debug =>
    have h : selection.single.map (·.request debug) = .error fault := h
    show Facade.selectRow selection mode debug facade = _
    rw [selectRow_eq]
    cases hs : selection.single with
    | error fault => rw [hs] at h; cases h; rfl
    | ok single => rw [hs] at h; cases h
  | selectValue selection debug =>
    have h : selection.single.map (·.request debug) = .error fault := h
    show Facade.selectValue selection debug facade = _
    rw [Facade.selectValue, selectRow_eq]
    cases hs : selection.single with
    | error fault => rw [hs] at h; cases h; rfl
    | ok single => rw [hs] at h; cases h
  | columns table mode debug =>
    have h : (facade.builder.dialect.columnsQuery table).map _ = .error fault := h
    show Facade.columns table mode debug facade = _
    unfold Facade.columns
    rw [Action.get_bind]
    cases hc : facade.builder.dialect.columnsQuery table with
    | error fault => rw [hc] at h; cases h; rfl
    | ok catalog => rw [hc] at h; cases h
  | selectCount selection debug mode =>
    have h : selection.counting.map (·.request debug) = .error fault := h
    show Facade.selectCount selection debug mode facade = _
    rw [selectCount_eq]
    cases hs : selection.counting with
    | error fault => rw [hs] at h; cases h; rfl
    | ok counting => rw [hs] at h; cases h
  | maximum table column =>
    have h : (column.write Value.display).map (maximumRequest table) = .error fault := h
    cases hwritable : column.isWritable with
    | false =>
      rw [Value.write_of_not_isWritable hwritable] at h
      cases h
      exact congrFun (maximum_of_not_isWritable table hwritable) facade
    | true => rw [Value.write_of_isWritable hwritable] at h; cases h
  | _ => cases h

/-! ## What calls keep -/

omit [Connection σ] in
/-- The statement has been run; all that is left is to look at what it gave. -/
theorem finish_leaves {T : Type} {view : Facade σ → T}
    (hone : ∀ mode, Keeps Eq view (fetch mode : Action (Facade σ) Value))
    (hall : ∀ mode, Keeps Eq view (fetchAll mode : Action (Facade σ) (List Value)))
    (call : Call α) (result : ExecutionResult) :
    Keeps Eq view (call.finish result : Action (Facade σ) α) := by
  cases call with
  | query | select | insert | update | delete => exact Keeps.pure _
  | queryRow _ _ mode | selectCount _ _ mode | selectRow _ mode => exact hone mode
  | queryValue | selectValue | maximum => exact (hone .num).bind fun _ => Keeps.pure _
  | columns _ mode => exact hall mode
  | tables => exact hall .column

omit [Connection σ] in
theorem finish_leavesClient (call : Call α) (result : ExecutionResult) :
    Keeps Eq client (call.finish result : Action (Facade σ) α) :=
  finish_leaves fetch_leavesClient fetchAll_leavesClient call result

omit [Connection σ] in
theorem request_leavesClient (request : Request σ) : Keeps Eq client request.prepare := by
  unfold Request.prepare
  split
  · exact prepare_leavesClient request.starting.leavesClient _
  · exact onBuilder_keeps request.starting.leavesClient

/-- Once its request is prepared, a call does to the client what the execution does. -/
theorem client_run_of_prepared {call : Call α} {facade : Facade σ} {request : Request σ}
    (h : call.request facade.builder.dialect = .ok request)
    (hp : request.prepare.outcome facade = .ok ()) :
    (call.run.after facade).client =
      (Builder.execute.after (request.prepare.after facade).builder).client := by
  rw [Action.after, run_of_request h, ← Action.after]
  refine (Action.view_after_bind client call.finish_leavesClient facade).trans ?_
  unfold Request.run
  rw [Action.after_bind_ok hp]
  exact congrArg client (Action.after_on builderPart Builder.execute _)

/-- A call keeps what executions keep. -/
theorem run_keeps {R : Client σ → Client σ → Prop} [IsPreorder (Client σ) R]
    (hexecute : Keeps R Builder.client (Builder.execute : Action (Builder σ) ExecutionResult))
    (call : Call α) : Keeps R client (call.run : Action (Facade σ) α) := by
  intro facade
  cases h : call.request (σ := σ) facade.builder.dialect with
  | error fault => rw [Action.after, run_of_refused h]; exact refl _
  | ok request =>
    rw [Action.after, run_of_request h, ← Action.after]
    exact (((Keeps.of_eq (request_leavesClient request)).bind fun _ =>
      onBuilder_keeps hexecute).bind fun result =>
        Keeps.of_eq (call.finish_leavesClient result)) facade

end Call

/-- The names of columns come from the cache or from a call. -/
theorem columnNames_keeps {T : Type} {R : T → T → Prop} [IsPreorder T R] {view : Facade σ → T}
    (hview : ∀ facade cache, view { facade with cache } = view facade) (table : String)
    (hcall : Keeps R view (Call.columns table .assoc (.bool false)).run) :
    Keeps R view (columnNames table : Action (Facade σ) (List Value)) := by
  refine Keeps.get.bind fun facade => ?_
  split
  · exact Keeps.bind (Keeps.modify fun facade => hview facade _) fun _ => Keeps.pure _
  · refine Keeps.bind hcall fun rows => ?_
    exact (Keeps.ofAttempt _).bind fun _ =>
      Keeps.get.bind fun _ =>
        (Keeps.ofAttempt _).bind fun _ =>
          Keeps.bind (Keeps.modify fun facade => hview facade _) fun _ => Keeps.pure _

end Run

end SqlToolkit.Facade
