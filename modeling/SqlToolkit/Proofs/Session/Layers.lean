import SqlToolkit.Proofs.Builder.Execute
import SqlToolkit.Proofs.Builder.Operation
import SqlToolkit.Proofs.Client.Calls
import SqlToolkit.Proofs.Session.Operation
import SqlToolkit.Proofs.Statement.LeadingKeyword

/-!
# What the layers pass on

The builder, the facade and the pager touch the connection through their client only, and a read
touches it by running statements. So whatever running a statement keeps of a client, every read
keeps at every layer, however it fails. A call of the facade that may write comes down to what its
execution keeps, from the state in which the call has prepared it.
-/

namespace SqlToolkit

open SqlToolkit.Action (Keeps)

variable {σ : Type} {R : Client σ → Client σ → Prop} [IsPreorder (Client σ) R]

/-! ## The builder -/

namespace Builder

omit [IsPreorder (Client σ) R] in
theorem onClient_keeps {α : Type} {action : Action (Client σ) α} (h : Keeps R id action) :
    Keeps R Builder.client (onClient action) :=
  Keeps.on clientPart (fun _ _ => rfl) h

omit [IsPreorder (Client σ) R] in
theorem guarded_keeps {α : Type} {kind : QueryKind} {mode : DebugMode} {sql : String}
    {placeholders : Value.Entries} {action : Action (Builder σ) α}
    (h : Keeps R Builder.client action) :
    Keeps R Builder.client (guarded kind mode sql placeholders action) := by
  intro builder
  rw [guarded_client]
  exact h builder

end Builder

variable [Connection σ]
  (hrun : ∀ sql arguments, Keeps R id (Client.run sql arguments : Action (Client σ) ResultSet))

include hrun

/-! ## The client -/

theorem Client.exec_keeps (sql : String) : Keeps R id (exec sql : Action (Client σ) Int) :=
  (hrun sql none).bind fun _ => Keeps.pure _

/-- A statement that cannot be sent leaves the client alone; another one is run. -/
theorem PreparedStatement.execute_keeps (statement : PreparedStatement) :
    Keeps R id (statement.execute : Action (Client σ) PreparedStatement) := by
  intro client
  rw [Action.after, execute_eq]
  cases outgoing (Connection.parser σ) client.paramstyle statement with
  | error fault => exact refl client
  | ok request =>
    obtain ⟨spelled, values⟩ := request
    show R client ((statement.fetched <$> Client.run spelled values).after client)
    rw [Action.after_map]
    exact hrun spelled values client

theorem PreparedStatement.run_keeps (sql : String) (placeholders : Value.Entries) :
    Keeps R id (run sql placeholders : Action (Client σ) PreparedStatement) :=
  (Keeps.ofAttempt _).bind fun statement => statement.execute_keeps hrun

namespace Builder

/-! ## Statements of the builder -/

theorem runOnClient_keeps (sql : String) (placeholders : Value.Entries) :
    Keeps R Builder.client
      (onClient (PreparedStatement.run sql placeholders) : Action (Builder σ) PreparedStatement) :=
  onClient_keeps (PreparedStatement.run_keeps hrun sql placeholders)

theorem sendWrite_keeps (sql : String) (placeholders : Value.Entries)
    (wantsId rollbackOnly : Bool) :
    Keeps R Builder.client (sendWrite sql placeholders wantsId rollbackOnly :
      Action (Builder σ) ((PreparedStatement × Value) × Bool)) :=
  (runOnClient_keeps hrun sql placeholders).bind fun _ => Keeps.get.bind fun _ => Keeps.pure _

theorem executeQuery_keeps :
    Keeps R Builder.client (executeQuery : Action (Builder σ) ExecutionResult) :=
  Keeps.get.bind fun _ =>
    (Keeps.ofAttempt _).bind fun _ =>
      (Keeps.ofAttempt _).bind fun _ =>
        (guarded_keeps (runOnClient_keeps hrun _ _)).bind fun _ =>
          Keeps.of_eq ((remember_quiet _ _).leavesClient.bind fun _ =>
            (capture_silent _ _ _ _).leavesClient.bind fun _ => Keeps.pure _)

theorem countAgain_keeps (sql : String) (placeholders : Value.Entries) :
    Keeps R Builder.client (countAgain sql placeholders : Action (Builder σ) Int) :=
  Keeps.get.bind fun _ => guarded_keeps ((runOnClient_keeps hrun sql placeholders).bind fun _ =>
    (Keeps.ofAttempt _).bind fun _ => Keeps.pure _)

theorem runProbe_keeps (probe : String) (placeholders : Value.Entries) :
    Keeps R Builder.client (runProbe probe placeholders : Action (Builder σ) Value) :=
  (runOnClient_keeps hrun probe placeholders).bind fun _ =>
    Keeps.get.bind fun _ => Keeps.ofAttempt _

theorem countRead_keeps (sql : String) (placeholders : Value.Entries) :
    Keeps R Builder.client (countRead sql placeholders : Action (Builder σ) Int) := by
  refine Keeps.get.bind fun builder => ?_
  split
  · exact countAgain_keeps hrun sql placeholders
  · refine (runProbe_keeps hrun _ placeholders).attempt.bind fun row => ?_
    split
    · exact (Keeps.of_eq (capture_silent _ _ _ _).leavesClient).bind fun _ => Keeps.ofAttempt _
    · split
      · exact Keeps.throw _
      · exact (Keeps.of_eq (note_silent _).leavesClient).bind fun _ =>
          countAgain_keeps hrun sql placeholders

theorem numRows_keeps : Keeps R Builder.client (numRows : Action (Builder σ) Int) := by
  refine Keeps.get.bind fun builder => ?_
  dsimp only
  split
  · exact Keeps.throw _
  · split
    · exact countRead_keeps hrun _ _
    · exact Keeps.pure _

theorem maximum_keeps (table column : Value) :
    Keeps R Builder.client (maximum table column : Action (Builder σ) Value) :=
  (Keeps.ofAttempt _).bind fun _ => (Keeps.of_eq (select_starting _).leavesClient).bind fun _ =>
    (Keeps.of_eq (fromTable_composing table).leavesClient).bind fun _ =>
      (executeQuery_keeps hrun).bind fun _ =>
        (Keeps.of_eq (fetch_silent .num).leavesClient).bind fun _ => Keeps.pure _

/-- A statement that returns rows is executed as a read. -/
theorem execute_related_of_read {builder : Builder σ}
    (h : isRead (Connection.parser σ) builder.descriptor = true) :
    R builder.client (execute.after builder).client := by
  have hread : execute.after builder = executeQuery.after builder := by
    unfold execute
    rw [Action.after_bind_ok (Action.outcome_get _), Action.after_get, h]
    rfl
  rw [hread]
  exact executeQuery_keeps hrun builder

/-- An execution keeps what reads and writes both keep. -/
theorem execute_keeps
    (hwrite : Keeps R Builder.client (executeStatement : Action (Builder σ) ExecutionResult)) :
    Keeps R Builder.client (execute : Action (Builder σ) ExecutionResult) := by
  refine Keeps.get.bind fun builder => ?_
  split
  · exact executeQuery_keeps hrun
  · exact hwrite

end Builder

omit hrun

/-! ## Calls of the facade -/

namespace Facade

section Parts

omit [Connection σ]

omit [IsPreorder (Client σ) R] in
theorem onBuilder_keeps {α : Type} {action : Action (Builder σ) α}
    (h : Keeps R Builder.client action) : Keeps R client (onBuilder action) :=
  Keeps.on builderPart (fun _ _ => rfl) h

theorem takeDebug_leavesBuilder (debug : Value) :
    Keeps Eq Facade.builder (takeDebug debug : Action (Facade σ) Value) := by
  refine Keeps.get.bind fun facade => Keeps.bind (Keeps.modify fun _ => rfl) fun _ => ?_
  split
  · exact Keeps.pure _
  · exact (Keeps.ofAttempt _).bind fun _ => Keeps.pure _

theorem fetch_leavesClient (mode : FetchMode) :
    Keeps Eq client (fetch mode : Action (Facade σ) Value) :=
  onBuilder_keeps (Builder.fetch_silent mode).leavesClient

theorem fetchAll_leavesClient (mode : FetchMode) :
    Keeps Eq client (fetchAll mode : Action (Facade σ) (List Value)) :=
  onBuilder_keeps (Builder.fetchAll_silent mode).leavesClient

/-- What a call does before it executes: it composes the statement and chooses the debug mode. -/
def prepare (compose : Action (Builder σ) Unit) (debug : Value) : Action (Facade σ) Unit := do
  onBuilder compose
  let mode ← takeDebug debug
  onBuilder (Builder.setDebugOnce mode)

variable {compose : Action (Builder σ) Unit}

theorem prepare_leavesClient (h : Builder.LeavesClient compose) (debug : Value) :
    Keeps Eq client (prepare compose debug) :=
  (onBuilder_keeps h).bind fun _ =>
    Keeps.bind (fun facade => congrArg Builder.client (takeDebug_leavesBuilder debug facade))
      fun mode => onBuilder_keeps (Builder.setDebugOnce_leavesClient mode)

/-- What is executed is what was composed. -/
theorem descriptor_prepare (debug : Value) (facade : Facade σ) :
    ((prepare compose debug).after facade).builder.descriptor =
      (compose.after facade.builder).descriptor := by
  have hrest : Keeps Eq (fun facade : Facade σ => facade.builder.descriptor) (do
      let mode ← takeDebug debug
      onBuilder (Builder.setDebugOnce mode) : Action (Facade σ) Unit) :=
    Keeps.bind (fun facade => congrArg Builder.descriptor (takeDebug_leavesBuilder debug facade))
      fun mode => Keeps.on builderPart (fun _ _ => rfl)
        (((Keeps.ofAttempt _).bind fun _ => Keeps.modify fun _ => rfl :
          Builder.LeavesDescriptor (Builder.setDebugOnce mode)))
  have hcompose : ((onBuilder compose).after facade).builder = compose.after facade.builder :=
    congrArg Facade.builder (Action.after_on builderPart compose facade)
  unfold prepare
  rw [Action.after_bind]
  split
  · exact (hrest _).symm.trans (congrArg Builder.descriptor hcompose)
  · exact congrArg Builder.descriptor hcompose

end Parts

section Calls

variable {compose : Action (Builder σ) Unit}

theorem runWith_eq (compose : Action (Builder σ) Unit) (debug : Value) :
    runWith compose debug = (do
      prepare compose debug
      onBuilder Builder.execute) := by
  simp only [runWith, prepare, bind_assoc]

omit [IsPreorder (Client σ) R] in
/-- A call does to the client what its execution does, once the call is prepared. -/
theorem runWith_related [Std.Refl R] (hcompose : Builder.LeavesClient compose) (debug : Value)
    (facade : Facade σ)
    (h : let ready := ((prepare compose debug).after facade).builder
      R ready.client (Builder.execute.after ready).client) :
    R facade.client ((runWith compose debug).after facade).client := by
  have hready := prepare_leavesClient hcompose debug facade
  rw [runWith_eq, Action.after_bind, hready]
  split
  · have hexecuted : ((onBuilder Builder.execute).after
        ((prepare compose debug).after facade)).client =
        (Builder.execute.after ((prepare compose debug).after facade).builder).client :=
      congrArg client (Action.after_on builderPart Builder.execute _)
    rw [hexecuted]
    exact h
  · exact refl _

omit [IsPreorder (Client σ) R] in
/-- A call keeps what an execution keeps. -/
theorem runWith_keeps [Std.Refl R] (hcompose : Builder.LeavesClient compose)
    (hexecute : Keeps R Builder.client (Builder.execute : Action (Builder σ) ExecutionResult))
    (debug : Value) : Keeps R client (runWith compose debug) :=
  fun facade => runWith_related hcompose debug facade (hexecute _)

include hrun in
/-- A call that composes a read keeps what a read keeps. -/
theorem runWith_keeps_of_read (hcompose : Builder.LeavesClient compose)
    (hread : ∀ builder,
      Builder.isRead (Connection.parser σ) (compose.after builder).descriptor = true)
    (debug : Value) :
    Keeps R client (runWith compose debug) := by
  intro facade
  refine runWith_related hcompose debug facade (Builder.execute_related_of_read hrun ?_)
  rw [descriptor_prepare]
  exact hread facade.builder

end Calls

/-! ### Selections -/

def Selection.compose (selection : Selection) : Action (Builder σ) Unit := do
  Builder.select selection.fields
  Builder.fromTable selection.table
  Builder.filter selection.condition
  Builder.setParameters selection.parameters

omit [Connection σ] in
theorem Selection.compose_starting (selection : Selection) :
    Builder.Starting (selection.compose : Action (Builder σ) Unit) :=
  (Builder.select_starting _).bind fun _ =>
    (Builder.fromTable_composing _).bind fun _ =>
      (Builder.filter_composing _).bind fun _ => Builder.setParameters_composing _

/-- A composed selection is a SELECT, however far the composing got. -/
theorem Selection.isRead_compose (selection : Selection) (builder : Builder σ) :
    Builder.isRead (Connection.parser σ) (selection.compose.after builder).descriptor = true := by
  let told := Builder.isRead (Connection.parser σ)
  have hrest : Keeps Eq (fun builder : Builder σ => told builder.descriptor) (do
      Builder.fromTable selection.table
      Builder.filter selection.condition
      Builder.setParameters selection.parameters : Action (Builder σ) Unit) :=
    (Builder.fromTable_view told (fun _ _ => rfl) _).bind fun _ =>
      (Builder.filter_view told (fun _ _ => rfl) _).bind fun _ =>
        Builder.Continuation.run_view told
          (.setParameters selection.parameters) (fun _ _ => rfl) (fun _ _ => rfl)
          (fun _ _ _ _ => rfl)
  have hselect : told ((Builder.select selection.fields).after builder).descriptor = true := by
    show Builder.isRead _ _ = true
    rw [Builder.isRead, Builder.kind_select]
  unfold Selection.compose
  rw [Action.after_bind]
  split
  · exact (hrest _).symm.trans hselect
  · exact hselect

include hrun

theorem select_keeps (selection : Selection) (debug : Value) :
    Keeps R client (select selection debug : Action (Facade σ) ExecutionResult) :=
  runWith_keeps_of_read hrun selection.compose_starting.leavesClient selection.isRead_compose debug

theorem selectCount_keeps (selection : Selection) (debug : Value) (mode : FetchMode) :
    Keeps R client (selectCount selection debug mode : Action (Facade σ) Value) :=
  (Keeps.ofAttempt _).bind fun _ =>
    (select_keeps hrun _ debug).bind fun _ => Keeps.of_eq (fetch_leavesClient mode)

theorem selectRow_keeps (selection : Selection) (mode : FetchMode) (debug : Value) :
    Keeps R client (selectRow selection mode debug : Action (Facade σ) Value) :=
  (Keeps.ofAttempt _).bind fun _ =>
    (select_keeps hrun _ debug).bind fun _ => Keeps.of_eq (fetch_leavesClient mode)

omit hrun

/-! ### Raw statements -/

def composeRaw (sql placeholders : Value) : Action (Builder σ) Unit := do
  Builder.rawQuery sql
  Builder.addPlaceholders placeholders

omit [Connection σ] in
theorem composeRaw_starting (sql placeholders : Value) :
    Builder.Starting (composeRaw sql placeholders : Action (Builder σ) Unit) :=
  (Builder.rawQuery_starting sql).bind fun _ => Builder.addPlaceholders_composing placeholders

omit [Connection σ] in
theorem composeRaw_leavesClient (sql placeholders : Value) :
    Builder.LeavesClient (composeRaw sql placeholders : Action (Builder σ) Unit) :=
  (composeRaw_starting sql placeholders).leavesClient

theorem isRead_composeRaw {sql : String} (h : (Connection.parser σ).isRead sql = true)
    (placeholders : Value) (builder : Builder σ) :
    Builder.isRead (Connection.parser σ)
      ((composeRaw (.text sql) placeholders).after builder).descriptor = true := by
  let told := Builder.isRead (Connection.parser σ)
  have hadd : Keeps Eq (fun builder : Builder σ => told builder.descriptor)
      (Builder.addPlaceholders placeholders) :=
    Builder.Continuation.run_view told
      (.addPlaceholders placeholders) (fun _ _ => rfl) (fun _ _ => rfl) (fun _ _ _ _ => rfl)
  have hraw : told ((Builder.rawQuery (.text sql)).after builder).descriptor =
      (Connection.parser σ).isRead sql := Builder.isRead_raw _ rfl rfl
  have hcompose : (composeRaw (.text sql) placeholders).after builder =
      (Builder.addPlaceholders placeholders).after ((Builder.rawQuery (.text sql)).after builder) :=
    Action.after_bind_ok rfl
  rw [hcompose]
  exact (hadd _).symm.trans (hraw.trans h)

include hrun

/-- A raw statement that is told to be a read keeps what a read keeps. -/
theorem query_keeps_of_read {sql : String} (h : (Connection.parser σ).isRead sql = true)
    (placeholders debug : Value) :
    Keeps R client (query (.text sql) placeholders debug : Action (Facade σ) ExecutionResult) :=
  runWith_keeps_of_read hrun (composeRaw_leavesClient _ _) (isRead_composeRaw h placeholders) debug

end Facade

namespace Pager

/-! ## Pages -/

omit [IsPreorder (Client σ) R] [Connection σ] in
theorem onFacade_keeps {α : Type} {action : Action (Facade σ) α}
    (h : Keeps R Facade.client action) : Keeps R client (onFacade action) :=
  Keeps.on facadePart (fun _ _ => rfl) h

omit [Connection σ] in
theorem relabelled_keeps {α : Type} {label : Fault → Fault} {action : Action (Pager σ) α}
    (h : Keeps R client action) : Keeps R client (relabelled label action) := by
  refine h.attempt.bind fun result => ?_
  split
  · exact Keeps.pure _
  · exact Keeps.throw _

omit [Connection σ] in
theorem groupedStatement_leavesClient (table : Value) (columns : String)
    (condition grouping : Value) (distinct : Bool) :
    Builder.LeavesClient (groupedStatement table columns condition grouping distinct :
      Action (Builder σ) (String × Value.Entries)) :=
  (Builder.select_starting _).leavesClient.bind fun _ =>
    (Builder.fromTable_composing _).leavesClient.bind fun _ =>
      (Builder.filter_composing _).leavesClient.bind fun _ =>
        Keeps.bind (Builder.editParameters_composing
            ({ · with groupBy := grouping })).leavesClient fun _ =>
          Keeps.bind (Builder.editParameters_composing
              ({ · with selectDistinct := .bool distinct })).leavesClient fun _ =>
            Keeps.get.bind fun _ =>
              (Keeps.ofAttempt _).bind fun _ => (Keeps.ofAttempt _).bind fun _ => Keeps.pure _

include hrun

theorem countGroups_keeps (selection : Facade.Selection) (columns : String) (grouping : Value)
    (distinct : Bool) (debug : Value) :
    Keeps R Facade.client
      (countGroups selection columns grouping distinct debug : Action (Facade σ) Value) := by
  refine (Facade.onBuilder_keeps (Keeps.of_eq
    (groupedStatement_leavesClient _ _ _ _ _))).bind fun grouped => ?_
  obtain ⟨inner, placeholders⟩ := grouped
  have hbegins : ("SELECT COUNT(*) AS rowsCount FROM (" ++ inner ++ ") grouped_rows").toList =
      Statement.selecting ("OUNT(*) AS rowsCount FROM (".toList ++ inner.toList ++
        ") grouped_rows".toList) := by
    simp [Statement.selecting]
  have hread := Statement.isRead_selecting (Connection.parser σ) hbegins
  exact (Facade.query_keeps_of_read hrun hread _ debug).bind fun _ =>
    Keeps.of_eq (Facade.fetch_leavesClient .num)

theorem countRow_keeps (selection : Facade.Selection) (parameters : Value.Entries)
    (columns : String) (debug : Value) :
    Keeps R Facade.client
      (countRow selection parameters columns debug : Action (Facade σ) Value) := by
  unfold countRow
  dsimp only
  split
  · exact countGroups_keeps hrun selection columns _ _ debug
  · exact Facade.selectCount_keeps hrun _ debug .num

theorem count_keeps (selection : Facade.Selection) (parameters : Value.Entries) (debug : Value) :
    Keeps R client (count selection parameters debug : Action (Pager σ) Int) := by
  refine (Keeps.ofAttempt _).bind fun columns => ?_
  refine (relabelled_keeps (onFacade_keeps
    (countRow_keeps hrun selection parameters columns debug))).bind fun row => ?_
  split
  · exact Keeps.ofAttempt _
  · exact Keeps.throw _

theorem fetchPage_keeps (selection : Facade.Selection) (parameters : Value.Entries)
    (debug : Value) :
    Keeps R Facade.client
      (fetchPage selection parameters debug : Action (Facade σ) Int) :=
  (Facade.select_keeps hrun _ debug).bind fun _ =>
    Facade.onBuilder_keeps (Builder.numRows_keeps hrun)

/-- A page is counted and fetched by reads alone. -/
theorem select_keeps (selection : Facade.Selection) (debug requested : Value) :
    Keeps R client (select selection debug requested : Action (Pager σ) Unit) := by
  refine Keeps.bind (Keeps.modify fun _ => rfl) fun _ => (Keeps.ofAttempt _).bind fun parameters =>
    (count_keeps hrun selection parameters debug).bind fun total => Keeps.get.bind fun _ => ?_
  refine (Keeps.ofAttempt _).bind fun _ => (Keeps.ofAttempt _).bind fun _ =>
    (Keeps.ofAttempt _).bind fun limit => ?_
  exact (relabelled_keeps (onFacade_keeps
    (fetchPage_keeps hrun selection _ debug))).bind fun _ =>
      Keeps.bind (Keeps.modify fun _ => rfl) fun _ => (Keeps.ofAttempt _).bind fun _ => Keeps.pure _

end Pager

end SqlToolkit
